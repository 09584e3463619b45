import Runcell.Cli.Host

/-!
# Runcell — frame conditions on the host

What a command may do to the host is a relation between the host it starts from and the
host it leaves, on every exit (`Preserves`). A relation that is a preorder (`HostRel`) is
kept by `pure`, by `>>=` when both sides keep it, by `attempt` and `context`, and by the
branches of an `if`; so a command keeps it when each of its steps does, and the
commands' frame theorems are assembled step by step from the lemmas about the host's calls.

The relations used: `outside S`, every path outside `S` holds what it held; `grows`, no
path disappears; `callsWithin P`, every call made satisfies `P`.
-/

namespace Runcell

/-- A preorder on hosts. -/
structure HostRel where
  rel : Host → Host → Prop
  refl : ∀ h, rel h h
  trans : ∀ {a b c}, rel a b → rel b c → rel a c

namespace HostRel

/-- Every path outside `S` holds what it held. -/
def outside (S : List String → Prop) : HostRel where
  rel a b := ∀ k, ¬S k → b.fs.get? k = a.fs.get? k
  refl _ _ _ := rfl
  trans hab hbc k hk := (hbc k hk).trans (hab k hk)

/-- No path disappears. -/
def grows : HostRel where
  rel a b := ∀ k, (a.fs.get? k).isSome → (b.fs.get? k).isSome
  refl _ _ h := h
  trans hab hbc k hk := hbc k (hab k hk)

/-- The filesystem is untouched. -/
def fsSame : HostRel where
  rel a b := b.fs = a.fs
  refl _ := rfl
  trans hab hbc := hbc.trans hab

/-- Every call made satisfies `P`. -/
def callsWithin (P : HostCall → Prop) : HostRel where
  rel a b := ∃ l, b.calls = a.calls ++ l ∧ ∀ c ∈ l, P c
  refl _ := ⟨[], by simp, by simp⟩
  trans := by
    rintro _ _ _ ⟨l₁, h₁, p₁⟩ ⟨l₂, h₂, p₂⟩
    exact ⟨l₁ ++ l₂, by rw [h₂, h₁, List.append_assoc], fun c hc =>
      (List.mem_append.mp hc).elim (p₁ c) (p₂ c)⟩

/-- An invariant of the filesystem, kept from the host a step starts from to the one it
leaves. -/
def keeps (Q : Fs → Prop) : HostRel where
  rel a b := Q a.fs → Q b.fs
  refl _ h := h
  trans hab hbc h := hbc (hab h)

/-- The filesystem is left as it was, when `Q` holds of it. -/
def sameIf (Q : Fs → Prop) : HostRel where
  rel a b := Q a.fs → b.fs = a.fs
  refl _ _ := rfl
  trans hab hbc h := by
    have hb := hab h
    rw [hbc (hb ▸ h), hb]

end HostRel

/-- Every exit of `x` leaves a host related by `R` to the one it started from. -/
def Preserves (R : HostRel) {α : Type} (x : Run Host α) : Prop := ∀ h, R.rel h (x h).2

/-- `x` reads the host and changes nothing. -/
def ReadOnly {α : Type} (x : Run Host α) : Prop := ∀ h, (x h).2 = h

variable {R : HostRel} {α β : Type}

namespace Preserves

theorem of_readOnly {x : Run Host α} (hx : ReadOnly x) : Preserves R x := fun h =>
  (hx h).symm ▸ R.refl h

theorem pure (a : α) : Preserves R (pure a : Run Host α) := fun h => R.refl h

theorem fail (e : String) : Preserves R (Run.fail e : Run Host α) := fun h => R.refl h

theorem bind {x : Run Host α} {f : α → Run Host β} (hx : Preserves R x)
    (hf : ∀ a, Preserves R (f a)) : Preserves R (x >>= f) := by
  intro h
  have hxh := hx h
  rw [Run.bind_apply]
  rcases hr : x h with ⟨_ | _ | _, h'⟩ <;> rw [hr] at hxh
  · exact R.trans hxh (hf _ h')
  · exact hxh
  · exact hxh

theorem attempt {x : Run Host α} (hx : Preserves R x) : Preserves R (Run.attempt x) := by
  intro h
  have hxh := hx h
  simp only [Run.attempt]
  rcases hr : x h with ⟨_ | _ | _, h'⟩ <;> rw [hr] at hxh <;> exact hxh

theorem context (msg : String) {x : Run Host α} (hx : Preserves R x) :
    Preserves R (Run.context msg x) := by
  intro h
  have hxh := hx h
  simp only [Run.context]
  rcases hr : x h with ⟨_ | _ | _, h'⟩ <;> rw [hr] at hxh <;> exact hxh

theorem ite {c : Prop} [Decidable c] {x y : Run Host α} (hx : Preserves R x) (hy : Preserves R y) :
    Preserves R (if c then x else y) := by
  split
  · exact hx
  · exact hy

/-- A `bind` whose continuation keeps `R` from each host its first step leaves with `Ok`. -/
theorem bind_ok {x : Run Host α} {f : α → Run Host β} (hx : Preserves R x)
    (hf : ∀ h a h', x h = (.ok a, h') → R.rel h' (f a h').2) : Preserves R (x >>= f) := by
  intro h
  have hxh := hx h
  rw [Run.bind_apply]
  rcases hr : x h with ⟨_ | _ | _, h'⟩ <;> rw [hr] at hxh
  · exact R.trans hxh (hf h _ h' hr)
  · exact hxh
  · exact hxh

/-- An `if` whose branches keep `R` under its condition. -/
theorem ite_of {c : Prop} [Decidable c] {x y : Run Host α} (hx : c → Preserves R x)
    (hy : ¬c → Preserves R y) : Preserves R (if c then x else y) := by
  split
  · exact hx ‹_›
  · exact hy ‹_›

theorem okOr (o : Option α) (e : String) : Preserves R (Run.okOr o e : Run Host α) := by
  cases o
  · exact fail e
  · exact pure _

theorem mono {R' : HostRel} {x : Run Host α} (hx : Preserves R x) (h : ∀ a b, R.rel a b → R'.rel a b) :
    Preserves R' x := fun s => h _ _ (hx s)

theorem foldlM {γ : Type} (l : List γ) (f : α → γ → Run Host α) (hf : ∀ a c, Preserves R (f a c))
    (init : α) : Preserves R (l.foldlM f init) := by
  induction l generalizing init with
  | nil => exact pure _
  | cons c l ih => exact bind (hf init c) ih

end Preserves

theorem ReadOnly.pathExists (p : String) : ReadOnly (pathExists p) := fun _ => rfl

theorem ReadOnly.isProcessRunning (pid : Int) : ReadOnly (isProcessRunning pid) := fun _ => rfl

theorem ReadOnly.loadContainerState (base id : String) :
    ReadOnly (loadContainerState base id) := by
  intro h
  simp only [Runcell.loadContainerState]
  split <;> rfl

/-- After `x`, a read-only continuation leaves the host as `x` left it. -/
theorem snd_bind_of_readOnly {x : Run Host α} {f : α → Run Host β} (hf : ∀ a, ReadOnly (f a))
    (h : Host) : ((x >>= f) h).2 = (x h).2 := by
  rw [Run.bind_apply]
  rcases x h with ⟨_ | _ | _, h'⟩
  · exact hf _ h'
  all_goals rfl

theorem snd_context (msg : String) (x : Run Host α) (h : Host) :
    (Run.context msg x h).2 = (x h).2 := by
  simp only [Run.context]
  split <;> simp_all

-- ---------------------------------------------------------------------------
-- The host's calls
-- ---------------------------------------------------------------------------

section Calls

variable (w : HostWorld)

/-- A call records itself and touches nothing else. -/
theorem call_apply (c : HostCall) (h : Host) :
    (call w c h).2 = { h with calls := h.calls ++ [c] } := by
  simp only [call]
  split <;> rfl

theorem call_of_none {c : HostCall} {h : Host} (hc : w.fails h.calls c = none) :
    call w c h = (.ok (), { h with calls := h.calls ++ [c] }) := by
  simp [call, hc]

theorem call_of_some {c : HostCall} {h : Host} {e : String} (hc : w.fails h.calls c = some e) :
    call w c h = (.err e, { h with calls := h.calls ++ [c] }) := by
  simp [call, hc]

theorem snd_nsenter (args : List String) (h : Host) :
    (nsenter w args h).2 = { h with calls := h.calls ++ [.nsenter args] } := by
  rw [nsenter, snd_bind_of_readOnly (fun _ _ => rfl), call_apply]

/-- `let _ = ...` of a call: the call is made, and its error dropped. -/
theorem attempt_call (c : HostCall) (h : Host) :
    ∃ r, Run.attempt (call w c) h = (.ok r, { h with calls := h.calls ++ [c] }) := by
  simp only [Run.attempt, call]
  cases w.fails h.calls c <;> simp

section Apply

variable {w} {h : Host} {e : String}

theorem createDirAll_of_none {p : String} (hc : w.fails h.calls (.createDirAll p) = none) :
    createDirAll w p h =
      (.ok (), { h with fs := h.fs.mkdirAll (resolve p), calls := h.calls ++ [.createDirAll p] }) := by
  simp [createDirAll, bind, Run.bind, call_of_none w hc]

theorem createDirAll_of_some {p : String} (hc : w.fails h.calls (.createDirAll p) = some e) :
    createDirAll w p h = (.err e, { h with calls := h.calls ++ [.createDirAll p] }) := by
  simp [createDirAll, bind, Run.bind, call_of_some w hc]

theorem saveSpec_of_none {p : String} {spec : Spec} (hc : w.fails h.calls (.save p) = none) :
    saveSpec w p spec h = (.ok (),
      { h with fs := h.fs.write (resolve p) (.config spec), calls := h.calls ++ [.save p] }) := by
  simp [saveSpec, bind, Run.bind, call_of_none w hc]

theorem saveSpec_of_some {p : String} {spec : Spec} (hc : w.fails h.calls (.save p) = some e) :
    saveSpec w p spec h = (.err e, { h with calls := h.calls ++ [.save p] }) := by
  simp [saveSpec, bind, Run.bind, call_of_some w hc]

theorem pullAndExtract_of_none {image id : String}
    (hc : w.fails h.calls (.pullAndExtract image id) = none) :
    pullAndExtract w image id h =
      (.ok (w.rootfs image id), { h with calls := h.calls ++ [.pullAndExtract image id] }) := by
  simp [pullAndExtract, bind, Run.bind, call_of_none w hc]

theorem pullAndExtract_of_some {image id : String}
    (hc : w.fails h.calls (.pullAndExtract image id) = some e) :
    pullAndExtract w image id h = (.err e, { h with calls := h.calls ++ [.pullAndExtract image id] }) := by
  simp [pullAndExtract, bind, Run.bind, call_of_some w hc]

/-- After `create_dir_all(p)` returned `Ok`, the directories are made. -/
theorem createDirAll_eq_ok {p : String} {h' : Host} {a : Unit}
    (hok : createDirAll w p h = (.ok a, h')) : h'.fs = h.fs.mkdirAll (resolve p) := by
  cases hf : w.fails h.calls (.createDirAll p) with
  | none => rw [createDirAll_of_none hf] at hok; cases hok; rfl
  | some e => rw [createDirAll_of_some hf] at hok; cases hok

end Apply

theorem fsSame_of_calls {x : Run Host α} (hx : ∀ h, ∃ l, (x h).2 = { h with calls := h.calls ++ l }) :
    Preserves .fsSame x := fun h => by
  obtain ⟨l, hl⟩ := hx h
  rw [hl]
  rfl

theorem Preserves.call_fsSame (c : HostCall) : Preserves .fsSame (call w c) :=
  fsSame_of_calls fun h => ⟨[c], call_apply w c h⟩

theorem Preserves.call_within {P : HostCall → Prop} {c : HostCall} (hc : P c) :
    Preserves (.callsWithin P) (call w c) := fun h =>
  ⟨[c], by rw [call_apply], by simpa using hc⟩

theorem Preserves.modify_within {P : HostCall → Prop} {g : Host → Host}
    (hg : ∀ h, (g h).calls = h.calls) : Preserves (.callsWithin P) (Run.modify g) :=
  fun h => ⟨[], by simp [hg], by simp⟩

theorem Preserves.removeDirAll_within {P : HostCall → Prop} {p : String}
    (hp : P (.removeDirAll p)) : Preserves (.callsWithin P) (removeDirAll w p) :=
  .bind (Preserves.call_within w hp) fun _ => Preserves.modify_within fun _ => rfl

theorem Preserves.createDirAll_within {P : HostCall → Prop} {p : String}
    (hp : P (.createDirAll p)) : Preserves (.callsWithin P) (createDirAll w p) :=
  .bind (Preserves.call_within w hp) fun _ => Preserves.modify_within fun _ => rfl

theorem Preserves.saveSpec_within {P : HostCall → Prop} {p : String} {spec : Spec}
    (hp : P (.save p)) : Preserves (.callsWithin P) (saveSpec w p spec) :=
  .bind (Preserves.call_within w hp) fun _ => Preserves.modify_within fun _ => rfl

theorem Preserves.readDir_within {P : HostCall → Prop} {p : String} (hp : P (.readDir p)) :
    Preserves (.callsWithin P) (readDir w p) :=
  .bind (Preserves.call_within w hp) fun _ => .bind (.of_readOnly fun _ => rfl) fun _ => .pure _

theorem Preserves.pullAndExtract_within {P : HostCall → Prop} {image id : String}
    (hp : P (.pullAndExtract image id)) : Preserves (.callsWithin P) (pullAndExtract w image id) :=
  .bind (Preserves.call_within w hp) fun _ => .pure _

theorem Preserves.nsenter_within {P : HostCall → Prop} {args : List String}
    (hp : P (.nsenter args)) : Preserves (.callsWithin P) (nsenter w args) :=
  .bind (Preserves.call_within w hp) fun _ => .bind (.of_readOnly fun _ => rfl) fun _ => .pure _

theorem Preserves.keeps_of_fsSame {Q : Fs → Prop} {x : Run Host α} (hx : Preserves .fsSame x) :
    Preserves (.keeps Q) x :=
  fun h hq => (hx h).symm ▸ hq

theorem Preserves.sameIf_of_fsSame {Q : Fs → Prop} {x : Run Host α} (hx : Preserves .fsSame x) :
    Preserves (.sameIf Q) x :=
  fun h _ => hx h

/-- `remove_dir_all(p)` keeps every invariant that removing `p` keeps. -/
theorem Preserves.removeDirAll_keeps {Q : Fs → Prop} (p : String)
    (hQ : ∀ fs, Q fs → Q (fs.removeAll (resolve p))) : Preserves (.keeps Q) (removeDirAll w p) :=
  .bind (Preserves.keeps_of_fsSame (Preserves.call_fsSame w _)) fun _ h => hQ h.fs

/-- `create_dir_all(p)` keeps every invariant that making `p`'s directories keeps. -/
theorem Preserves.createDirAll_keeps {Q : Fs → Prop} (p : String)
    (hQ : ∀ fs, Q fs → Q (fs.mkdirAll (resolve p))) : Preserves (.keeps Q) (createDirAll w p) :=
  .bind (Preserves.keeps_of_fsSame (Preserves.call_fsSame w _)) fun _ h => hQ h.fs

theorem Preserves.outside_of_fsSame {S : List String → Prop} {x : Run Host α}
    (hx : Preserves .fsSame x) : Preserves (.outside S) x :=
  fun h k _ => congrArg (·.get? k) (hx h)

theorem Preserves.grows_of_fsSame {x : Run Host α} (hx : Preserves .fsSame x) :
    Preserves .grows x :=
  fun h _ hk => (hx h).symm ▸ hk

theorem Preserves.removeDirAll_outside (p : String) :
    Preserves (.outside (resolve p <+: ·)) (removeDirAll w p) := by
  refine Preserves.bind (Preserves.call_fsSame w _).outside_of_fsSame fun _ h k hk => ?_
  simp only [Run.modify_apply]
  rw [Fs.get?_removeAll, if_neg hk]

theorem Preserves.createDirAll_grows (p : String) : Preserves .grows (createDirAll w p) := by
  refine Preserves.bind (Preserves.call_fsSame w _).grows_of_fsSame fun _ h k hk => ?_
  obtain ⟨n, hn⟩ := Option.isSome_iff_exists.mp hk
  simp [Fs.get?_mkdirAll hn]

theorem Preserves.saveSpec_grows (p : String) (spec : Spec) :
    Preserves .grows (saveSpec w p spec) := by
  refine Preserves.bind (Preserves.call_fsSame w _).grows_of_fsSame fun _ h k hk => ?_
  simp only [Run.modify_apply, Fs.write, HashMap.get?_insert]
  split <;> simp_all

theorem Preserves.createDirAll_outside (p : String) :
    Preserves (.outside (· <+: resolve p)) (createDirAll w p) := by
  refine Preserves.bind (Preserves.call_fsSame w _).outside_of_fsSame fun _ h k hk => ?_
  exact Fs.get?_mkdirAll_of_not_prefix _ hk

theorem Preserves.saveSpec_outside (p : String) (spec : Spec) :
    Preserves (.outside (· = resolve p)) (saveSpec w p spec) := by
  refine Preserves.bind (Preserves.call_fsSame w _).outside_of_fsSame fun _ h k hk => ?_
  simp only [Run.modify_apply, Fs.write, HashMap.get?_insert, if_neg (Ne.symm hk)]

theorem Preserves.readDir_fsSame (p : String) : Preserves .fsSame (readDir w p) :=
  .bind (Preserves.call_fsSame w _) fun _ => .bind (.of_readOnly fun _ => rfl) fun _ => .pure _

end Calls

end Runcell
