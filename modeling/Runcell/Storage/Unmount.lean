import Runcell.Storage.Devices

/-!
# Runcell — `unmount` and the stack of mounts

`unmount` of `storage/src/mount.rs`: a target that does not exist counts as unmounted;
otherwise `umount(2)`, whose error shows as `Failed to unmount <target>`. The kernel's
`umount(2)` takes off the topmost mount at the target and fails with `EINVAL` where nothing
is mounted (`kernelUmount`). Besides, a `UmountWorld` decides when the call fails for a
reason of the host (`EBUSY`, `EPERM`), from the whole host; the host records the `mount(2)`
calls only.

The three mount functions of `mount.rs` are the constructors of `MountOp`. A call adds one
mount (`MountOp.AddsMount`) when none of its options is `remount`, and, if it binds, none
sets `MS_REC`, and, if it does not, none sets a propagation type: a remount changes the
mount already at the target, and so does a propagation type, which adds no mount; a
recursive bind also copies the mounts beneath its source, which the table does not model.
When such a call returns `Ok`, it has created its target if needed and put one mount at the
target on top of the table (`MountOp.run_ok`): the read-only remount of `bind_mount` changes
that mount and no other. So these mounts and `unmount` keep to a stack discipline.

Main results:

* `MountOp.run_ok` — what a successful mount does to the table and the paths.
* `unmount_reverse_restores` — after any sequence of successful mounts that each add a
  mount, unmounting their targets in the reverse order succeeds when the host lets every
  `umount(2)` through, and gives back the table the mounts started from.
-/

namespace Runcell

-- ---------------------------------------------------------------------------
-- The kernel
-- ---------------------------------------------------------------------------

/-- The table without its topmost mount at `target`; `none` when nothing is mounted there. -/
def removeTop (target : String) : List MountEntry → Option (List MountEntry)
  | [] => none
  | e :: es =>
    match removeTop target es with
    | some es' => some (e :: es')
    | none => if e.target = target then some es else none

/-- What a successful `umount(2)` does to the table. -/
def kernelUmount (target : String) (table : List MountEntry) : Except String (List MountEntry) :=
  match removeTop target table with
  | some table' => .ok table'
  | none => .error einval

theorem removeTop_append_of_target {target : String} (table : List MountEntry) {e : MountEntry}
    (he : e.target = target) : removeTop target (table ++ [e]) = some table := by
  induction table with
  | nil => simp [removeTop, he]
  | cons x xs ih => simp [removeTop, ih]

theorem remountTop_append_of_target {target : String} {ro : Bool} (table : List MountEntry)
    {e : MountEntry} (he : e.target = target) :
    remountTop target ro (table ++ [e]) = some (table ++ [{ e with readOnly := ro }]) := by
  induction table with
  | nil => simp [remountTop, he]
  | cons x xs ih => simp [remountTop, ih]

/-- Without `MS_REMOUNT`, and with `MS_BIND` or no propagation type, a successful `mount(2)`
puts one mount at the target on top. -/
theorem kernelMount_push {sourceRo : Bool} {source fstype data : Option String}
    {target : String} {flags : MsFlags} {table table' : List MountEntry}
    (hr : flags.has .remount = false) (hb : flags.has .bind = true ∨ flags.propagation = false)
    (h : kernelMount sourceRo source target fstype flags data table = .ok table') :
    ∃ e : MountEntry, e.target = target ∧ table' = table ++ [e] := by
  simp only [kernelMount, hr, Bool.false_eq_true, if_false] at h
  rcases hb with hb | hb
  · simp only [hb, if_true, Except.ok.injEq] at h
    exact ⟨_, rfl, h.symm⟩
  · split at h
    · cases h
      exact ⟨_, rfl, rfl⟩
    · simp only [hb, Bool.false_eq_true, if_false, Except.ok.injEq] at h
      exact ⟨_, rfl, h.symm⟩

/-- A remount when the topmost mount at the target is the last one changes that one only. -/
theorem kernelMount_remount_last {sourceRo : Bool} {source fstype data : Option String}
    {target : String} {flags : MsFlags} {table table' : List MountEntry} {e : MountEntry}
    (hr : flags.has .remount = true) (he : e.target = target)
    (h : kernelMount sourceRo source target fstype flags data (table ++ [e]) = .ok table') :
    ∃ e' : MountEntry, e'.target = target ∧ table' = table ++ [e'] := by
  simp only [kernelMount, hr, if_true, remountTop_append_of_target table he] at h
  cases h
  exact ⟨{ e with readOnly := flags.has .rdonly }, he, rfl⟩

-- ---------------------------------------------------------------------------
-- `unmount`
-- ---------------------------------------------------------------------------

/-- Whether `umount(2)` fails for a reason of the host, and with what error. -/
structure UmountWorld where
  fails : MountHost → String → Option String

section Unmount

variable (u : UmountWorld)

/-- `nix::mount::umount(target)`. -/
def sysUmount (target : String) : Run MountHost Unit := fun h =>
  match u.fails h target, kernelUmount target h.table with
  | some e, _ => (.err e, h)
  | none, .error e => (.err e, h)
  | none, .ok table => (.ok (), { h with table := table })

/-- `unmount(target)`. -/
def unmount (target : String) : Run MountHost Unit := do
  if !(← mountPathExists target) then
    return
  Run.context ("Failed to unmount " ++ target) (sysUmount u target)

/-- `unmount` of an existing target whose topmost mount is the last one of the table, on a
host that lets the call through: that mount goes, and nothing else changes. -/
theorem unmount_last {target : String} {h : MountHost} {table : List MountEntry}
    {e : MountEntry} (hu : u.fails h target = none) (hp : target ∈ h.paths)
    (ht : h.table = table ++ [e]) (he : e.target = target) :
    unmount u target h = (.ok (), { h with table := table }) := by
  simp [unmount, mountPathExists, Run.bind_apply, hp, Run.context_apply, sysUmount, hu,
    kernelUmount, ht, removeTop_append_of_target table he]

end Unmount

-- ---------------------------------------------------------------------------
-- The mounts of the crate
-- ---------------------------------------------------------------------------

/-- A call of one of the three mount functions of `mount.rs`, with its arguments. -/
inductive MountOp where
  | bind (source target : String) (options : List String)
  | device (device target fstype : String) (options : List String)
  | overlay (lower upper work target : String) (options : List String)

namespace MountOp

/-- The mount point of the call. -/
def target : MountOp → String
  | .bind _ t _ | .device _ t _ _ | .overlay _ _ _ t _ => t

/-- The mount options of the call. -/
def options : MountOp → List String
  | .bind _ _ o | .device _ _ _ o | .overlay _ _ _ _ o => o

/-- `bind_mount`, `mount_device` or `mount_overlay`. -/
def run (w : MountWorld) : MountOp → Run MountHost Unit
  | .bind s t o => bindMount w s t o
  | .device d t f o => mountDevice w d t f o
  | .overlay l up wk t o => mountOverlay w l up wk t o

/-- The call binds: `bind_mount` always, the others with a `bind` or `rbind` option. -/
def binds : MountOp → Bool
  | .bind _ _ _ => true
  | .device _ _ _ o | .overlay _ _ _ _ o => o.any fun opt => opt == "bind" || opt == "rbind"

/-- The call adds one mount, at its target: none of its options is `remount`; a bind is not
recursive (a recursive one also copies the mounts beneath its source); and a call that does
not bind sets no propagation type, which would change the mount already there. -/
def AddsMount (op : MountOp) : Prop :=
  "remount" ∉ op.options ∧ (op.binds = true → ∀ o ∈ op.options, o ∉ recursiveOptions) ∧
    (op.binds = false → ∀ o ∈ op.options, o ∉ propagationOptions)

instance (op : MountOp) : Decidable op.AddsMount := inferInstanceAs (Decidable (_ ∧ _ ∧ _))

end MountOp

-- ---------------------------------------------------------------------------
-- Triples on the `Ok` exits
-- ---------------------------------------------------------------------------

/-- `⦃P⦄ x ⦃Q⦄` on the `Ok` exits: from a host satisfying `P`, an exit with `Ok` leaves a host
satisfying `Q`. -/
def OkTriple {α : Type} (P : MountHost → Prop) (x : Run MountHost α) (Q : MountHost → Prop) :
    Prop :=
  ∀ h h' a, P h → x h = (.ok a, h') → Q h'

namespace OkTriple

variable {α β : Type} {P Q R : MountHost → Prop}

theorem pure (a : α) : OkTriple P (pure a : Run MountHost α) P := by
  rintro h h' b hp ⟨⟩
  exact hp

theorem fail (e : String) : OkTriple P (Run.fail e : Run MountHost α) Q := by
  rintro h h' b - ⟨⟩

theorem bind {x : Run MountHost α} {f : α → Run MountHost β} (hx : OkTriple P x Q)
    (hf : ∀ a, OkTriple Q (f a) R) : OkTriple P (x >>= f) R := by
  intro h h'' b hp hok
  obtain ⟨a, h', hx', hf'⟩ := Run.bind_eq_ok hok
  exact hf a h' h'' b (hx h h' a hp hx') hf'

theorem context (msg : String) {x : Run MountHost α} (hx : OkTriple P x Q) :
    OkTriple P (Run.context msg x) Q := fun h h' a hp hok => hx h h' a hp (Run.context_eq_ok hok)

theorem ite {c : Prop} [Decidable c] {x y : Run MountHost α} (hx : OkTriple P x Q)
    (hy : OkTriple P y Q) : OkTriple P (if c then x else y) Q := by
  split
  · exact hx
  · exact hy

theorem weaken {x : Run MountHost α} (hx : OkTriple P x Q) (hq : ∀ h, Q h → R h) :
    OkTriple P x R := fun h h' a hp hok => hq h' (hx h h' a hp hok)

/-- `if !cond { return Err(..) }` before the rest `k` of a function. -/
theorem guard {c : Bool} {e : String} {k : PUnit → Run MountHost α} (hk : OkTriple P (k ⟨⟩) Q) :
    OkTriple P (if c then Run.fail e >>= k else Pure.pure ⟨⟩ >>= k) Q :=
  .ite (.bind (.fail e) fun _ => hk) (.bind (.pure _) fun _ => hk)

theorem mountPathExists (p : String) : OkTriple P (mountPathExists p) P := by
  rintro h h' b hp ⟨⟩
  exact hp

variable (w : MountWorld) (T : List MountEntry) (S : List String)

/-- `create_dir_all` when missing: on `Ok` the path exists, and the table is as it was. -/
theorem createDirIfMissing (what p : String) :
    OkTriple (fun h => h.table = T ∧ S ⊆ h.paths) (createDirIfMissing w what p)
      (fun h => h.table = T ∧ p :: S ⊆ h.paths) := by
  rintro h h' _ ⟨ht, hs⟩ hok
  by_cases hp : p ∈ h.paths
  · have : h = h' := by
      simpa [Runcell.createDirIfMissing, Runcell.mountPathExists, Run.bind_apply, hp] using hok
    subst this
    exact ⟨ht, List.cons_subset.mpr ⟨hp, hs⟩⟩
  · simp only [Runcell.createDirIfMissing, Runcell.mountPathExists, Run.bind_apply, hp,
      decide_False, Bool.not_false, if_true] at hok
    have hc := Run.context_eq_ok hok
    simp only [mountCreateDirAll] at hc
    cases hf : w.fails h.calls (.createDirAll p) <;> simp only [hf] at hc <;> cases hc
    exact ⟨ht, List.cons_subset.mpr ⟨by simp, fun x hx => by simp [hs hx]⟩⟩

variable {source fstype data : Option String} {target : String} {flags : MsFlags}

/-- `mount(2)` without `MS_REMOUNT`, and with `MS_BIND` or no propagation type: on `Ok` one
mount at the target is on top. -/
theorem sysMount_push (hr : flags.has .remount = false)
    (hb : flags.has .bind = true ∨ flags.propagation = false) :
    OkTriple (fun h => h.table = T ∧ S ⊆ h.paths) (sysMount w source target fstype flags data)
      (fun h => S ⊆ h.paths ∧ ∃ e : MountEntry, e.target = target ∧ h.table = T ++ [e]) := by
  rintro h h' _ ⟨rfl, hs⟩ hok
  simp only [sysMount] at hok
  split at hok <;> cases hok
  exact ⟨hs, kernelMount_push hr hb ‹_›⟩

/-- `mount(2)` with `MS_REMOUNT` when the last mount is at the target: on `Ok` it is the only
one changed. -/
theorem sysMount_remount (hr : flags.has .remount = true) :
    OkTriple (fun h => S ⊆ h.paths ∧ ∃ e : MountEntry, e.target = target ∧ h.table = T ++ [e])
      (sysMount w source target fstype flags data)
      (fun h => S ⊆ h.paths ∧ ∃ e : MountEntry, e.target = target ∧ h.table = T ++ [e]) := by
  rintro h h' _ ⟨hs, e, he, ht⟩ hok
  simp only [sysMount] at hok
  split at hok <;> cases hok
  rw [ht] at *
  exact ⟨hs, kernelMount_remount_last hr he ‹_›⟩

end OkTriple

-- ---------------------------------------------------------------------------
-- What a successful mount does
-- ---------------------------------------------------------------------------

section Ops

variable (w : MountWorld) (T : List MountEntry) (S : List String)

/-- The postcondition of a successful mount at `target`: the target and every path of `S`
exist, and one mount at the target is on top of `T`. -/
def Pushed (T : List MountEntry) (S : List String) (target : String) (h : MountHost) : Prop :=
  target :: S ⊆ h.paths ∧ ∃ e : MountEntry, e.target = target ∧ h.table = T ++ [e]

theorem remount_not_has {options : List String} (hr : "remount" ∉ options) :
    (parseMountFlags options).has .remount = false := by
  simpa [parseMountFlags_has, optionFlags_has_remount] using
    fun o ho (he : o = "remount") => hr (he ▸ ho)

/-- The flags of `mount_device` and `mount_overlay` bind when an option binds, and otherwise
set no propagation type when no option does. -/
theorem parseMountFlags_adds {options : List String}
    (hp : (options.any fun o => o == "bind" || o == "rbind") = false →
      ∀ o ∈ options, o ∉ propagationOptions) :
    (parseMountFlags options).has .bind = true ∨ (parseMountFlags options).propagation = false := by
  cases hb : options.any fun o => o == "bind" || o == "rbind"
  · exact .inr (parseMountFlags_propagation (hp hb))
  · exact .inl (by simpa [parseMountFlags_has, optionFlags_has_bind] using hb)

theorem bindMount_pushed {source target : String} {options : List String}
    (hr : "remount" ∉ options) :
    OkTriple (fun h => h.table = T ∧ S ⊆ h.paths) (bindMount w source target options)
      (Pushed T S target) := by
  have hb : (MsFlag.bind.val ||| parseMountFlags options).has .remount = false := by
    simp [remount_not_has hr]
  exact .bind (.mountPathExists _) fun _ => .guard <|
    .bind (.createDirIfMissing w T S _ _) fun _ =>
    .bind (.context _ (.sysMount_push w T _ hb (.inl (by simp)))) fun _ =>
    .ite (.context _ (.sysMount_remount w T _ (by simp))) (.pure _)

theorem mountDevice_pushed {device target fstype : String} {options : List String}
    (hr : "remount" ∉ options) (hp : (options.any fun o => o == "bind" || o == "rbind") = false →
      ∀ o ∈ options, o ∉ propagationOptions) :
    OkTriple (fun h => h.table = T ∧ S ⊆ h.paths) (mountDevice w device target fstype options)
      (Pushed T S target) :=
  .bind (.mountPathExists _) fun _ => .guard <|
    .bind (.createDirIfMissing w T S _ _) fun _ =>
    .context _ (.sysMount_push w T _ (remount_not_has hr) (parseMountFlags_adds hp))

theorem mountOverlay_pushed {lower upper work target : String} {options : List String}
    (hr : "remount" ∉ options) (hp : (options.any fun o => o == "bind" || o == "rbind") = false →
      ∀ o ∈ options, o ∉ propagationOptions) :
    OkTriple (fun h => h.table = T ∧ S ⊆ h.paths) (mountOverlay w lower upper work target options)
      (Pushed T S target) :=
  .bind (.createDirIfMissing w T S _ _) fun _ =>
    .bind (.createDirIfMissing w T _ _ _) fun _ =>
    .bind (.createDirIfMissing w T _ _ _) fun _ =>
    (OkTriple.context _ (.sysMount_push w T _ (remount_not_has hr)
      (parseMountFlags_adds hp))).weaken fun _ ⟨hs, he⟩ => ⟨fun x hx => hs (by simp_all), he⟩

/-- **A successful mount.** When `bind_mount`, `mount_device` or `mount_overlay` adds a mount
and returns `Ok`, its target exists, no path was lost, and the table is the one it started
from with one more mount, at the target, on top. -/
theorem MountOp.run_ok {op : MountOp} (hop : op.AddsMount) :
    OkTriple (fun h => h.table = T ∧ S ⊆ h.paths) (op.run w) (Pushed T S op.target) := by
  cases op with
  | bind => exact bindMount_pushed w T S hop.1
  | device => exact mountDevice_pushed w T S hop.1 hop.2.2
  | overlay => exact mountOverlay_pushed w T S hop.1 hop.2.2

/-- **A run of mounts.** When every mount of `ops` adds a mount and returns `Ok`, no path
was lost, and the table is the one the run started from with one more mount per call on
top, in the order of the calls, each at the call's target, which exists. -/
theorem forM_run_pushes (ops : List MountOp) (hops : ∀ op ∈ ops, op.AddsMount) :
    ∀ h h' : MountHost, ops.forM (·.run w) h = (.ok (), h') →
      h.paths ⊆ h'.paths ∧ ∃ es : List MountEntry, h'.table = h.table ++ es ∧
        es.map (·.target) = ops.map (·.target) ∧ ∀ e ∈ es, e.target ∈ h'.paths := by
  induction ops with
  | nil =>
    rintro h h' ⟨⟩
    exact ⟨fun _ hx => hx, [], by simp, rfl, by simp⟩
  | cons op ops ih =>
    intro h h' hok
    obtain ⟨_, h₁, hop, hrest⟩ := Run.bind_eq_ok hok
    obtain ⟨hp₁, e, he, ht₁⟩ :=
      MountOp.run_ok w h.table h.paths (hops op (List.mem_cons_self _ _)) h h₁ _ ⟨rfl, fun _ hx => hx⟩ hop
    obtain ⟨hp₂, es, ht₂, hmap, hin⟩ :=
      ih (fun op' hop' => hops op' (List.mem_cons_of_mem _ hop')) h₁ h' hrest
    refine ⟨fun x hx => hp₂ (hp₁ (List.mem_cons_of_mem _ hx)), e :: es, ?_, by simp [he, hmap], ?_⟩
    · rw [ht₂, ht₁, List.append_assoc, List.singleton_append]
    · rintro x (_ | ⟨_, hx⟩)
      · exact hp₂ (he ▸ hp₁ (List.mem_cons_self _ _))
      · exact hin x hx

end Ops

section Stack

variable (u : UmountWorld) (hu : ∀ h t, u.fails h t = none)
include hu

/-- **A run of unmounts.** On a host that lets every `umount(2)` through, unmounting the
targets of the mounts on top of `T` from the last one down takes exactly them off. -/
theorem forM_unmount_pops :
    ∀ (es T : List MountEntry) (h : MountHost), h.table = T ++ es →
      (∀ e ∈ es, e.target ∈ h.paths) →
      (es.map (·.target)).reverse.forM (unmount u) h = (.ok (), { h with table := T }) := by
  intro es
  induction es with
  | nil =>
    intro T h ht _
    obtain ⟨paths, table, calls⟩ := h
    simp only [List.append_nil] at ht
    subst ht
    rfl
  | cons e es ih =>
    intro T h ht hin
    rw [List.map_cons, List.reverse_cons, Run.forM_append, Run.bind_of_ok
      (ih (T ++ [e]) h (by rw [ht, List.append_assoc, List.singleton_append])
        fun x hx => hin x (List.mem_cons_of_mem _ hx))]
    show (unmount u e.target >>= fun _ => (pure () : Run MountHost Unit)) _ = _
    rw [Run.bind_pure_unit]
    exact unmount_last u (hu _ _) (hin e (List.mem_cons_self _ _)) rfl rfl

end Stack

/-- With `remount`, `bind_mount` changes the mount already at the target, and `unmount` then
takes that one off. -/
example :
    let w : MountWorld := ⟨fun _ _ => none, fun _ _ => false⟩
    let ops := [MountOp.bind "/src" "/dst" ["remount"]]
    let h : MountHost := ⟨["/src", "/dst"], [⟨some "/a", "/dst", none, none, false⟩], []⟩
    (ops.forM (·.run w) h).1 = .ok () ∧
      (ops.reverse.forM (fun op => unmount ⟨fun _ _ => none⟩ op.target)
        (ops.forM (·.run w) h).2).2.table = [] :=
  ⟨rfl, rfl⟩

/-- With `private`, `mount_device` changes the propagation of the mount already at the
target and adds none, and `unmount` then takes that one off. -/
example :
    let w : MountWorld := ⟨fun _ _ => none, fun _ _ => false⟩
    let ops := [MountOp.device "/dev/vda" "/mnt" "ext4" ["private"]]
    let h : MountHost :=
      ⟨["/dev/vda", "/mnt"], [⟨some "/dev/vdb", "/mnt", some "ext4", none, false⟩], []⟩
    (ops.forM (·.run w) h).1 = .ok () ∧ (ops.forM (·.run w) h).2.table = h.table ∧
      (ops.reverse.forM (fun op => unmount ⟨fun _ _ => none⟩ op.target)
        (ops.forM (·.run w) h).2).2.table = [] :=
  ⟨rfl, rfl, rfl⟩

end Runcell
