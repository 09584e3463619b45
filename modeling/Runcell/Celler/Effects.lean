import Runcell.Celler.Namespace
import Runcell.Celler.WriteMappings

/-!
# Runcell — the parent's effects during a container start

`join_namespaces` talks to the child over the sync pipes and to the kernel through the
cgroup manager, the id-map files and the hook executor. Each of these calls is an `Effect`;
a serialization with `serde_json::to_string` is one too, because it can fail and the code
stops there. The parent's code is a `Run` over the list of effects performed so far.

What an effect returns is decided by a `World`: `serialize` gives the JSON text of a
document (or its error), `answer` gives the outcome of the pipe, cgroup and hook calls from
the effects performed before them, and `sys` the outcomes of the system calls of each
`write_mappings`, whose effect then ends as `writeMappings` does on them: `Ok`, `Err`, or the
panic of its `close(fd).unwrap()`. Nothing is assumed about any of these, so a theorem over
all worlds covers every combination of outcomes, at every position of the handshake.

`performAll w es` performs the effects `es` in order and stops at the first that does not
succeed. Its two lemmas, `performAll_of_allOk` and `performAll_of_stop`, together with
`allOk_or_first_stop`, are everything later proofs need to know about it.
-/

namespace Runcell

/-- `SYNC_DATA` and `SYNC_SUCCESS`, the tags of the messages the parent writes. -/
inductive SyncTag where
  | data
  | success
deriving Repr, DecidableEq

/-- `celler::process::Process`, with the fields `join_namespaces` reads. -/
structure Process where
  pid : Int
  init : Bool
  oci : OciProcess
deriving Repr

/-- The documents the parent serializes for the child. -/
inductive Fragment where
  | spec (s : Spec)
  | process (p : OciProcess)
  | state (st : Json)
  | cgroupManager (m : Json)
deriving Repr

/-- One call the parent makes during the handshake. -/
inductive Effect where
  /-- `serde_json::to_string(x)`. -/
  | serialize (f : Fragment)
  /-- `write_async(pipe_w, tag, payload)`. -/
  | write (tag : SyncTag) (payload : String)
  /-- `read_async(pipe_r)`. -/
  | read
  /-- `write_mappings(logger, path, maps)`. -/
  | writeMappings (path : String) (maps : List LinuxIdMapping)
  /-- `cm.apply(pid)`. -/
  | apply (pid : Int)
  /-- `cm.set(resources, update)`. -/
  | set (resources : Json) (update : Bool)
  /-- `HookStates::execute_hooks(hooks, Some(state))`. -/
  | executeHooks (hooks : List Hook) (st : Json)
deriving Repr

/-- The environment of the parent: serializer outcomes, the outcome of the pipe, cgroup and
hook calls given the effects before them, and the system calls of each map write. -/
structure World where
  serialize : Fragment → Except String String
  answer : List Effect → Effect → Except String Unit
  sys : List Effect → SysWorld

/-- The outcome of effect `e` after the effects `hist`: a map write ends as `write_mappings`
does on the world's system calls; every other effect returns `Ok` or `Err`. -/
def World.outcome (w : World) (hist : List Effect) : Effect → Outcome Unit
  | .serialize f => .ofExcept ((w.serialize f).map fun _ => ())
  | .writeMappings path maps => (writeMappings (w.sys hist) path maps []).1
  | e => .ofExcept (w.answer hist e)

/-- A map write, the one effect that can panic. -/
def Effect.isMapWrite : Effect → Bool
  | .writeMappings _ _ => true
  | _ => false

/-- The text a successful serialization of `f` produces (`""` if it fails, and then it is
never written). -/
def World.payload (w : World) (f : Fragment) : String :=
  match w.serialize f with
  | .ok s => s
  | .error _ => ""

/-- The parent's code: a run over the effects performed so far. -/
abbrev Parent := Run (List Effect)

section Primitives

variable (w : World)

/-- Perform `e`: record it, and end as the world says. -/
def perform (e : Effect) : Parent Unit := fun tr => (w.outcome tr e, tr ++ [e])

/-- `serde_json::to_string(x)?`. -/
def serialize (f : Fragment) : Parent String := fun tr =>
  (match w.serialize f with
    | .ok s => .ok s
    | .error err => .err err, tr ++ [.serialize f])

/-- `write_async(pipe_w, tag, payload).await?`. -/
def writeAsync (tag : SyncTag) (payload : String) : Parent Unit := perform w (.write tag payload)

/-- `read_async(pipe_r).await?`. -/
def readAsync : Parent Unit := perform w .read

/-- `write_mappings(&logger, path, &maps)?`: one effect, which ends as `writeMappings` on the
world's system calls. -/
def writeMappingsCall (path : String) (maps : List LinuxIdMapping) : Parent Unit :=
  perform w (.writeMappings path maps)

/-- Perform the effects in order, stopping at the first failure. -/
def performAll : List Effect → Parent Unit
  | [] => pure ()
  | e :: es => perform w e >>= fun _ => performAll es

/-- Every effect of the list succeeds, each after the effects before it. -/
def AllOk : List Effect → List Effect → Prop
  | _, [] => True
  | hist, e :: es => w.outcome hist e = .ok () ∧ AllOk (hist ++ [e]) es

end Primitives

section Laws

variable {w : World}

/-- Only a map write can panic, and it panics exactly when its `close` fails. -/
theorem World.outcome_eq_panic {hist : List Effect} {e : Effect} {msg : String} :
    w.outcome hist e = .panic msg ↔
      ∃ path maps, e = .writeMappings path maps ∧ ClosePanics (w.sys hist) path maps [] msg := by
  cases e with
  | serialize f => cases h : w.serialize f <;> simp [World.outcome, Except.map, h]
  | writeMappings path maps =>
    simp only [World.outcome, writeMappings_eq_panic]
    exact ⟨fun h => ⟨_, _, rfl, h⟩, by rintro ⟨_, _, ⟨⟩, h⟩; exact h⟩
  | _ => simp only [World.outcome]; cases w.answer _ _ <;> simp

theorem World.outcome_ne_panic {hist : List Effect} {e : Effect} (he : e.isMapWrite = false)
    (msg : String) : w.outcome hist e ≠ .panic msg := fun h => by
  obtain ⟨path, maps, rfl, -⟩ := World.outcome_eq_panic.mp h
  cases he

/-- A serialization is the effect `serialize f`, followed by whatever uses its text. -/
theorem serialize_bind {α : Type} (f : Fragment) (k : String → Parent α) :
    serialize w f >>= k = perform w (.serialize f) >>= fun _ => k (w.payload f) := by
  funext tr
  cases h : w.serialize f <;> simp [Run.bind_apply, serialize, perform, World.outcome,
    World.payload, Except.map, h]

@[simp] theorem performAll_nil : performAll w [] = pure () := rfl

theorem performAll_cons (e : Effect) (es : List Effect) :
    performAll w (e :: es) = perform w e >>= fun _ => performAll w es := rfl

theorem performAll_append (l₁ l₂ : List Effect) :
    performAll w (l₁ ++ l₂) = performAll w l₁ >>= fun _ => performAll w l₂ := by
  induction l₁ with
  | nil => rfl
  | cons e es ih => rw [List.cons_append, performAll_cons, performAll_cons, Run.bind_assoc, ih]

theorem perform_of_ok {hist : List Effect} {e : Effect} (h : w.outcome hist e = .ok ()) :
    perform w e hist = (.ok (), hist ++ [e]) := by
  simp [perform, h]

/-- An effect that does not succeed ends what follows it with its own outcome. -/
theorem perform_bind_of_stop {hist : List Effect} {e : Effect} (h : w.outcome hist e ≠ .ok ())
    (k : Unit → Parent Unit) : (perform w e >>= k) hist = (w.outcome hist e, hist ++ [e]) := by
  rw [Run.bind_apply, perform]
  cases ho : w.outcome hist e with
  | ok u => exact absurd ho h
  | err _ | panic _ => rfl

@[simp] theorem allOk_nil (hist : List Effect) : AllOk w hist [] := trivial

theorem allOk_cons {hist : List Effect} {e : Effect} {es : List Effect} :
    AllOk w hist (e :: es) ↔ w.outcome hist e = .ok () ∧ AllOk w (hist ++ [e]) es := Iff.rfl

theorem allOk_append {hist pre post : List Effect} :
    AllOk w hist (pre ++ post) ↔ AllOk w hist pre ∧ AllOk w (hist ++ pre) post := by
  induction pre generalizing hist with
  | nil => simp
  | cons e es ih => simp [allOk_cons, ih, and_assoc]

/-- A list whose effects all succeed runs to its end. -/
theorem performAll_of_allOk {hist es : List Effect} (h : AllOk w hist es) :
    performAll w es hist = (.ok (), hist ++ es) := by
  induction es generalizing hist with
  | nil => simp
  | cons e es ih =>
    rw [performAll_cons, Run.bind_of_ok (perform_of_ok h.1), ih h.2]
    simp

/-- A run stops at the first effect that does not succeed, with that effect recorded and
its outcome: nothing after it runs. -/
theorem performAll_bind_of_stop {hist pre : List Effect} {x : Effect} (hpre : AllOk w hist pre)
    (hx : w.outcome (hist ++ pre) x ≠ .ok ()) (post : List Effect) (k : Unit → Parent Unit) :
    (performAll w (pre ++ x :: post) >>= k) hist =
      (w.outcome (hist ++ pre) x, hist ++ pre ++ [x]) := by
  rw [performAll_append, Run.bind_assoc, Run.bind_of_ok (performAll_of_allOk hpre),
    performAll_cons, Run.bind_assoc, perform_bind_of_stop hx]

theorem performAll_of_stop {hist pre : List Effect} {x : Effect} (hpre : AllOk w hist pre)
    (hx : w.outcome (hist ++ pre) x ≠ .ok ()) (post : List Effect) :
    performAll w (pre ++ x :: post) hist = (w.outcome (hist ++ pre) x, hist ++ pre ++ [x]) := by
  simpa using performAll_bind_of_stop hpre hx post fun _ => pure ()

/-- Either every effect of a list succeeds, or there is a first one that does not. -/
theorem allOk_or_first_stop (hist es : List Effect) :
    AllOk w hist es ∨ ∃ pre x post, es = pre ++ x :: post ∧ AllOk w hist pre ∧
      w.outcome (hist ++ pre) x ≠ .ok () := by
  induction es generalizing hist with
  | nil => exact .inl trivial
  | cons e es ih =>
    by_cases he : w.outcome hist e = .ok ()
    · rcases ih (hist ++ [e]) with h | ⟨pre, x, post, rfl, hpre, hx⟩
      · exact .inl ⟨he, h⟩
      · exact .inr ⟨e :: pre, x, post, rfl, ⟨he, hpre⟩, by simpa using hx⟩
    · exact .inr ⟨[], e, es, rfl, trivial, by simpa using he⟩

/-- A list with an effect that does not succeed does not all succeed. -/
theorem not_allOk_of_stop {hist pre : List Effect} {x : Effect}
    (hx : w.outcome (hist ++ pre) x ≠ .ok ()) (post : List Effect) :
    ¬AllOk w hist (pre ++ x :: post) := by
  rw [allOk_append, allOk_cons]
  exact fun h => hx h.2.1

/-- A run panics exactly when its first effect that does not succeed panics. -/
theorem performAll_eq_panic (hist es : List Effect) (msg : String) :
    (performAll w es hist).1 = .panic msg ↔ ∃ pre x post, es = pre ++ x :: post ∧
      AllOk w hist pre ∧ w.outcome (hist ++ pre) x = .panic msg := by
  constructor
  · intro h
    rcases allOk_or_first_stop (w := w) hist es with hok | ⟨pre, x, post, rfl, hpre, hx⟩
    · simp [performAll_of_allOk hok] at h
    · rw [performAll_of_stop hpre hx post] at h
      exact ⟨pre, x, post, rfl, hpre, h⟩
  · rintro ⟨pre, x, post, rfl, hpre, hx⟩
    rw [performAll_of_stop hpre (by simp [hx]) post]
    exact hx

/-- Effects, then `k`: a panic of the first effect that does not succeed, or, when all
succeed, a panic of `k`. -/
theorem performAll_bind_eq_panic (hist es : List Effect) (k : Unit → Parent Unit)
    (msg : String) :
    ((performAll w es >>= k) hist).1 = .panic msg ↔
      (∃ pre x post, es = pre ++ x :: post ∧ AllOk w hist pre ∧
        w.outcome (hist ++ pre) x = .panic msg) ∨
      AllOk w hist es ∧ (k () (hist ++ es)).1 = .panic msg := by
  rcases allOk_or_first_stop (w := w) hist es with hok | ⟨pre, x, post, rfl, hpre, hx⟩
  · rw [Run.bind_of_ok (performAll_of_allOk hok), ← performAll_eq_panic]
    simp [performAll_of_allOk hok, hok]
  · rw [performAll_bind_of_stop hpre hx post k, ← performAll_eq_panic,
      performAll_of_stop hpre hx post]
    simp [not_allOk_of_stop hx post]

/-- Effects none of which is a map write, then `k`: only `k` can panic, once all succeed. -/
theorem performAll_bind_eq_panic_of_noMapWrite {es : List Effect}
    (hes : ∀ e ∈ es, e.isMapWrite = false) (hist : List Effect) (k : Unit → Parent Unit)
    (msg : String) :
    ((performAll w es >>= k) hist).1 = .panic msg ↔
      AllOk w hist es ∧ (k () (hist ++ es)).1 = .panic msg := by
  rw [performAll_bind_eq_panic, or_iff_right]
  rintro ⟨pre, x, post, rfl, -, hx⟩
  exact World.outcome_ne_panic (hes x (by simp)) msg hx

end Laws

end Runcell
