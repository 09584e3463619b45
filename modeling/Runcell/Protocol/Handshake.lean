import Runcell.Celler.JoinNamespaces
import Runcell.Protocol.Pipes

/-!
# Runcell — the start handshake between the parent and the child

The parent is `join_namespaces` on a run in which no effect fails: by
`joinNamespaces_eq_performAll` it performs exactly `handshakeTrace`, whose pipe writes become
messages and whose reads wait for a signal of the child. The child is the abstract
contract of the specification (the child's code is not part of this repository): read the
four documents, acknowledge the first three, set up the namespaces, signal "user namespace
ready", wait for `continue`, exchange the hook signals when it is the init process, and
signal "ready to exec" last. Its init flag is the process's.

The two are composed by `Step` of `Runcell.Protocol.Pipes`, over every interleaving. The
compatibility check sees only the kinds of the messages, and the kinds do not depend on the
documents sent, so it is decided once for each of the sixteen shapes of the handshake
(`compatible_shapes`).

Main result: `handshake_interleavings` — every run is finite and ends with both parties
finished and both pipes empty; every read gets the kind of message it expects; the map
writes and the cgroup calls happen before the child receives `continue`; the prestart hooks
run after the child's "ready for hooks" and before it receives "hooks complete", hence
before "ready to exec".
-/

namespace Runcell

/-- The signals of the child's contract. -/
inductive ChildSignal where
  | ack
  | usernsReady
  | hooksReady
  | readyToExec
deriving Repr, DecidableEq

/-- A message on either pipe. -/
inductive HandshakeMsg where
  | sync (tag : SyncTag) (payload : String)
  | signal (s : ChildSignal)
deriving Repr, DecidableEq

/-- What a reader tells apart: a DATA message, a SUCCESS message, a child's signal. -/
inductive MsgKind where
  | data
  | success
  | signal
deriving Repr, DecidableEq

/-- The kind of a message. -/
def HandshakeMsg.kind : HandshakeMsg → MsgKind
  | .sync .data _ => .data
  | .sync .success _ => .success
  | .signal _ => .signal

/-- The parent's action for one effect of `join_namespaces`. -/
def parentAct : Effect → Act HandshakeMsg MsgKind Effect
  | .write tag payload => .send (.sync tag payload)
  | .read => .recv .signal
  | e => .internal e

/-- The steps of the child's contract. -/
inductive ChildStep where
  | recvSpec
  | ackSpec
  | recvProcess
  | ackProcess
  | recvState
  | ackState
  | recvCgroupManager
  | setupNamespaces
  | signalUsernsReady
  | recvContinue
  | signalHooksReady
  | recvHooksComplete
  | signalReadyToExec
deriving Repr, DecidableEq

/-- The child's action for each step of its contract. -/
def ChildStep.act : ChildStep → Act HandshakeMsg MsgKind ChildStep
  | .recvSpec | .recvProcess | .recvState | .recvCgroupManager => .recv .data
  | .ackSpec | .ackProcess | .ackState => .send (.signal .ack)
  | .setupNamespaces => .internal .setupNamespaces
  | .signalUsernsReady => .send (.signal .usernsReady)
  | .recvContinue | .recvHooksComplete => .recv .success
  | .signalHooksReady => .send (.signal .hooksReady)
  | .signalReadyToExec => .send (.signal .readyToExec)

/-- Modelled from the spec: the child's side of the handshake (its code is not in the
repository's sources), for an init process or not. -/
def childSteps (init : Bool) : List ChildStep :=
  [.recvSpec, .ackSpec, .recvProcess, .ackProcess, .recvState, .ackState, .recvCgroupManager,
   .setupNamespaces, .signalUsernsReady, .recvContinue] ++
  (if init then [.signalHooksReady, .recvHooksComplete] else []) ++
  [.signalReadyToExec]

/-- The parent's program: `join_namespaces` on a run where no effect fails. -/
def parentProgram (w : World) (spec : Spec) (linux : Linux) (p : Process) (m st : Json) :
    List (Act HandshakeMsg MsgKind Effect) :=
  (handshakeTrace w spec linux p m st).map parentAct

/-- The child's program. -/
def childProgram (init : Bool) : List (Act HandshakeMsg MsgKind ChildStep) :=
  (childSteps init).map ChildStep.act

/-- The effects that must precede `continue`: the id maps and the cgroup calls. -/
def Effect.isSetup : Effect → Bool
  | .writeMappings _ _ | .apply _ | .set _ _ => true
  | _ => false

/-- The prestart hooks. -/
def Effect.isHooks : Effect → Bool
  | .executeHooks _ _ => true
  | _ => false

-- ---------------------------------------------------------------------------
-- Shapes and the compatibility check
-- ---------------------------------------------------------------------------

/-- The shape of the parent's program: it depends on four booleans only. -/
def parentShape (userns res init hooks : Bool) : List (Act MsgKind MsgKind Unit) :=
  [.internal (), .send .data, .recv .signal, .internal (), .send .data, .recv .signal,
   .internal (), .send .data, .recv .signal, .internal (), .send .data, .recv .signal] ++
  (if userns then [.internal (), .internal ()] else []) ++
  (if res then .internal () :: (if init then [.internal ()] else []) else []) ++
  [.send .success] ++
  (if init then .recv .signal :: (if hooks then [.internal ()] else []) ++ [.send .success]
    else []) ++
  [.recv .signal]

theorem shape_handshakeTrace (w : World) (spec : Spec) (linux : Linux) (p : Process) (m st : Json) :
    ((handshakeTrace w spec linux p m st).map parentAct).map (Act.shape HandshakeMsg.kind) =
      parentShape (isUsernsEnabled linux) linux.resources.isSome p.init spec.hooks.isSome := by
  simp only [handshakeTrace, handshakeSetup, handshakeHooks, parentShape]
  cases isUsernsEnabled linux <;> cases linux.resources <;> cases p.init <;> cases spec.hooks <;>
    rfl

/-- The check passes for every shape of the handshake. -/
theorem compatible_shapes : ∀ userns res init hooks : Bool,
    Compatible (parentShape userns res init hooks)
      ((childProgram init).map (Act.shape HandshakeMsg.kind)) = true := by
  decide

-- ---------------------------------------------------------------------------
-- Positions in the two programs
-- ---------------------------------------------------------------------------

theorem lt_of_not_mem_take {α : Type} {l : List α} {x : α} {k n : Nat} (hn : x ∈ l.take n)
    (hk : x ∉ l.take k) : k < n := by
  by_contra hle
  exact hk ((take_isPrefix_take l (Nat.le_of_not_lt hle)).subset hn)

theorem lt_of_sends_take_lt {M K L : Type} {A : List (Act M K L)} {k n : Nat}
    (h : (sends (A.take k)).length < (sends (A.take n)).length) : k < n := by
  by_contra hle
  exact absurd (sends_take_length_mono A (Nat.le_of_not_lt hle)) (Nat.not_le_of_lt h)

/-- The child has received `continue` only after ten of its steps. -/
theorem ten_le_of_recvContinue {init : Bool} {n : Nat}
    (h : ChildStep.recvContinue ∈ (childSteps init).take n) : 10 ≤ n :=
  lt_of_not_mem_take h (by cases init <;> decide)

/-- The child has received "hooks complete" only as an init process, after twelve steps. -/
theorem twelve_le_of_recvHooksComplete {init : Bool} {n : Nat}
    (h : ChildStep.recvHooksComplete ∈ (childSteps init).take n) : init = true ∧ 12 ≤ n := by
  cases init with
  | false => exact absurd (List.mem_of_mem_take h) (by decide)
  | true => exact ⟨rfl, lt_of_not_mem_take h (by decide)⟩

theorem recvHooksComplete_of_signalReadyToExec {n : Nat}
    (h : ChildStep.signalReadyToExec ∈ (childSteps true).take n) :
    ChildStep.recvHooksComplete ∈ (childSteps true).take n :=
  have h12 : 12 < n := lt_of_not_mem_take (k := 12) h (by decide)
  (take_isPrefix_take _ h12.le).subset (by decide)

section Parent

variable (w : World) (spec : Spec) (linux : Linux) (p : Process) (m st : Json)

theorem handshakeSetup_counts :
    (sends ((handshakeSetup w spec linux p m st).map parentAct)).length = 4 ∧
    (recvs ((handshakeSetup w spec linux p m st).map parentAct)).length = 4 := by
  simp only [handshakeSetup]
  cases isUsernsEnabled linux <;> cases linux.resources <;> cases p.init <;> exact ⟨rfl, rfl⟩

theorem handshakeTrace_eq_setup_append :
    handshakeTrace w spec linux p m st =
      handshakeSetup w spec linux p m st ++
        (Effect.write .success "" :: handshakeHooks spec p st ++ [Effect.read]) := by
  simp [handshakeTrace]

theorem parentProgram_take_setup_append (k : Nat) :
    (parentProgram w spec linux p m st).take ((handshakeSetup w spec linux p m st).length + k) =
      (handshakeSetup w spec linux p m st).map parentAct ++
        ((Effect.write .success "" :: handshakeHooks spec p st ++ [Effect.read]).map parentAct).take k := by
  rw [parentProgram, handshakeTrace_eq_setup_append, List.map_append,
    ← List.length_map _ parentAct, List.take_append]

theorem not_isSetup_of_mem_hooks :
    ∀ e ∈ Effect.write .success "" :: handshakeHooks spec p st ++ [Effect.read],
      e.isSetup = false := by
  unfold handshakeHooks
  split
  · cases spec.hooks <;> simp [Effect.isSetup]
  · simp [Effect.isSetup]

theorem not_isHooks_of_mem_setup :
    ∀ e ∈ handshakeSetup w spec linux p m st, e.isHooks = false := by
  have hall : (handshakeSetup w spec linux p m st).all (fun e => !e.isHooks) = true := by
    unfold handshakeSetup
    cases isUsernsEnabled linux <;> cases linux.resources <;> cases p.init <;> rfl
  simpa using hall

theorem handshakeHooks_of_init {hooks : Hooks} (hi : p.init = true) (hh : spec.hooks = some hooks) :
    handshakeHooks spec p st = [.read, .executeHooks (hooks.prestart.getD []) st, .write .success ""] := by
  simp [handshakeHooks, hi, hh]

variable {w spec linux p m st}

/-- The prestart hooks occur only for an init process with a `hooks` section. -/
theorem eq_executeHooks_of_isHooks {e : Effect} (he : e ∈ handshakeTrace w spec linux p m st)
    (hh : e.isHooks = true) :
    ∃ hooks, p.init = true ∧ spec.hooks = some hooks ∧
      e = .executeHooks (hooks.prestart.getD []) st := by
  rw [handshakeTrace_eq_setup_append, List.mem_append] at he
  rcases he with he | he
  · exact absurd (not_isHooks_of_mem_setup w spec linux p m st e he) (by simp [hh])
  · unfold handshakeHooks at he
    split at he
    · cases hsh : spec.hooks with
      | none => simp [hsh] at he; rcases he with rfl | rfl | rfl | rfl <;> simp [Effect.isHooks] at hh
      | some hooks =>
        simp [hsh] at he
        rcases he with rfl | rfl | rfl | rfl | rfl <;> simp_all [Effect.isHooks]
    · simp at he; rcases he with rfl | rfl <;> simp [Effect.isHooks] at hh

end Parent

section Ordering

variable {w : World} {spec : Spec} {linux : Linux} {p : Process} {m st : Json}
  {s : Conf HandshakeMsg}

/-- **Maps and cgroups before `continue`.** Once the child has received `continue`, the
parent has written the id maps and made its cgroup calls. -/
theorem setup_before_continue
    (hreach : Reachable (parentProgram w spec linux p m st) (childProgram p.init) s)
    (hcont : ChildStep.recvContinue ∈ (childSteps p.init).take s.c) :
    ∀ e ∈ handshakeTrace w spec linux p m st, e.isSetup = true →
      e ∈ (handshakeTrace w spec linux p m st).take s.p := by
  have hchild : 5 ≤ (recvs ((childProgram p.init).take s.c)).length :=
    le_trans (by cases p.init <;> decide)
      (recvs_take_length_mono _ (ten_le_of_recvContinue hcont))
  have hsetup : (sends ((parentProgram w spec linux p m st).take
      (handshakeSetup w spec linux p m st).length)).length = 4 := by
    rw [← Nat.add_zero (handshakeSetup w spec linux p m st).length, parentProgram_take_setup_append]
    simp [handshakeSetup_counts w spec linux p m st]
  have hlt := lt_of_sends_take_lt (A := parentProgram w spec linux p m st)
    (k := (handshakeSetup w spec linux p m st).length) (n := s.p)
    (by have := (reachable_causality hreach).1; omega)
  intro e he hset
  rw [handshakeTrace_eq_setup_append] at he ⊢
  rcases List.mem_append.mp he with heS | hrest
  · exact (take_isPrefix_take _ hlt.le).subset (by rw [List.take_left]; exact heS)
  · exact absurd hset (by rw [not_isSetup_of_mem_hooks spec p st e hrest]; simp)

/-- **Hooks after "ready for hooks".** Once the parent has run the prestart hooks, the child
has signalled that it is ready for them. -/
theorem hooks_after_hooksReady
    (hreach : Reachable (parentProgram w spec linux p m st) (childProgram p.init) s) :
    ∀ e ∈ (handshakeTrace w spec linux p m st).take s.p, e.isHooks = true →
      ChildStep.signalHooksReady ∈ (childSteps p.init).take s.c := by
  intro e he hh
  obtain ⟨hooks, hinit, hsh, rfl⟩ := eq_executeHooks_of_isHooks (List.mem_of_mem_take he) hh
  have hH := handshakeHooks_of_init spec p st hinit hsh
  -- the hooks come third after the setup, so the parent has read "ready for hooks"
  have hpast : (handshakeSetup w spec linux p m st).length + 2 < s.p := by
    refine lt_of_not_mem_take he ?_
    rw [handshakeTrace_eq_setup_append, List.take_append, hH]
    simp only [List.cons_append, List.nil_append, List.take_succ_cons, List.take_zero,
      List.mem_append, List.mem_cons, List.not_mem_nil, reduceCtorEq, or_false, not_or]
    exact fun hS => absurd (not_isHooks_of_mem_setup w spec linux p m st _ hS) (by simp [hh])
  have hrecv : 5 ≤ (recvs ((parentProgram w spec linux p m st).take s.p)).length := by
    refine le_trans ?_ (recvs_take_length_mono _ (show _ + 3 ≤ s.p from hpast))
    rw [parentProgram_take_setup_append, hH]
    simp [handshakeSetup_counts w spec linux p m st, parentAct]
  have h10 : 10 < s.c := by
    refine lt_of_sends_take_lt (A := childProgram p.init) ?_
    have := (reachable_causality hreach).2
    rw [hinit] at this ⊢
    have h4 : (sends ((childProgram true).take 10)).length = 4 := by decide
    omega
  rw [hinit]
  exact (take_isPrefix_take _ h10).subset (by decide)

/-- **Hooks before "hooks complete".** Once the child has received "hooks complete", the
parent has run the prestart hooks. -/
theorem hooks_before_hooksComplete
    (hreach : Reachable (parentProgram w spec linux p m st) (childProgram p.init) s)
    (hdone : ChildStep.recvHooksComplete ∈ (childSteps p.init).take s.c) :
    ∀ e ∈ handshakeTrace w spec linux p m st, e.isHooks = true →
      e ∈ (handshakeTrace w spec linux p m st).take s.p := by
  intro e he hh
  obtain ⟨hooks, hinit, hsh, rfl⟩ := eq_executeHooks_of_isHooks he hh
  have hH := handshakeHooks_of_init spec p st hinit hsh
  have h12 := (twelve_le_of_recvHooksComplete hdone).2
  have hchild : 6 ≤ (recvs ((childProgram p.init).take s.c)).length := by
    rw [hinit]
    exact le_trans (by decide) (recvs_take_length_mono _ h12)
  have hsends : (sends ((parentProgram w spec linux p m st).take
      ((handshakeSetup w spec linux p m st).length + 3))).length = 5 := by
    rw [parentProgram_take_setup_append, hH]
    simp [handshakeSetup_counts w spec linux p m st, parentAct]
  have hpast := lt_of_sends_take_lt (A := parentProgram w spec linux p m st)
    (k := (handshakeSetup w spec linux p m st).length + 3) (n := s.p)
    (by have := (reachable_causality hreach).1; omega)
  refine (take_isPrefix_take _ hpast.le).subset ?_
  rw [handshakeTrace_eq_setup_append, List.take_append, hH]
  simp

end Ordering

/-- **The handshake over every interleaving.** For every configuration of the container
start, with the parent running `join_namespaces` and no effect failing and the child
following its contract: no run is infinite; a configuration some interleaving reaches is
final or can move, so every run ends with both parties finished, and then both pipes are
empty; every read gets the kind of message its reader expects (DATA for the child's first
four reads, SUCCESS for `continue` and "hooks complete", a child's signal for each read of
the parent); the id maps and the cgroup calls happen before the child receives `continue`;
the prestart hooks run after the child's "ready for hooks" and before the child receives
"hooks complete", hence before it signals "ready to exec". -/
theorem handshake_interleavings (w : World) (spec : Spec) (linux : Linux) (p : Process)
    (m st : Json) :
    let P := parentProgram w spec linux p m st
    let C := childProgram p.init
    let T := handshakeTrace w spec linux p m st
    (∀ f : Nat → Conf HandshakeMsg, f 0 = Conf.init → ¬∀ n, Step P C (f n) (f (n + 1))) ∧
    ∀ s, Reachable P C s →
      (Final P C s ∨ ∃ s', Step P C s s') ∧
      (Final P C s → s.down = [] ∧ s.up = []) ∧
      (∀ k msg rest, C[s.c]? = some (.recv k) → s.down = msg :: rest → msg.kind = k) ∧
      (∀ k msg rest, P[s.p]? = some (.recv k) → s.up = msg :: rest → msg.kind = k) ∧
      (ChildStep.recvContinue ∈ (childSteps p.init).take s.c →
        ∀ e ∈ T, e.isSetup = true → e ∈ T.take s.p) ∧
      (∀ e ∈ T.take s.p, e.isHooks = true →
        ChildStep.signalHooksReady ∈ (childSteps p.init).take s.c) ∧
      (ChildStep.recvHooksComplete ∈ (childSteps p.init).take s.c →
        ∀ e ∈ T, e.isHooks = true → e ∈ T.take s.p) ∧
      (ChildStep.signalReadyToExec ∈ (childSteps p.init).take s.c →
        ∀ e ∈ T, e.isHooks = true → e ∈ T.take s.p) := by
  intro P C T
  have hc : Compatible (P.map (Act.shape HandshakeMsg.kind)) (C.map (Act.shape HandshakeMsg.kind)) = true := by
    simp only [P, parentProgram]
    rw [shape_handshakeTrace]
    exact compatible_shapes _ _ _ _
  refine ⟨fun f h0 hstep => no_infinite_run f h0 hstep, fun s hreach => ?_⟩
  obtain ⟨hdown, hup⟩ := reachable_reads_expected hc hreach
  refine ⟨reachable_progress hc hreach, reachable_final_pipes hc hreach, hdown, hup,
    setup_before_continue hreach, hooks_after_hooksReady hreach,
    hooks_before_hooksComplete hreach, fun hready e he hh => ?_⟩
  obtain ⟨_, hinit, _⟩ := eq_executeHooks_of_isHooks he hh
  refine hooks_before_hooksComplete hreach ?_ e he hh
  rw [hinit] at hready ⊢
  exact recvHooksComplete_of_signalReadyToExec hready

end Runcell
