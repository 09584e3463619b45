import Mathlib.Data.List.Basic

/-!
# Runcell — two parties over two FIFO pipes

The parent and the child of a container start each run a fixed program of actions: write a
message to its outgoing pipe, read the next message of its incoming pipe (expecting a kind
of message), or do something on its own. `Step` interleaves the two programs in every
possible order; a read blocks while its pipe is empty.

A configuration is determined by how far each party has got: the pipe from the parent to
the child holds the parent's messages so far minus the ones the child has read (`PipeInv`),
and the other way round. This is the invariant `Inv`, kept by every step
(`Step.inv`). Its inequalities are the causality of the protocol: a party cannot have read
more messages than the other has written.

`Compatible` is a check on the two programs that sees only the kinds of messages: the
kinds written by one party are the kinds the other expects, in order, and in every
consistent pair of positions one of the two parties can move. From it:

* `reachable_reads_expected` — every read gets a message of the kind it expects;
* `reachable_progress` — a reachable configuration is final or has a successor;
* `reachable_final_pipes` — both pipes are empty when both parties have finished;
* `no_infinite_run` — every run is finite: each step performs one action.
-/

namespace Runcell

/-- One action of a party's program. -/
inductive Act (M K L : Type) where
  | send (m : M)
  | recv (k : K)
  | internal (l : L)
deriving Repr, DecidableEq

/-- The state of the two parties and the two pipes. -/
structure Conf (M : Type) where
  /-- Number of actions the parent has performed. -/
  p : Nat
  /-- Number of actions the child has performed. -/
  c : Nat
  /-- The parent-to-child pipe. -/
  down : List M
  /-- The child-to-parent pipe. -/
  up : List M
deriving Repr, DecidableEq

theorem take_isPrefix_take {α : Type} (l : List α) {i j : Nat} (h : i ≤ j) : l.take i <+: l.take j := by
  have : l.take i = (l.take j).take i := by rw [List.take_take, Nat.min_eq_left h]
  exact this ▸ List.take_prefix _ _

namespace Act

variable {M K L : Type}

/-- The message an action writes. -/
def sent? : Act M K L → Option M
  | .send m => some m
  | _ => none

/-- The kind of message an action reads. -/
def expected? : Act M K L → Option K
  | .recv k => some k
  | _ => none

/-- What the checks see of an action: the kinds of the messages it involves. -/
def shape (kind : M → K) : Act M K L → Act K K Unit
  | .send m => .send (kind m)
  | .recv k => .recv k
  | .internal _ => .internal ()

@[simp] theorem sent?_send (m : M) : (send m : Act M K L).sent? = some m := rfl
@[simp] theorem sent?_recv (k : K) : (recv k : Act M K L).sent? = none := rfl
@[simp] theorem sent?_internal (l : L) : (internal l : Act M K L).sent? = none := rfl
@[simp] theorem expected?_send (m : M) : (send m : Act M K L).expected? = none := rfl
@[simp] theorem expected?_recv (k : K) : (recv k : Act M K L).expected? = some k := rfl
@[simp] theorem expected?_internal (l : L) : (internal l : Act M K L).expected? = none := rfl

end Act

section Programs

variable {M K L : Type}

/-- The messages a program writes, in order. -/
def sends (A : List (Act M K L)) : List M := A.filterMap Act.sent?

/-- The kinds a program reads, in order. -/
def recvs (A : List (Act M K L)) : List K := A.filterMap Act.expected?

@[simp] theorem sends_nil : sends ([] : List (Act M K L)) = [] := rfl

@[simp] theorem recvs_nil : recvs ([] : List (Act M K L)) = [] := rfl

@[simp] theorem sends_cons (a : Act M K L) (A : List (Act M K L)) :
    sends (a :: A) = a.sent?.toList ++ sends A := by
  cases a <;> rfl

@[simp] theorem recvs_cons (a : Act M K L) (A : List (Act M K L)) :
    recvs (a :: A) = a.expected?.toList ++ recvs A := by
  cases a <;> rfl

@[simp] theorem sends_append (A B : List (Act M K L)) : sends (A ++ B) = sends A ++ sends B :=
  List.filterMap_append _ _ _

@[simp] theorem recvs_append (A B : List (Act M K L)) : recvs (A ++ B) = recvs A ++ recvs B :=
  List.filterMap_append _ _ _

theorem sends_take_succ {A : List (Act M K L)} {i : Nat} {a : Act M K L} (h : A[i]? = some a) :
    sends (A.take (i + 1)) = sends (A.take i) ++ a.sent?.toList := by
  simp [List.take_succ, h]

theorem recvs_take_succ {A : List (Act M K L)} {i : Nat} {a : Act M K L} (h : A[i]? = some a) :
    recvs (A.take (i + 1)) = recvs (A.take i) ++ a.expected?.toList := by
  simp [List.take_succ, h]

theorem isPrefix_sends_take (A : List (Act M K L)) (i : Nat) : sends (A.take i) <+: sends A :=
  List.IsPrefix.filterMap _ <| List.take_prefix i A

theorem isPrefix_recvs_take (A : List (Act M K L)) (i : Nat) : recvs (A.take i) <+: recvs A :=
  List.IsPrefix.filterMap _ <| List.take_prefix i A


/-- Counting messages up to a position is monotone in the position. -/
theorem sends_take_length_mono (A : List (Act M K L)) {i j : Nat} (h : i ≤ j) :
    (sends (A.take i)).length ≤ (sends (A.take j)).length :=
  ((take_isPrefix_take A h).filterMap _).length_le

theorem recvs_take_length_mono (A : List (Act M K L)) {i j : Nat} (h : i ≤ j) :
    (recvs (A.take i)).length ≤ (recvs (A.take j)).length :=
  ((take_isPrefix_take A h).filterMap _).length_le

variable (kind : M → K)

@[simp] theorem sends_map_shape (A : List (Act M K L)) :
    sends (A.map (Act.shape kind)) = (sends A).map kind := by
  induction A with
  | nil => rfl
  | cons a A ih => cases a <;> simp [ih, Act.shape, Act.sent?]

@[simp] theorem recvs_map_shape (A : List (Act M K L)) :
    recvs (A.map (Act.shape kind)) = recvs A := by
  induction A with
  | nil => rfl
  | cons a A ih => cases a <;> simp [ih, Act.shape, Act.expected?]

end Programs

-- ---------------------------------------------------------------------------
-- Steps and reachable configurations
-- ---------------------------------------------------------------------------

section System

variable {M K L L' : Type}

/-- A step of one party with program `A`, at position `i`, with outgoing pipe `out` and
incoming pipe `inc`. -/
inductive PartyStep (A : List (Act M K L)) :
    Nat → List M → List M → Nat → List M → List M → Prop
  | send {i m out inc} : A[i]? = some (.send m) → PartyStep A i out inc (i + 1) (out ++ [m]) inc
  | recv {i k m out inc} : A[i]? = some (.recv k) → PartyStep A i out (m :: inc) (i + 1) out inc
  | internal {i l out inc} : A[i]? = some (.internal l) → PartyStep A i out inc (i + 1) out inc

variable (P : List (Act M K L)) (C : List (Act M K L'))

/-- A step of the whole system: the parent or the child moves. -/
inductive Step : Conf M → Conf M → Prop
  | parent {p c down up p' down' up'} :
      PartyStep P p down up p' down' up' → Step ⟨p, c, down, up⟩ ⟨p', c, down', up'⟩
  | child {p c down up c' up' down'} :
      PartyStep C c up down c' up' down' → Step ⟨p, c, down, up⟩ ⟨p, c', down', up'⟩

/-- Nothing performed, both pipes empty. -/
def Conf.init : Conf M := ⟨0, 0, [], []⟩

/-- The configurations some interleaving reaches. -/
inductive Reachable : Conf M → Prop
  | init : Reachable Conf.init
  | step {s s'} : Reachable s → Step P C s s' → Reachable s'

/-- Both parties have performed their whole program. -/
def Final (s : Conf M) : Prop := s.p = P.length ∧ s.c = C.length

/-- The pipe from `S` to `R` holds what `S` wrote in its first `i` actions minus what `R`
read in its first `j`; `R` never read more than `S` wrote. -/
def PipeInv {L₁ L₂ : Type} (S : List (Act M K L₁)) (R : List (Act M K L₂)) (i j : Nat)
    (q : List M) : Prop :=
  (recvs (R.take j)).length ≤ (sends (S.take i)).length ∧
  q = (sends (S.take i)).drop (recvs (R.take j)).length

/-- The invariant of every reachable configuration. -/
structure Inv (s : Conf M) : Prop where
  p_le : s.p ≤ P.length
  c_le : s.c ≤ C.length
  down : PipeInv P C s.p s.c s.down
  up : PipeInv C P s.c s.p s.up

end System

section Preservation

variable {M K L L' : Type}

/-- A party's step performs its next action, and keeps both pipes in the invariant. -/
theorem PartyStep.pipes {A : List (Act M K L)} {B : List (Act M K L')} {i j i' : Nat}
    {out inc out' inc' : List M} (h : PartyStep A i out inc i' out' inc')
    (hout : PipeInv A B i j out) (hinc : PipeInv B A j i inc) :
    i' = i + 1 ∧ i < A.length ∧ PipeInv A B i' j out' ∧ PipeInv B A j i' inc' := by
  obtain ⟨hle, hq⟩ := hinc
  cases h with
  | send ha =>
    refine ⟨rfl, (List.getElem?_eq_some_iff.mp ha).1, ?_, ?_⟩
    · rw [PipeInv, sends_take_succ ha, Act.sent?_send, Option.toList_some, List.length_append,
        List.length_singleton, hout.2, List.drop_append_of_le_length hout.1]
      exact ⟨by have := hout.1; omega, rfl⟩
    · rw [PipeInv, recvs_take_succ ha, Act.expected?_send, Option.toList_none, List.append_nil]
      exact ⟨hle, hq⟩
  | recv ha =>
    refine ⟨rfl, (List.getElem?_eq_some_iff.mp ha).1, ?_, ?_⟩
    · rwa [PipeInv, sends_take_succ ha, Act.sent?_recv, Option.toList_none, List.append_nil]
    · rw [PipeInv, recvs_take_succ ha, Act.expected?_recv, Option.toList_some, List.length_append,
        List.length_singleton]
      have hlt : (recvs (A.take i)).length < (sends (B.take j)).length := by
        have := congrArg List.length hq
        simp only [List.length_cons, List.length_drop] at this
        omega
      rw [List.drop_eq_getElem_cons hlt] at hq
      exact ⟨hlt, (List.cons.inj hq).2⟩
  | internal ha =>
    refine ⟨rfl, (List.getElem?_eq_some_iff.mp ha).1, ?_, ?_⟩
    · rwa [PipeInv, sends_take_succ ha, Act.sent?_internal, Option.toList_none, List.append_nil]
    · rw [PipeInv, recvs_take_succ ha, Act.expected?_internal, Option.toList_none, List.append_nil]
      exact ⟨hle, hq⟩

variable {P : List (Act M K L)} {C : List (Act M K L')}

theorem Step.inv {s s' : Conf M} (h : Step P C s s') (hs : Inv P C s) : Inv P C s' := by
  cases h with
  | parent hp =>
    obtain ⟨rfl, hlt, hdown, hup⟩ := hp.pipes hs.down hs.up
    exact ⟨hlt, hs.c_le, hdown, hup⟩
  | child hc =>
    obtain ⟨rfl, hlt, hup, hdown⟩ := hc.pipes hs.up hs.down
    exact ⟨hs.p_le, hlt, hdown, hup⟩

theorem inv_init : Inv P C Conf.init :=
  ⟨Nat.zero_le _, Nat.zero_le _, ⟨le_rfl, rfl⟩, ⟨le_rfl, rfl⟩⟩

theorem reachable_inv {s : Conf M} (h : Reachable P C s) : Inv P C s := by
  induction h with
  | init => exact inv_init
  | step _ hstep ih => exact hstep.inv ih

/-- Each step performs exactly one action. -/
theorem Step.progress {s s' : Conf M} (h : Step P C s s') : s'.p + s'.c = s.p + s.c + 1 := by
  cases h with
  | parent hp => cases hp <;> simp only <;> omega
  | child hc => cases hc <;> simp only <;> omega

/-- **Causality.** Neither party has read more messages than the other has written. -/
theorem reachable_causality {s : Conf M} (h : Reachable P C s) :
    (recvs (C.take s.c)).length ≤ (sends (P.take s.p)).length ∧
    (recvs (P.take s.p)).length ≤ (sends (C.take s.c)).length :=
  ⟨(reachable_inv h).down.1, (reachable_inv h).up.1⟩

/-- **Termination.** No run is infinite: after `n` steps `n` actions have been performed,
and there are only `P.length + C.length` of them. -/
theorem no_infinite_run (f : Nat → Conf M) (h0 : f 0 = Conf.init)
    (hstep : ∀ n, Step P C (f n) (f (n + 1))) : False := by
  have hreach : ∀ n, Reachable P C (f n) ∧ (f n).p + (f n).c = n := by
    intro n
    induction n with
    | zero => exact ⟨h0 ▸ .init, by simp [h0, Conf.init]⟩
    | succ n ih => exact ⟨.step ih.1 (hstep n), by rw [(hstep n).progress, ih.2]⟩
  have hinv := reachable_inv (hreach (P.length + C.length + 1)).1
  have := (hreach (P.length + C.length + 1)).2
  have := hinv.p_le
  have := hinv.c_le
  omega

end Preservation

-- ---------------------------------------------------------------------------
-- The compatibility check
-- ---------------------------------------------------------------------------

section Check

variable {K : Type}

/-- Whether a party with program `A` can move at position `i` when `n` messages wait in its
incoming pipe. -/
def canStep {L : Type} (A : List (Act K K L)) (i n : Nat) : Bool :=
  match A[i]? with
  | none => false
  | some (.recv _) => decide (0 < n)
  | some _ => true

/-- Positions `i` of the parent and `j` of the child that causality does not rule out. -/
def consistent (P C : List (Act K K Unit)) (i j : Nat) : Bool :=
  decide ((recvs (C.take j)).length ≤ (sends (P.take i)).length) &&
  decide ((recvs (P.take i)).length ≤ (sends (C.take j)).length)

/-- At every consistent pair of positions short of the end, one of the parties can move. -/
def progressOk (P C : List (Act K K Unit)) : Bool :=
  (List.range (P.length + 1)).all fun i => (List.range (C.length + 1)).all fun j =>
    !consistent P C i j || (i == P.length && j == C.length) ||
    canStep P i ((sends (C.take j)).length - (recvs (P.take i)).length) ||
    canStep C j ((sends (P.take i)).length - (recvs (C.take j)).length)

/-- The check on the shapes of the two programs: each side reads, in order, the kinds the
other writes, and no consistent position is a deadlock. -/
def Compatible [DecidableEq K] (P C : List (Act K K Unit)) : Bool :=
  sends P == recvs C && sends C == recvs P && progressOk P C

end Check

section Consequences

variable {M K L L' : Type} {kind : M → K}

theorem prefix_getElem? {α : Type} {l₁ l₂ : List α} (h : l₁ <+: l₂) {n : Nat}
    (hn : n < l₁.length) : l₂[n]? = l₁[n]? := by
  obtain ⟨t, rfl⟩ := h
  exact List.getElem?_append_left hn

/-- The next message of a pipe is the one the reader expects, when the kinds written on one
side are the kinds read on the other. -/
theorem PipeInv.head_kind {L₁ L₂ : Type} {S : List (Act M K L₁)} {R : List (Act M K L₂)}
    {i j : Nat} {q : List M} (hq : PipeInv S R i j q) (hkinds : (sends S).map kind = recvs R)
    {k : K} (hk : R[j]? = some (.recv k)) {m : M} {rest : List M} (hm : q = m :: rest) :
    kind m = k := by
  obtain ⟨_, hdrop⟩ := hq
  have hsent : (sends (S.take i))[(recvs (R.take j)).length]? = some m := by
    rw [← List.head?_drop, ← hdrop, hm]
    rfl
  have hlt : (recvs (R.take j)).length < (sends (S.take i)).length :=
    (List.getElem?_eq_some_iff.mp hsent).1
  have hS : (sends S)[(recvs (R.take j)).length]? = some m := by
    rw [prefix_getElem? (isPrefix_sends_take S i) hlt, hsent]
  have hR : (recvs R)[(recvs (R.take j)).length]? = some k := by
    have hpre := isPrefix_recvs_take R (j + 1)
    rw [recvs_take_succ hk] at hpre
    rw [prefix_getElem? hpre (by simp), List.getElem?_append_right le_rfl]
    simp
  have := congrArg (·[(recvs (R.take j)).length]?) hkinds
  simp only [List.getElem?_map, hS, hR, Option.map_some', Option.some.injEq] at this
  exact this

/-- A party that `canStep` on the shape of its program has a step. -/
theorem PartyStep.of_canStep {L₁ : Type} {A : List (Act M K L₁)} {i : Nat} (out : List M)
    {inc : List M} (h : canStep (A.map (Act.shape kind)) i inc.length = true) :
    ∃ i' out' inc', PartyStep A i out inc i' out' inc' := by
  rw [canStep, List.getElem?_map] at h
  cases ha : A[i]? with
  | none => simp [ha] at h
  | some a =>
    cases a with
    | send m => exact ⟨_, _, _, .send ha⟩
    | recv k =>
      cases inc with
      | nil => simp [ha, Act.shape] at h
      | cons m rest => exact ⟨_, _, _, .recv ha⟩
    | internal l => exact ⟨_, _, _, .internal ha⟩

variable {P : List (Act M K L)} {C : List (Act M K L')}

theorem PipeInv.length {L₁ L₂ : Type} {S : List (Act M K L₁)} {R : List (Act M K L₂)}
    {i j : Nat} {q : List M} (hq : PipeInv S R i j q) :
    q.length = (sends (S.take i)).length - (recvs (R.take j)).length := by
  rw [hq.2, List.length_drop]

section

variable [DecidableEq K] (hc : Compatible (P.map (Act.shape kind)) (C.map (Act.shape kind)) = true)
include hc

theorem Compatible.kinds_down : (sends P).map kind = recvs C := by
  simp only [Compatible, Bool.and_eq_true, beq_iff_eq, sends_map_shape, recvs_map_shape] at hc
  exact hc.1.1

theorem Compatible.kinds_up : (sends C).map kind = recvs P := by
  simp only [Compatible, Bool.and_eq_true, beq_iff_eq, sends_map_shape, recvs_map_shape] at hc
  exact hc.1.2

/-- **Expected reads.** In every reachable configuration, the message at the head of each
pipe is of the kind its reader expects next. -/
theorem reachable_reads_expected {s : Conf M} (h : Reachable P C s) :
    (∀ k m rest, C[s.c]? = some (.recv k) → s.down = m :: rest → kind m = k) ∧
    (∀ k m rest, P[s.p]? = some (.recv k) → s.up = m :: rest → kind m = k) :=
  ⟨fun _ _ _ hk hm => (reachable_inv h).down.head_kind (Compatible.kinds_down hc) hk hm,
   fun _ _ _ hk hm => (reachable_inv h).up.head_kind (Compatible.kinds_up hc) hk hm⟩

/-- **No deadlock.** A reachable configuration is final or has a successor. -/
theorem reachable_progress {s : Conf M} (h : Reachable P C s) :
    Final P C s ∨ ∃ s', Step P C s s' := by
  have hinv := reachable_inv h
  have hp : progressOk (P.map (Act.shape kind)) (C.map (Act.shape kind)) = true := by
    simp only [Compatible, Bool.and_eq_true] at hc
    exact hc.2
  simp only [progressOk, List.all_eq_true, List.mem_range, List.length_map] at hp
  have hat := hp s.p (by have := hinv.p_le; omega) s.c (by have := hinv.c_le; omega)
  simp only [consistent, ← List.map_take, sends_map_shape, recvs_map_shape, List.length_map,
    Bool.and_eq_true, decide_eq_true_eq, hinv.down.1, hinv.up.1, decide_True, Bool.and_self,
    Bool.not_true, Bool.false_or, Bool.or_eq_true, beq_iff_eq, ← hinv.down.length, ← hinv.up.length] at hat
  rcases hat with (hfin | hpar) | hchild
  · exact .inl hfin
  · obtain ⟨p', down', up', hstep⟩ := PartyStep.of_canStep s.down hpar
    exact .inr ⟨_, .parent hstep⟩
  · obtain ⟨c', up', down', hstep⟩ := PartyStep.of_canStep s.up hchild
    exact .inr ⟨_, .child hstep⟩

/-- **Empty pipes.** When both parties have finished, every message has been read. -/
theorem reachable_final_pipes {s : Conf M} (h : Reachable P C s) (hf : Final P C s) :
    s.down = [] ∧ s.up = [] := by
  have hinv := reachable_inv h
  obtain ⟨hp, hc'⟩ := hf
  have hdown := hinv.down.2
  have hup := hinv.up.2
  rw [hp, hc', List.take_length, List.take_length] at hdown hup
  rw [hdown, hup, ← (Compatible.kinds_down hc), ← (Compatible.kinds_up hc), List.length_map, List.length_map]
  simp

end

end Consequences

end Runcell
