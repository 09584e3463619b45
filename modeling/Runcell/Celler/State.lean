import Mathlib.Data.String.Basic
import Runcell.Serde.Json

/-!
# Runcell — the persisted container state

`BaseState` and `State` of `container/types.rs`, with the `Serialize` and `Deserialize`
impls that `#[derive]` writes for them under their field attributes. A field with
`skip_serializing_if` is left out of the document when its test holds, and every field but
`base` carries `#[serde(default)]`, so a document without it reads back the type's default.

The derived `visit_map` keeps one slot per field (`BaseState.Slots`, `State.Slots`), fills
a slot when it reads the field's key, rejects a second occurrence with `duplicate_field`,
skips a key of no field, and at the end takes the default of an empty slot, or fails with
`missing_field` for `base`. The derived `visit_seq` reads the fields in declaration order.

Main results:

* `BaseState.deserialize_serialize`, `State.serde_round_trip` — serializing a state and
  reading it back gives the same state, for every value of every field.
-/

namespace Runcell

open Serde

/-- `BaseState`. -/
structure BaseState where
  id : String
  initProcessPid : I32
  initProcessStart : UInt64
deriving DecidableEq, Repr

/-- `State`. -/
structure State where
  base : BaseState
  rootless : Bool
  cgroupPaths : HashMap String String
  namespacePaths : HashMap String String
  externalDescriptors : List String
  intelRdtPath : String

/-- One `next_element` of a derived `visit_seq`: the next element, or what the field takes
when the sequence has ended. -/
def nextElement {α : Type} (deserialize : Json → Except String α) (missing : Except String α) :
    List Json → Except String (α × List Json)
  | [] => (·, []) <$> missing
  | v :: vs => (·, vs) <$> deserialize v

/-- `serde_json`'s check at the closing bracket of a sequence read as a struct. -/
def endSeq : List Json → Except String Unit
  | [] => .ok ()
  | _ :: _ => .error "trailing characters"

/-- `Error::invalid_length(n, &expected)`. -/
def invalidLength (n : Nat) (expected : String) : String :=
  "invalid length " ++ toString n ++ ", expected " ++ expected

-- ---------------------------------------------------------------------------
-- `BaseState`
-- ---------------------------------------------------------------------------

namespace BaseState

/-- The members `BaseState::serialize` writes, in declaration order. -/
def members (b : BaseState) : List (String × Json) :=
  serializeFieldUnless b.id.isEmpty "id" (.string b.id) ++
    [("init_process_pid", .number b.initProcessPid.val),
     ("init_process_start", .number b.initProcessStart.toNat)]

/-- `BaseState::serialize`. -/
def serialize (b : BaseState) : Json := .object b.members

/-- The derived `__Field`: what a member's key names. -/
inductive Field where
  | id
  | initProcessPid
  | initProcessStart
  | ignore

/-- The derived `__FieldVisitor::visit_str`. -/
def Field.ofKey (key : String) : Field :=
  if key = "id" then .id
  else if key = "init_process_pid" then .initProcessPid
  else if key = "init_process_start" then .initProcessStart
  else .ignore

/-- The slots of the derived `visit_map`. -/
structure Slots where
  id : Option String := none
  initProcessPid : Option I32 := none
  initProcessStart : Option UInt64 := none

/-- One member of the map: the `match` on its field. -/
def visitEntry (slots : Slots) (kv : String × Json) : Except String Slots :=
  match Field.ofKey kv.1 with
  | .id => do
    pure { slots with id := ← visitField "id" deserializeString slots.id kv.2 }
  | .initProcessPid => do
    pure { slots with initProcessPid := ← visitField "init_process_pid" deserializeI32 slots.initProcessPid kv.2 }
  | .initProcessStart => do
    pure { slots with initProcessStart := ← visitField "init_process_start" deserializeU64 slots.initProcessStart kv.2 }
  | .ignore => pure slots

/-- `BaseState::deserialize`. -/
def deserialize : Json → Except String BaseState
  | .object kvs => do
    let slots ← kvs.foldlM visitEntry {}
    pure ⟨slots.id.getD "", slots.initProcessPid.getD default, slots.initProcessStart.getD 0⟩
  | .array vs => do
    let (id, vs) ← nextElement deserializeString (pure "") vs
    let (initProcessPid, vs) ← nextElement deserializeI32 (pure default) vs
    let (initProcessStart, vs) ← nextElement deserializeU64 (pure 0) vs
    endSeq vs
    pure ⟨id, initProcessPid, initProcessStart⟩
  | v => .error (invalidType v "struct BaseState")

@[simp] theorem Field.ofKey_id : Field.ofKey "id" = .id := rfl
@[simp] theorem Field.ofKey_initProcessPid : Field.ofKey "init_process_pid" = .initProcessPid := rfl
@[simp] theorem Field.ofKey_initProcessStart :
    Field.ofKey "init_process_start" = .initProcessStart := rfl

/-- What `visit_map` collects from a serialized `BaseState`: each member once. -/
theorem foldlM_visitEntry_members (b : BaseState) :
    b.members.foldlM visitEntry {} =
      .ok ⟨optUnless b.id.isEmpty b.id, some b.initProcessPid, some b.initProcessStart⟩ := by
  cases h : b.id.isEmpty <;>
    simp only [members, serializeFieldUnless, h, if_true, Bool.false_eq_true, if_false,
      List.nil_append, List.singleton_append, List.foldlM_cons, List.foldlM_nil, visitEntry,
      Field.ofKey_id, Field.ofKey_initProcessPid, Field.ofKey_initProcessStart, visitField_none,
      deserializeString_string, deserializeI32_number, deserializeU64_number, Except.map_ok,
      ok_bind, pure_bind, optUnless_true, optUnless_false] <;> rfl

/-- **`BaseState` round trip.** -/
theorem deserialize_serialize (b : BaseState) : deserialize b.serialize = .ok b := by
  rw [serialize, deserialize, foldlM_visitEntry_members, ok_bind,
    getD_optUnless (String.isEmpty_iff b.id).mp]
  rfl

end BaseState

-- ---------------------------------------------------------------------------
-- `State`
-- ---------------------------------------------------------------------------

namespace State

/-- The members `State::serialize` writes, in declaration order. -/
def members (s : State) : List (String × Json) :=
  [("base", s.base.serialize), ("rootless", .bool s.rootless)] ++
  serializeFieldUnless s.cgroupPaths.isEmpty "cgroup_paths" (serializeStringMap s.cgroupPaths) ++
  serializeFieldUnless s.namespacePaths.isEmpty "namespace_paths"
    (serializeStringMap s.namespacePaths) ++
  serializeFieldUnless s.externalDescriptors.isEmpty "external_descriptors"
    (serializeStringVec s.externalDescriptors) ++
  serializeFieldUnless s.intelRdtPath.isEmpty "intel_rdt_path" (.string s.intelRdtPath)

/-- `State::serialize`. -/
def serialize (s : State) : Json := .object s.members

/-- The derived `__Field`. -/
inductive Field where
  | base
  | rootless
  | cgroupPaths
  | namespacePaths
  | externalDescriptors
  | intelRdtPath
  | ignore

/-- The derived `__FieldVisitor::visit_str`. -/
def Field.ofKey (key : String) : Field :=
  if key = "base" then .base
  else if key = "rootless" then .rootless
  else if key = "cgroup_paths" then .cgroupPaths
  else if key = "namespace_paths" then .namespacePaths
  else if key = "external_descriptors" then .externalDescriptors
  else if key = "intel_rdt_path" then .intelRdtPath
  else .ignore

/-- The slots of the derived `visit_map`. -/
structure Slots where
  base : Option BaseState := none
  rootless : Option Bool := none
  cgroupPaths : Option (HashMap String String) := none
  namespacePaths : Option (HashMap String String) := none
  externalDescriptors : Option (List String) := none
  intelRdtPath : Option String := none

/-- One member of the map: the `match` on its field. -/
def visitEntry (slots : Slots) (kv : String × Json) : Except String Slots :=
  match Field.ofKey kv.1 with
  | .base => do
    pure { slots with base := ← visitField "base" BaseState.deserialize slots.base kv.2 }
  | .rootless => do
    pure { slots with rootless := ← visitField "rootless" deserializeBool slots.rootless kv.2 }
  | .cgroupPaths => do
    pure { slots with
      cgroupPaths := ← visitField "cgroup_paths" deserializeStringMap slots.cgroupPaths kv.2 }
  | .namespacePaths => do
    pure { slots with
      namespacePaths := ← visitField "namespace_paths" deserializeStringMap slots.namespacePaths kv.2 }
  | .externalDescriptors => do
    pure { slots with
      externalDescriptors := ← visitField "external_descriptors" deserializeStringVec
        slots.externalDescriptors kv.2 }
  | .intelRdtPath => do
    pure { slots with
      intelRdtPath := ← visitField "intel_rdt_path" deserializeString slots.intelRdtPath kv.2 }
  | .ignore => pure slots

/-- `State::deserialize`. -/
def deserialize : Json → Except String State
  | .object kvs => do
    let slots ← kvs.foldlM visitEntry {}
    let base ← requiredField "base" slots.base
    pure ⟨base, slots.rootless.getD false, slots.cgroupPaths.getD .empty,
      slots.namespacePaths.getD .empty, slots.externalDescriptors.getD [],
      slots.intelRdtPath.getD ""⟩
  | .array vs => do
    let (base, vs) ← nextElement BaseState.deserialize
      (.error (invalidLength 0 "struct State with 6 elements")) vs
    let (rootless, vs) ← nextElement deserializeBool (pure false) vs
    let (cgroupPaths, vs) ← nextElement deserializeStringMap (pure .empty) vs
    let (namespacePaths, vs) ← nextElement deserializeStringMap (pure .empty) vs
    let (externalDescriptors, vs) ← nextElement deserializeStringVec (pure []) vs
    let (intelRdtPath, vs) ← nextElement deserializeString (pure "") vs
    endSeq vs
    pure ⟨base, rootless, cgroupPaths, namespacePaths, externalDescriptors, intelRdtPath⟩
  | v => .error (invalidType v "struct State")

@[simp] theorem Field.ofKey_base : Field.ofKey "base" = .base := rfl
@[simp] theorem Field.ofKey_rootless : Field.ofKey "rootless" = .rootless := rfl
@[simp] theorem Field.ofKey_cgroupPaths : Field.ofKey "cgroup_paths" = .cgroupPaths := rfl
@[simp] theorem Field.ofKey_namespacePaths : Field.ofKey "namespace_paths" = .namespacePaths := rfl
@[simp] theorem Field.ofKey_externalDescriptors :
    Field.ofKey "external_descriptors" = .externalDescriptors := rfl
@[simp] theorem Field.ofKey_intelRdtPath : Field.ofKey "intel_rdt_path" = .intelRdtPath := rfl

/-- What `visit_map` collects from a serialized `State`: each member once. -/
theorem foldlM_visitEntry_members (s : State) :
    s.members.foldlM visitEntry {} =
      .ok ⟨some s.base, some s.rootless, optUnless s.cgroupPaths.isEmpty s.cgroupPaths,
        optUnless s.namespacePaths.isEmpty s.namespacePaths,
        optUnless s.externalDescriptors.isEmpty s.externalDescriptors,
        optUnless s.intelRdtPath.isEmpty s.intelRdtPath⟩ := by
  cases h₁ : s.cgroupPaths.isEmpty <;> cases h₂ : s.namespacePaths.isEmpty <;>
    cases h₃ : s.externalDescriptors.isEmpty <;> cases h₄ : s.intelRdtPath.isEmpty <;>
    simp only [members, serializeFieldUnless, h₁, h₂, h₃, h₄, if_true, Bool.false_eq_true,
      if_false, List.nil_append, List.append_nil, List.cons_append, List.singleton_append,
      List.foldlM_cons, List.foldlM_nil, visitEntry, Field.ofKey_base, Field.ofKey_rootless,
      Field.ofKey_cgroupPaths, Field.ofKey_namespacePaths, Field.ofKey_externalDescriptors,
      Field.ofKey_intelRdtPath, visitField_none, BaseState.deserialize_serialize,
      deserializeBool_bool, deserializeString_string, deserializeStringMap_serialize,
      deserializeStringVec_serialize, Except.map_ok, ok_bind, pure_bind, optUnless_true,
      optUnless_false] <;> rfl

/-- **`State` round trip.** For every state, with every field at any value (empty strings,
maps and lists included), deserializing what `serialize` writes gives the state back: each
member left out under `skip_serializing_if` is empty, which is what its `serde` default
restores, and every other member is read back unchanged. -/
theorem serde_round_trip (s : State) : deserialize s.serialize = .ok s := by
  rw [serialize, deserialize, foldlM_visitEntry_members, ok_bind, requiredField, ok_bind,
    getD_optUnless (HashMap.isEmpty_iff s.cgroupPaths).mp,
    getD_optUnless (HashMap.isEmpty_iff s.namespacePaths).mp,
    getD_optUnless List.isEmpty_iff.mp, getD_optUnless (String.isEmpty_iff s.intelRdtPath).mp]
  rfl

end State

-- ---------------------------------------------------------------------------
-- The status tracker
-- ---------------------------------------------------------------------------

/-- Modelled from the spec: `ContainerState` of `runtime_spec`, the states the tracker
records; its definition is not among the sources. -/
inductive ContainerState where
  | created
  | running
  | paused
  | stopped
deriving Repr, DecidableEq

/-- `ContainerStatus`: the state before the last transition, and the current one. -/
structure ContainerStatus where
  preStatus : ContainerState
  curStatus : ContainerState
deriving Repr, DecidableEq

namespace ContainerStatus

/-- `ContainerStatus::new()`, which is also its `Default`. -/
def new : ContainerStatus := ⟨.created, .created⟩

/-- `status()`. -/
def status (self : ContainerStatus) : ContainerState := self.curStatus

/-- `transition(to)`: the current state becomes the previous one. No transition is refused,
although the lifecycle of the module's documentation has no way back from `Stopped`. -/
def transition (self : ContainerStatus) (next : ContainerState) : ContainerStatus :=
  { preStatus := self.status, curStatus := next }

/-- The tracker after the transitions `ts`, in order. -/
def afterTransitions (self : ContainerStatus) (ts : List ContainerState) : ContainerStatus :=
  ts.foldl transition self

theorem afterTransitions_append (self : ContainerStatus) (ts : List ContainerState)
    (t : ContainerState) :
    self.afterTransitions (ts ++ [t]) = ⟨(self.afterTransitions ts).status, t⟩ := by
  rw [afterTransitions, List.foldl_append]
  rfl

/-- Over every run from `new`, the tracker holds the last two states of the run, `Created`
standing for the states before the first transitions. -/
theorem new_afterTransitions (ts : List ContainerState) :
    new.afterTransitions ts =
      ⟨(ts.reverse ++ [ContainerState.created, .created]).getD 1 .created,
        (ts.reverse ++ [ContainerState.created]).getD 0 .created⟩ := by
  induction ts using List.reverseRecOn with
  | nil => rfl
  | append_singleton ts t ih =>
    rw [afterTransitions_append, ih]
    simp only [status, List.reverse_append, List.reverse_cons, List.reverse_nil, List.nil_append,
      List.singleton_append, List.cons_append, List.getD_cons_succ, List.getD_cons_zero]
    cases ts.reverse <;> rfl

example : new.afterTransitions [.running, .stopped, .running] = ⟨.stopped, .running⟩ := by decide

end ContainerStatus

end Runcell
