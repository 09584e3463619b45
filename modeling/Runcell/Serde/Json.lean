import Runcell.Core.HashMap
import Mathlib.Algebra.Group.Int

/-!
# Runcell — the serde data model

`serde_json` reads and writes the runtime's documents as JSON text. `Json` is the tree of
that text, restricted to what the runtime's documents contain: numbers are integers (no
document of the runtime holds a float), and an object is the list of its members as they
were written, in order and with any repeated key, which is what a deserializer walks.

Documents the runtime only passes through (the OCI `process` and `state` records, cgroup
resources, the filesystem cgroup manager) are kept as `Json` values: no modelled function
looks inside them.

Below the tree are the serializers and deserializers of the Rust types the persisted state
is made of (`String`, `bool`, `i32`, `u64`, `HashMap<String, String>`, `Vec<String>`), with
the errors `serde` reports, and the two pieces every `#[derive(Serialize, Deserialize)]`
struct is built from: a member left out under `skip_serializing_if`, and one arm of the
derived `visit_map`, which rejects a repeated field.

Each leaf deserializer reads back what its serializer wrote (`deserializeStringMap_serialize`
and its siblings); the structs' round trips are assembled from these.
-/

namespace Runcell

/-- A JSON document: `serde_json::Value`, integers only, objects as written. -/
inductive Json where
  | null
  | bool (b : Bool)
  | number (n : Int)
  | string (s : String)
  | array (xs : List Json)
  | object (kvs : List (String × Json))
deriving Repr

/-- `i32`. -/
structure I32 where
  val : Int
  bounds : -2 ^ 31 ≤ val ∧ val < 2 ^ 31
deriving DecidableEq, Repr

/-- `i32::default()`. -/
instance : Inhabited I32 := ⟨⟨0, by decide, by decide⟩⟩

namespace Serde

@[simp] theorem ok_bind {ε α β : Type} (a : α) (f : α → Except ε β) :
    ((.ok a : Except ε α) >>= f) = f a := rfl

@[simp] theorem error_bind {ε α β : Type} (e : ε) (f : α → Except ε β) :
    ((.error e : Except ε α) >>= f) = .error e := rfl

theorem bind_eq_ok {ε α β : Type} {x : Except ε α} {f : α → Except ε β} {b : β}
    (h : (x >>= f) = .ok b) : ∃ a, x = .ok a ∧ f a = .ok b := by
  cases x with
  | error e => cases h
  | ok a => exact ⟨a, rfl, h⟩

-- ---------------------------------------------------------------------------
-- Errors
-- ---------------------------------------------------------------------------

/-- `serde::de::Unexpected` of a JSON value, as an error message shows it. -/
def unexpected : Json → String
  | .null => "null"
  | .bool b => "boolean `" ++ toString b ++ "`"
  | .number n => "integer `" ++ toString n ++ "`"
  | .string s => "string \"" ++ s ++ "\""
  | .array _ => "sequence"
  | .object _ => "map"

/-- `Error::invalid_type(unexpected, &expected)`. -/
def invalidType (v : Json) (expected : String) : String :=
  "invalid type: " ++ unexpected v ++ ", expected " ++ expected

/-- `Error::invalid_value(Unexpected::Signed(n), &expected)`. -/
def invalidValue (n : Int) (expected : String) : String :=
  "invalid value: integer `" ++ toString n ++ "`, expected " ++ expected

/-- `Error::duplicate_field(name)`. -/
def duplicateField (name : String) : String := "duplicate field `" ++ name ++ "`"

/-- `Error::missing_field(name)`. -/
def missingField (name : String) : String := "missing field `" ++ name ++ "`"

-- ---------------------------------------------------------------------------
-- Leaf types
-- ---------------------------------------------------------------------------

/-- `String::deserialize`. -/
def deserializeString : Json → Except String String
  | .string s => .ok s
  | v => .error (invalidType v "a string")

/-- `bool::deserialize`. -/
def deserializeBool : Json → Except String Bool
  | .bool b => .ok b
  | v => .error (invalidType v "a boolean")

/-- `i32::deserialize`: an integer outside the range is an invalid value. -/
def deserializeI32 : Json → Except String I32
  | .number n => if h : -2 ^ 31 ≤ n ∧ n < 2 ^ 31 then .ok ⟨n, h⟩ else .error (invalidValue n "i32")
  | v => .error (invalidType v "i32")

/-- `u64::deserialize`: an integer outside the range is an invalid value. -/
def deserializeU64 : Json → Except String UInt64
  | .number n => if 0 ≤ n ∧ n < 2 ^ 64 then .ok (UInt64.ofNat n.toNat) else .error (invalidValue n "u64")
  | v => .error (invalidType v "u64")

/-- `HashMap<String, String>::deserialize`: insert the members in turn, so a repeated key
keeps its last value. -/
def deserializeStringMap : Json → Except String (HashMap String String)
  | .object kvs => kvs.foldlM (fun m kv => do pure (m.insert kv.1 (← deserializeString kv.2))) .empty
  | v => .error (invalidType v "a map")

/-- `Vec<String>::deserialize`. -/
def deserializeStringVec : Json → Except String (List String)
  | .array vs => vs.mapM deserializeString
  | v => .error (invalidType v "a sequence")

/-- `HashMap<String, String>::serialize`: the members in iteration order. -/
def serializeStringMap (m : HashMap String String) : Json :=
  .object (m.entries.map fun kv => (kv.1, .string kv.2))

/-- `Vec<String>::serialize`. -/
def serializeStringVec (l : List String) : Json := .array (l.map .string)

theorem foldlM_insert_string (es : List (String × String)) (acc : HashMap String String) :
    (es.map fun kv => (kv.1, Json.string kv.2)).foldlM
        (fun m kv => do pure (m.insert kv.1 (← deserializeString kv.2))) acc =
      .ok (es.foldl (fun m e => m.insert e.1 e.2) acc) := by
  induction es generalizing acc with
  | nil => rfl
  | cons e es ih => exact ih _

theorem mapM_deserializeString (l : List String) :
    (l.map Json.string).mapM deserializeString = .ok l := by
  induction l with
  | nil => rfl
  | cons s l ih => simp only [List.map_cons, List.mapM_cons, ih]; rfl

@[simp] theorem deserializeString_string (s : String) : deserializeString (.string s) = .ok s := rfl

@[simp] theorem deserializeBool_bool (b : Bool) : deserializeBool (.bool b) = .ok b := rfl

@[simp] theorem deserializeI32_number (n : I32) : deserializeI32 (.number n.val) = .ok n :=
  dif_pos n.bounds

@[simp] theorem deserializeU64_number (n : UInt64) : deserializeU64 (.number n.toNat) = .ok n := by
  have hlt := n.toNat_lt_size
  have h64 : (n.toNat : Int) < 2 ^ 64 := Int.ofNat_lt.mpr hlt
  rw [deserializeU64, if_pos ⟨by omega, h64⟩, Int.toNat_ofNat]
  exact congrArg _ (UInt64.toNat.inj (UInt64.toNat_ofNat_of_lt hlt))

/-- A map reads back equal as a list of entries, in the same iteration order. -/
@[simp] theorem deserializeStringMap_serialize (m : HashMap String String) :
    deserializeStringMap (serializeStringMap m) = .ok m := by
  rw [serializeStringMap, deserializeStringMap, foldlM_insert_string]
  exact congrArg _ (HashMap.ofList_entries m)

@[simp] theorem deserializeStringVec_serialize (l : List String) :
    deserializeStringVec (serializeStringVec l) = .ok l :=
  mapM_deserializeString l

-- ---------------------------------------------------------------------------
-- Derived structs
-- ---------------------------------------------------------------------------

/-- A member under `#[serde(skip_serializing_if = ...)]`: left out when `skip` holds. -/
def serializeFieldUnless (skip : Bool) (name : String) (v : Json) : List (String × Json) :=
  if skip then [] else [(name, v)]

/-- The slot a `visit_map` fills for a member under `skip_serializing_if = skip`. -/
def optUnless {α : Type} (skip : Bool) (a : α) : Option α := if skip then none else some a

@[simp] theorem optUnless_true {α : Type} (a : α) : optUnless true a = none := rfl

@[simp] theorem optUnless_false {α : Type} (a : α) : optUnless false a = some a := rfl

/-- A member left out is restored by the default when `skip` holds of the default only. -/
theorem getD_optUnless {α : Type} {skip : Bool} {a d : α} (h : skip = true → a = d) :
    (optUnless skip a).getD d = a := by
  cases skip
  · rfl
  · exact (h rfl).symm

/-- One arm of a derived `visit_map`: a second occurrence of the field is
`duplicate_field`, otherwise its value is deserialized into the field's slot. -/
def visitField {α : Type} (name : String) (deserialize : Json → Except String α)
    (slot : Option α) (v : Json) : Except String (Option α) :=
  match slot with
  | some _ => .error (duplicateField name)
  | none => some <$> deserialize v

/-- The end of a derived `visit_map` for a field without `#[serde(default)]`. -/
def requiredField {α : Type} (name : String) : Option α → Except String α
  | some a => .ok a
  | none => .error (missingField name)

@[simp] theorem visitField_none {α : Type} (name : String) (deserialize : Json → Except String α)
    (v : Json) : visitField name deserialize none v = some <$> deserialize v := rfl

/-- An arm of `visit_map` that reads its member found the slot empty, and fills it. -/
theorem visitField_eq_ok {α : Type} {name : String} {des : Json → Except String α}
    {slot slot' : Option α} {v : Json} (h : visitField name des slot v = .ok slot') :
    slot = none ∧ slot'.isSome := by
  cases slot with
  | some _ => cases h
  | none =>
    refine ⟨rfl, ?_⟩
    cases hd : des v <;> simp [visitField, hd, Functor.map, Except.map] at h
    simp [← h]

end Serde

end Runcell
