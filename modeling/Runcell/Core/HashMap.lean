import Mathlib.Data.List.Nodup
import Runcell.Core.Run

/-!
# Runcell — `std::collections::HashMap`

A `HashMap` is modelled by its entries, one pair per key; the structure carries the
uniqueness of keys, so no map with a repeated key can be built. The order of the list
stands for the iteration order. `insert` replaces a present key in place and appends a new
one, so it never reorders entries; a Rust map promises no order, and a statement that two
maps are equal as lists is stronger than one that they have the same contents.

`ofList` is `collect::<HashMap<_, _>>()`, and what `serde` does when it reads a map: insert
the pairs in turn. On the entries of a map it gives the map back (`ofList_entries`).
-/

namespace Runcell

/-- The value under `k` in a list of entries, from the first entry with that key. -/
def lookupEntry {K V : Type} [DecidableEq K] : List (K × V) → K → Option V
  | [], _ => none
  | (k', v) :: es, k => if k' = k then some v else lookupEntry es k

/-- Insert into a list of entries: replace the first entry of the key, or append one. -/
def insertEntry {K V : Type} [DecidableEq K] : List (K × V) → K → V → List (K × V)
  | [], k, v => [(k, v)]
  | (k', v') :: es, k, v => if k' = k then (k, v) :: es else (k', v') :: insertEntry es k v

section Entries

variable {K V : Type} [DecidableEq K]

theorem lookupEntry_eq_none {es : List (K × V)} {k : K} (h : k ∉ es.map Prod.fst) :
    lookupEntry es k = none := by
  induction es with
  | nil => rfl
  | cons e es ih =>
    simp only [List.map_cons, List.mem_cons, not_or] at h
    simp [lookupEntry, Ne.symm h.1, ih h.2]

theorem lookupEntry_insertEntry (es : List (K × V)) (k k' : K) (v : V) :
    lookupEntry (insertEntry es k v) k' = if k = k' then some v else lookupEntry es k' := by
  induction es with
  | nil => simp [insertEntry, lookupEntry]
  | cons e es ih =>
    obtain ⟨k₀, v₀⟩ := e
    by_cases h : k₀ = k
    · subst h
      by_cases h' : k₀ = k' <;> simp [insertEntry, lookupEntry, h']
    · simp only [insertEntry, h, if_false, lookupEntry, ih]
      by_cases h' : k₀ = k'
      · subst h'
        simp [Ne.symm h]
      · simp [h']

theorem lookupEntry_eq_some_iff {es : List (K × V)} (hnd : (es.map Prod.fst).Nodup) (k : K) (v : V) :
    lookupEntry es k = some v ↔ (k, v) ∈ es := by
  induction es with
  | nil => simp [lookupEntry]
  | cons e es ih =>
    obtain ⟨k₀, v₀⟩ := e
    rw [List.map_cons, List.nodup_cons] at hnd
    by_cases hk : k₀ = k
    · subst hk
      have hnot : (k₀, v) ∉ es := fun hmem => hnd.1 (List.mem_map.mpr ⟨_, hmem, rfl⟩)
      simp [lookupEntry, hnot, eq_comm]
    · simp [lookupEntry, hk, ih hnd.2, Ne.symm hk]

theorem lookupEntry_filter {es : List (K × V)} (hnd : (es.map Prod.fst).Nodup) (f : K × V → Bool)
    (k : K) : lookupEntry (es.filter f) k = (lookupEntry es k).filter fun v => f (k, v) := by
  induction es with
  | nil => rfl
  | cons e es ih =>
    obtain ⟨k₀, v₀⟩ := e
    rw [List.map_cons, List.nodup_cons] at hnd
    by_cases hk : k₀ = k
    · subst hk
      have hnone : lookupEntry (es.filter f) k₀ = none := lookupEntry_eq_none
        (fun hmem => hnd.1 (List.Sublist.subset ((List.filter_sublist es).map _) hmem))
      cases hf : f (k₀, v₀) <;> simp [List.filter_cons, lookupEntry, hf, hnone, Option.filter]
    · cases hf : f (k₀, v₀) <;> simp [List.filter_cons, lookupEntry, hf, hk, ih hnd.2]

theorem keys_insertEntry_of_mem {es : List (K × V)} {k : K} (v : V) (h : k ∈ es.map Prod.fst) :
    (insertEntry es k v).map Prod.fst = es.map Prod.fst := by
  induction es with
  | nil => simp at h
  | cons e es ih =>
    obtain ⟨k₀, v₀⟩ := e
    by_cases hk : k₀ = k
    · simp [insertEntry, hk]
    · simp only [List.map_cons, List.mem_cons, Ne.symm hk, false_or] at h
      simp [insertEntry, hk, ih h]

theorem insertEntry_of_not_mem {es : List (K × V)} {k : K} (v : V) (h : k ∉ es.map Prod.fst) :
    insertEntry es k v = es ++ [(k, v)] := by
  induction es with
  | nil => rfl
  | cons e es ih =>
    simp only [List.map_cons, List.mem_cons, not_or] at h
    simp [insertEntry, Ne.symm h.1, ih h.2]

theorem nodup_insertEntry {es : List (K × V)} (h : (es.map Prod.fst).Nodup) (k : K) (v : V) :
    ((insertEntry es k v).map Prod.fst).Nodup := by
  by_cases hk : k ∈ es.map Prod.fst
  · rwa [keys_insertEntry_of_mem v hk]
  · rw [insertEntry_of_not_mem v hk, List.map_append, List.nodup_append]
    exact ⟨h, List.nodup_singleton _, by simpa using hk⟩

end Entries

/-- `HashMap<K, V>`: its entries, keys pairwise distinct. -/
structure HashMap (K V : Type) where
  entries : List (K × V)
  nodup : (entries.map Prod.fst).Nodup

namespace HashMap

variable {K V : Type}

theorem ext_entries {m m' : HashMap K V} (h : m.entries = m'.entries) : m = m' := by
  cases m
  cases m'
  cases h
  rfl

/-- `HashMap::new()`. -/
def empty : HashMap K V := ⟨[], List.nodup_nil⟩

/-- `HashMap::is_empty`. -/
def isEmpty (m : HashMap K V) : Bool := m.entries.isEmpty

theorem isEmpty_iff (m : HashMap K V) : m.isEmpty = true ↔ m = empty := by
  constructor
  · intro h
    exact ext_entries (List.isEmpty_iff.mp h)
  · rintro rfl
    rfl

variable [DecidableEq K]

/-- `map.get(k)`. -/
def get? (m : HashMap K V) (k : K) : Option V := lookupEntry m.entries k

/-- `map.contains_key(k)`. -/
def containsKey (m : HashMap K V) (k : K) : Bool := (m.get? k).isSome

/-- `map.insert(k, v)`. -/
def insert (m : HashMap K V) (k : K) (v : V) : HashMap K V :=
  ⟨insertEntry m.entries k v, nodup_insertEntry m.nodup k v⟩

/-- `map.retain(f)`: the entries `f` keeps, in order. -/
def filter (m : HashMap K V) (f : K × V → Bool) : HashMap K V :=
  ⟨m.entries.filter f, m.nodup.sublist ((List.filter_sublist _).map _)⟩

/-- `iter.collect::<HashMap<_, _>>()`: insert each pair in turn. -/
def ofList (es : List (K × V)) : HashMap K V := es.foldl (fun m e => m.insert e.1 e.2) empty

@[simp] theorem get?_empty (k : K) : (empty : HashMap K V).get? k = none := rfl

theorem get?_eq_some_iff (m : HashMap K V) (k : K) (v : V) : m.get? k = some v ↔ (k, v) ∈ m.entries :=
  lookupEntry_eq_some_iff m.nodup k v

@[simp] theorem get?_insert (m : HashMap K V) (k k' : K) (v : V) :
    (m.insert k v).get? k' = if k = k' then some v else m.get? k' :=
  lookupEntry_insertEntry _ _ _ _

@[simp] theorem get?_filter (m : HashMap K V) (f : K × V → Bool) (k : K) :
    (m.filter f).get? k = (m.get? k).filter fun v => f (k, v) :=
  lookupEntry_filter m.nodup f k

/-- Inserting pairs with new, distinct keys appends them. -/
theorem foldl_insert_of_nodup (acc : HashMap K V) (es : List (K × V))
    (h : (acc.entries.map Prod.fst ++ es.map Prod.fst).Nodup) :
    (es.foldl (fun m e => m.insert e.1 e.2) acc).entries = acc.entries ++ es := by
  induction es generalizing acc with
  | nil => simp
  | cons e es ih =>
    have hnew : e.1 ∉ acc.entries.map Prod.fst := by
      intro hmem
      simp only [List.map_cons] at h
      exact (List.nodup_append.mp h).2.2 hmem (List.mem_cons_self _ _)
    have hacc : (insert acc e.1 e.2).entries = acc.entries ++ [e] := insertEntry_of_not_mem _ hnew
    rw [List.foldl_cons, ih _ (by simpa [hacc] using h), hacc, List.append_assoc, List.singleton_append]

/-- Reading back the entries of a map gives the map. -/
theorem ofList_entries (m : HashMap K V) : ofList m.entries = m :=
  ext_entries (by simpa using foldl_insert_of_nodup empty m.entries (by simpa [empty] using m.nodup))

end HashMap

end Runcell
