import Runcell.Celler.State

/-!
# Runcell — the members a state document may hold

The derived `visit_map` of `State` reads the members of a JSON object one after the other.
A member whose key names no field is skipped (`State` has no `deny_unknown_fields`), and a
field met a second time is `duplicate_field`. `Slots.filled` says which slots hold a value:
a member is read only into an empty slot, and a read slot stays filled to the end.

Main result:

* `State.deserialize_rejects_duplicate` — a document holding a field twice is rejected,
  whatever stands before, between and after.
-/

namespace Runcell

open Serde

namespace State

/-- Whether the slot of a field holds a value. -/
def Slots.filled (s : Slots) : Field → Bool
  | .base => s.base.isSome
  | .rootless => s.rootless.isSome
  | .cgroupPaths => s.cgroupPaths.isSome
  | .namespacePaths => s.namespacePaths.isSome
  | .externalDescriptors => s.externalDescriptors.isSome
  | .intelRdtPath => s.intelRdtPath.isSome
  | .ignore => false

/-- **One member.** When `visit_map` reads a member, the slot of its field was empty; every
filled slot stays filled, and the member's own slot is filled after it. -/
theorem visitEntry_eq_ok {s s' : Slots} {kv : String × Json} (h : visitEntry s kv = .ok s') :
    s.filled (Field.ofKey kv.1) = false ∧ (∀ f, s.filled f → s'.filled f) ∧
      (Field.ofKey kv.1 ≠ .ignore → s'.filled (Field.ofKey kv.1)) := by
  unfold visitEntry at h
  split at h <;> rename_i hk
  case h_7 => cases h; exact ⟨by simp [hk, Slots.filled], fun _ hf => hf, fun hi => absurd hk hi⟩
  -- a field: `visit_field` read the member into its empty slot
  all_goals
    obtain ⟨x, hx, he⟩ := bind_eq_ok h
    cases he
    obtain ⟨hs, hx'⟩ := visitField_eq_ok hx
    refine ⟨by simp [hk, Slots.filled, hs], fun f hf => ?_, fun _ => by simp [hk, Slots.filled, hx']⟩
    cases f <;> simp_all [Slots.filled]

theorem foldlM_visitEntry_filled {s s' : Slots} {kvs : List (String × Json)}
    (h : kvs.foldlM visitEntry s = .ok s') {f : Field} (hf : s.filled f) : s'.filled f := by
  induction kvs generalizing s with
  | nil => cases h; exact hf
  | cons kv kvs ih =>
    obtain ⟨s₁, h₁, h₂⟩ := bind_eq_ok h
    exact ih h₂ ((visitEntry_eq_ok h₁).2.1 f hf)

/-- **A field twice is rejected.** For every document holding two members with the key of
one field of `State`, whatever stands before, between and after them and whatever their
values, reading the document fails. -/
theorem deserialize_rejects_duplicate (pre mid post : List (String × Json)) (k : String)
    (v₁ v₂ : Json) (hk : Field.ofKey k ≠ .ignore) :
    ∃ e, deserialize (.object (pre ++ (k, v₁) :: (mid ++ (k, v₂) :: post))) = .error e := by
  cases hd : deserialize (.object (pre ++ (k, v₁) :: (mid ++ (k, v₂) :: post))) with
  | error e => exact ⟨e, rfl⟩
  | ok st =>
    exfalso
    simp only [deserialize] at hd
    obtain ⟨s, hfold, -⟩ := bind_eq_ok hd
    simp only [List.foldlM_append, List.foldlM_cons] at hfold
    obtain ⟨s₀, -, hfold⟩ := bind_eq_ok hfold
    obtain ⟨s₁, h₁, hfold⟩ := bind_eq_ok hfold
    obtain ⟨s₂, h₂, hfold⟩ := bind_eq_ok hfold
    obtain ⟨s₃, h₃, -⟩ := bind_eq_ok hfold
    have hfill : s₂.filled (Field.ofKey k) :=
      foldlM_visitEntry_filled h₂ ((visitEntry_eq_ok h₁).2.2 hk)
    simp [(visitEntry_eq_ok h₃).1] at hfill

/-- `rootless` twice, around an unknown member. -/
theorem deserialize_rejects_duplicate_rootless :
    Field.ofKey "rootless" ≠ .ignore ∧
    ∃ e, deserialize (.object ([("base", .object [])] ++ ("rootless", .bool true) ::
      ([("x", .null)] ++ ("rootless", .bool false) :: []))) = .error e :=
  ⟨by simp, deserialize_rejects_duplicate _ _ _ _ _ _ (by simp)⟩

end State

end Runcell
