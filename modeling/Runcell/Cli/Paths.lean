import Runcell.Cli.ContainerCmd
import Runcell.Cli.Frame

/-!
# Runcell — the directories the container commands address

`create_container` (without `--bundle`), `run_container` and `delete_container` address
`format!("{}/{}", BUNDLE_BASE, id)` and `format!("{}/{}", CONTAINER_STATE_BASE, id)`: a
string concatenation, which the kernel then walks. The id is any string the command line
accepts, and nothing checks it. For an id that is one normal path component the two
directories are children of the two bases, and the directories of two distinct ids are
disjoint; an empty id, `..`, or an id with a `/` in it breaks both.

Main results:

* `deleteContainer_outside` — `delete_container(id)` changes no path outside its two
  directories, on every outcome of its calls.
* `container_dirs_confined` — for normal ids the directories are children of the bases,
  distinct ids address disjoint directories, and deleting one container leaves the other's
  directories as they were.
-/

namespace Runcell

theorem resolve_bundleBase : resolve bundleBase = ["tmp", "runcell", "bundles"] := rfl

theorem resolve_containerStateBase : resolve containerStateBase = ["tmp", "runcell", "states"] :=
  rfl

/-- `format!("{}/{}", base, id)` for a normal id is the child `id` of `base`. -/
theorem resolve_child (base : String) {id : String} (h : NormalComponent id) :
    resolve (base ++ "/" ++ id) = resolve base ++ [id] := by
  rw [resolve_slash base id h.2.2.2, enterComponent_normal h]

/-- The `config.json` of a bundle is its child. -/
theorem resolve_config (bundle : String) :
    resolve (bundle ++ "/config.json") = resolve bundle ++ ["config.json"] := by
  rw [← resolve_child bundle (by decide : NormalComponent "config.json"), String.append_assoc]
  rfl

/-- The paths `delete_container(id)` may remove. -/
def deleteScope (id : String) (k : List String) : Prop :=
  resolve (bundleBase ++ "/" ++ id) <+: k ∨ resolve (containerStateBase ++ "/" ++ id) <+: k

-- ---------------------------------------------------------------------------
-- What `delete_container` touches
-- ---------------------------------------------------------------------------

section Delete

variable (w : HostWorld)

theorem killInit_fsSame (id : String) : Preserves .fsSame (killInit w id) := by
  unfold killInit
  refine .bind (.attempt (.of_readOnly (ReadOnly.loadContainerState _ _))) fun r => ?_
  rcases r with _ | state
  · exact .pure _
  · exact .ite (.bind (.of_readOnly (ReadOnly.isProcessRunning _)) fun _ =>
      .ite (.bind (.attempt (Preserves.call_fsSame w _)) fun _ => .pure _) (.pure _)) (.pure _)

theorem removeIfExists_outside (p : String) :
    Preserves (.outside (resolve p <+: ·)) (removeIfExists w p) :=
  .bind (.of_readOnly (ReadOnly.pathExists p)) fun _ =>
    .ite (Preserves.removeDirAll_outside w p) (.pure _)

/-- **`delete_container` frame.** Whatever each of its calls returns, `delete_container(id)`
leaves every path outside `BUNDLE_BASE/id` and `CONTAINER_STATE_BASE/id` as it was. -/
theorem deleteContainer_outside (id : String) :
    Preserves (.outside (deleteScope id)) (deleteContainer w id) := by
  refine .bind (killInit_fsSame w id).outside_of_fsSame fun _ => .bind ?_ fun _ =>
    .bind ?_ fun _ => (Preserves.call_fsSame w _).outside_of_fsSame
  · exact (removeIfExists_outside w _).mono fun _ _ hab k hk => hab k (hk ∘ .inl)
  · exact (removeIfExists_outside w _).mono fun _ _ hab k hk => hab k (hk ∘ .inr)

end Delete

-- ---------------------------------------------------------------------------
-- Normal ids
-- ---------------------------------------------------------------------------

/-- Two children of one directory with different names lie under no common path. -/
theorem child_disjoint (base : List String) {X Y : String} (hXY : X ≠ Y) {k : List String}
    (hX : base ++ [X] <+: k) (hY : base ++ [Y] <+: k) : False := by
  have h := (List.prefix_of_prefix_length_le hX hY (by simp)).eq_of_length (by simp)
  exact hXY (by simpa using h)

/-- No path lies under both a bundle and a state directory. -/
theorem bundle_state_disjoint (X Y : String) {k : List String}
    (hX : ["tmp", "runcell", "bundles", X] <+: k) (hY : ["tmp", "runcell", "states", Y] <+: k) :
    False := by
  rcases List.prefix_of_prefix_length_le hX hY (by simp) with h
  simp [List.cons_prefix_cons] at h

/-- **Confinement for normal ids.** For ids that are single normal path components
(non-empty, no `/`, not `.` or `..`): `BUNDLE_BASE/X`, where `create_container` (without
`--bundle`) and `run_container` create the bundle and write `config.json`, and
`CONTAINER_STATE_BASE/X`, which `delete_container` also removes, are children of the two
bases, with `config.json` a child of the bundle; for distinct ids neither directory contains
the other's; and for every world and host `delete_container(X)` leaves every path under the
directories of `Y` as it was. -/
theorem container_dirs_confined {X Y : String} (hX : NormalComponent X) (hY : NormalComponent Y)
    (hXY : X ≠ Y) :
    resolve (bundleBase ++ "/" ++ X) = resolve bundleBase ++ [X] ∧
    resolve (bundleBase ++ "/" ++ X ++ "/config.json") = resolve bundleBase ++ [X, "config.json"] ∧
    resolve (containerStateBase ++ "/" ++ X) = resolve containerStateBase ++ [X] ∧
    ¬resolve (bundleBase ++ "/" ++ X) <+: resolve (bundleBase ++ "/" ++ Y) ∧
    ¬resolve (containerStateBase ++ "/" ++ X) <+: resolve (containerStateBase ++ "/" ++ Y) ∧
    ∀ w h k, deleteScope Y k → (deleteContainer w X h).2.fs.get? k = h.fs.get? k := by
  have hb := resolve_child bundleBase hX
  have hs := resolve_child containerStateBase hX
  have hb' := resolve_child bundleBase hY
  have hs' := resolve_child containerStateBase hY
  rw [resolve_bundleBase] at hb hb'
  rw [resolve_containerStateBase] at hs hs'
  refine ⟨hb, ?_, hs, fun hp => child_disjoint _ hXY (hb ▸ hp) (hb' ▸ List.prefix_refl _),
    fun hp => child_disjoint _ hXY (hs ▸ hp) (hs' ▸ List.prefix_refl _), ?_⟩
  · rw [resolve_config, hb]
    rfl
  · intro w h k hk
    refine deleteContainer_outside w X h k fun hk' => ?_
    simp only [deleteScope, hb, hs, hb', hs'] at hk hk'
    rcases hk with hk | hk <;> rcases hk' with hk' | hk'
    · exact child_disjoint _ hXY hk' hk
    · exact bundle_state_disjoint _ _ hk hk'
    · exact bundle_state_disjoint _ _ hk' hk
    · exact child_disjoint _ hXY hk' hk

/-- The ids `a` and `b`. -/
theorem container_dirs_confined_ab :
    NormalComponent "a" ∧ NormalComponent "b" ∧ "a" ≠ "b" ∧
    resolve (bundleBase ++ "/" ++ "a") = resolve bundleBase ++ ["a"] ∧
    resolve (bundleBase ++ "/" ++ "a" ++ "/config.json") = resolve bundleBase ++ ["a", "config.json"] ∧
    resolve (containerStateBase ++ "/" ++ "a") = resolve containerStateBase ++ ["a"] ∧
    ¬resolve (bundleBase ++ "/" ++ "a") <+: resolve (bundleBase ++ "/" ++ "b") ∧
    ¬resolve (containerStateBase ++ "/" ++ "a") <+: resolve (containerStateBase ++ "/" ++ "b") ∧
    ∀ w h k, deleteScope "b" k → (deleteContainer w "a" h).2.fs.get? k = h.fs.get? k :=
  ⟨by decide, by decide, by decide, container_dirs_confined (by decide) (by decide) (by decide)⟩

/-- `delete_container("")` removes the whole bundle base: the bundle of a container `y` is
gone. -/
theorem deleteContainer_empty_id_removes_other :
    let fs : Fs := ((HashMap.empty.insert ["tmp", "runcell", "bundles"] .dir).insert
      ["tmp", "runcell", "bundles", "y"] .dir).insert
      ["tmp", "runcell", "bundles", "y", "config.json"] .other
    let w : HostWorld := ⟨fun _ _ => none, fun _ _ => "/rootfs", fun _ => some 0⟩
    "" ≠ "y" ∧
    (fs.get? ["tmp", "runcell", "bundles", "y", "config.json"]).isSome = true ∧
    ((deleteContainer w "" ⟨fs, [], []⟩).2.fs.get?
      ["tmp", "runcell", "bundles", "y", "config.json"]).isNone = true :=
  ⟨by decide, rfl, rfl⟩

end Runcell
