import Runcell.Cli.Paths

/-!
# Runcell — what `create` and `run` leave behind

Neither command has a cleanup path. `create_container` creates the bundle directory with
`create_dir_all`, which succeeds on a directory that is already there, and writes
`config.json` with `Spec::save`, which replaces the file: a second `create` with the same id
succeeds and overwrites the first configuration. `run_container` pulls the image, creates
the bundle, saves `config.json` and only then builds the container; no step removes
anything, so an error after the save leaves the bundle and its `config.json` in place.

Main results:

* `createContainer_twice` — a second `create` with the same id and bundle fails only when
  its own directory creation or save fails, and otherwise leaves the second configuration.
* `runContainer_no_cleanup` — `run_container` removes nothing on any exit, and once it has
  reached `LinuxContainer::new` the bundle and its `config.json` are there.
-/

namespace Runcell

section Commands

variable (w : HostWorld) (d : BuilderDefaults)

-- ---------------------------------------------------------------------------
-- `create_container`
-- ---------------------------------------------------------------------------

/-- One `create_container` call: `Ok` exactly when its `create_dir_all` and its save
succeed, and then `config.json` holds the minimal spec for the rootfs. -/
theorem createContainer_spec (id rootfs : String) (bundle : Option String) (h : Host) :
    let p := bundle.getD (bundleBase ++ "/" ++ id)
    let r := createContainer w d id rootfs bundle h
    (r.1 = .ok () ↔ w.fails h.calls (.createDirAll p) = none ∧
      w.fails (h.calls ++ [.createDirAll p]) (.save (p ++ "/config.json")) = none) ∧
    (r.1 = .ok () → r.2.fs.get? (resolve (p ++ "/config.json")) =
      some (.config (createMinimalSpec d rootfs ["/bin/sh"] false))) := by
  intro p r
  simp only [r, createContainer, createDirAll, saveSpec, call, Run.context, bind, Run.bind,
    Run.modify_apply]
  cases h₁ : w.fails h.calls (.createDirAll p) <;>
    cases h₂ : w.fails (h.calls ++ [.createDirAll p]) (.save (p ++ "/config.json")) <;>
    simp [h₁, h₂, p, Fs.write]

/-- **`create` twice.** After `create_container(id, r₁, bundle)`, whatever it returned,
`create_container(id, r₂, bundle)` returns `Ok` exactly when its own `create_dir_all` and
save succeed, the existing bundle notwithstanding; and then `config.json` holds the spec for
`r₂`. -/
theorem createContainer_twice (id r₁ r₂ : String) (bundle : Option String) (h : Host) :
    let p := bundle.getD (bundleBase ++ "/" ++ id)
    let h₁ := (createContainer w d id r₁ bundle h).2
    let r := createContainer w d id r₂ bundle h₁
    (r.1 = .ok () ↔ w.fails h₁.calls (.createDirAll p) = none ∧
      w.fails (h₁.calls ++ [.createDirAll p]) (.save (p ++ "/config.json")) = none) ∧
    (r.1 = .ok () → r.2.fs.get? (resolve (p ++ "/config.json")) =
      some (.config (createMinimalSpec d r₂ ["/bin/sh"] false))) :=
  createContainer_spec w d id r₂ bundle _

/-- A second `create` of `a` succeeds and replaces the first configuration. -/
theorem createContainer_twice_overwrites :
    let d : BuilderDefaults := ⟨⟨"", none, none, none, none⟩, ⟨false, none⟩, ⟨"", none⟩⟩
    let w : HostWorld := ⟨fun _ _ => none, fun _ _ => "", fun _ => some 0⟩
    let h₁ := (createContainer w d "a" "/r1" none ⟨HashMap.empty, [], []⟩).2
    let r := createContainer w d "a" "/r2" none h₁
    h₁.fs.get? ["tmp", "runcell", "bundles", "a", "config.json"] =
      some (.config (createMinimalSpec d "/r1" ["/bin/sh"] false)) ∧
    r.1 = .ok () ∧
    r.2.fs.get? ["tmp", "runcell", "bundles", "a", "config.json"] =
      some (.config (createMinimalSpec d "/r2" ["/bin/sh"] false)) ∧
    createMinimalSpec d "/r2" ["/bin/sh"] false ≠ createMinimalSpec d "/r1" ["/bin/sh"] false :=
  ⟨rfl, rfl, rfl, by simp [createMinimalSpec]⟩

-- ---------------------------------------------------------------------------
-- `run_container`
-- ---------------------------------------------------------------------------

theorem pullAndExtract_fsSame (image id : String) :
    Preserves .fsSame (pullAndExtract w image id) :=
  .bind (Preserves.call_fsSame w _) fun _ => .pure _

theorem createAndStart_fsSame (id : String) (spec : Spec) :
    Preserves .fsSame (createAndStart w id spec) :=
  .bind (Preserves.call_fsSame w _) fun _ => .bind (.okOr _ _) fun _ =>
    .bind (.context _ (Preserves.call_fsSame w _)) fun _ => .context _ (Preserves.call_fsSame w _)

theorem createAndStart_calls (id : String) (spec : Spec) :
    Preserves (.callsWithin fun _ => True) (createAndStart w id spec) :=
  .bind (Preserves.call_within w trivial) fun _ => .bind (.okOr _ _) fun _ =>
    .bind (.context _ (Preserves.call_within w trivial)) fun _ =>
      .context _ (Preserves.call_within w trivial)

theorem runContainer_grows (id image command : String) (args : List String) (tty : Bool) :
    Preserves .grows (runContainer w d id image command args tty) :=
  .bind (pullAndExtract_fsSame w image id).grows_of_fsSame fun _ =>
    .bind (Preserves.createDirAll_grows w _) fun _ => .bind (Preserves.saveSpec_grows w _ _) fun _ =>
      (createAndStart_fsSame w id _).grows_of_fsSame

/-- **No cleanup in `run_container`.** On every exit, `Ok` or `Err`, `run_container` has
removed no path; and when it has reached `LinuxContainer::new` (so that the pull, the
`create_dir_all` and the save succeeded), the bundle directory is there and its
`config.json` holds the generated spec, whatever the later steps returned. -/
theorem runContainer_no_cleanup (id image command : String) (args : List String) (tty : Bool)
    (h : Host) :
    let r := runContainer w d id image command args tty h
    let bundlePath := bundleBase ++ "/" ++ id
    (∀ k, (h.fs.get? k).isSome → (r.2.fs.get? k).isSome) ∧
    ∃ l, r.2.calls = h.calls ++ l ∧
      (.linuxContainerNew id containerStateBase ∈ l →
        r.2.fs.get? (resolve (bundlePath ++ "/config.json")) =
          some (.config (createMinimalSpec d (w.rootfs image id) (command :: args) tty)) ∧
        r.2.fs.existsPath (resolve bundlePath) = true) := by
  intro r b
  refine ⟨runContainer_grows w d id image command args tty h, ?_⟩
  let spec := createMinimalSpec d (w.rootfs image id) (command :: args) tty
  have hr : r = runContainer w d id image command args tty h := rfl
  simp only [runContainer] at hr
  let h₁ : Host := { h with calls := h.calls ++ [.pullAndExtract image id] }
  let h₂ : Host :=
    { h₁ with fs := h₁.fs.mkdirAll (resolve b), calls := h₁.calls ++ [.createDirAll b] }
  let h₃ : Host :=
    { h₂ with
      fs := h₂.fs.write (resolve (b ++ "/config.json")) (.config spec)
      calls := h₂.calls ++ [.save (b ++ "/config.json")] }
  cases hp : w.fails h.calls (.pullAndExtract image id) with
  | some e =>
    rw [Run.bind_of_err (pullAndExtract_of_some hp)] at hr
    exact ⟨[.pullAndExtract image id], by simp [hr], by simp⟩
  | none =>
  rw [Run.bind_of_ok (pullAndExtract_of_none hp)] at hr
  cases hm : w.fails h₁.calls (.createDirAll b) with
  | some e =>
    rw [Run.bind_of_err (createDirAll_of_some hm)] at hr
    exact ⟨[.pullAndExtract image id, .createDirAll b], by simp [hr, h₁], by simp⟩
  | none =>
  rw [Run.bind_of_ok (createDirAll_of_none hm)] at hr
  cases hs : w.fails h₂.calls (.save (b ++ "/config.json")) with
  | some e =>
    rw [Run.bind_of_err (saveSpec_of_some hs)] at hr
    exact ⟨[.pullAndExtract image id, .createDirAll b, .save (b ++ "/config.json")],
      by simp [hr, h₁, h₂], by simp⟩
  | none =>
  rw [Run.bind_of_ok (saveSpec_of_none hs)] at hr
  obtain ⟨l, hl, -⟩ := createAndStart_calls w id spec h₃
  have hcalls : r.2.calls = h₃.calls ++ l := hr ▸ hl
  have hfs : r.2.fs = h₃.fs := hr ▸ createAndStart_fsSame w id spec h₃
  refine ⟨[.pullAndExtract image id, .createDirAll b, .save (b ++ "/config.json")] ++ l,
    by simp [hcalls, h₁, h₂, h₃], fun _ => ⟨by simp [hfs, h₃, Fs.write], ?_⟩⟩
  rw [hfs]
  exact Fs.existsPath_write (Fs.existsPath_mkdirAll _ _) _ _

/-- `LinuxContainer::new` failing: `run_container` returns its error and leaves the bundle's
`config.json`, which was not there before. -/
theorem runContainer_leaves_config_on_error :
    let d : BuilderDefaults := ⟨⟨"", none, none, none, none⟩, ⟨false, none⟩, ⟨"", none⟩⟩
    let w : HostWorld := ⟨fun _ c => if c = .linuxContainerNew "a" containerStateBase then
      some "Permission denied (os error 13)" else none, fun _ _ => "/rootfs", fun _ => some 0⟩
    let h : Host := ⟨HashMap.empty, [], []⟩
    let r := runContainer w d "a" "busybox" "/bin/sh" [] false h
    r.1 = .err "Permission denied (os error 13)" ∧
    (h.fs.get? ["tmp", "runcell", "bundles", "a", "config.json"]).isNone = true ∧
    (r.2.fs.get? ["tmp", "runcell", "bundles", "a", "config.json"]).isSome = true :=
  ⟨rfl, rfl, rfl⟩

end Commands

end Runcell
