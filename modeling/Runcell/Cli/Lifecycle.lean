import Runcell.Cli.Liveness
import Runcell.Cli.Session

/-!
# Runcell — what one command leaves for the next

The host's filesystem is a map from resolved paths to nodes; it is a tree (`Fs.Closed`) when
the parent of every node but the root's children is there. `create_dir_all` creates each
missing ancestor before its child, `create` and `run` write `config.json` only once its
bundle directory is made, and `remove_dir_all` takes a whole subtree: every command keeps
the filesystem a tree, so every session started on a tree ends on one.

`delete_container` removes each of its two directories only `if Path::new(p).exists()`, and
reads the state file before it signals anything. After one `delete` of an id has returned
`Ok`, nothing lies under either directory that exists (`Fs.Cleared`), and on a tree the
state file is gone with its directory. A second `delete` of the id then changes no path and
signals no process: `delete` is idempotent, as far as the host goes.

`create` makes the bundle directory and writes `config.json`, and `start` only logs: neither
writes a state file, so a container made by `create` and `start` has no state record, and
`list`, which reads the state directory, does not show it.

Main results:

* `session_keeps_tree` — over every session, from every host whose filesystem is a tree and
  in every world, the filesystem is a tree at the end.
* `deleteContainer_idempotent` — after a `delete` of an id that returned `Ok`, on a
  filesystem that is a tree, a second `delete` of the id leaves every path as it is and
  sends no signal, whatever its calls return.
* `deleteContainer_gone` — after such a `delete`, `list` shows no row for the id and `exec`
  of the id fails as for a container that does not exist.
* `create_start_unlisted` — `create` then `start` of an id change no container's state
  record, so an id that had none is not listed after them.
-/

namespace Runcell

/-- The state file `load_container_state` reads is a child of the state directory. -/
theorem resolve_stateFile (id : String) :
    resolve (containerStateBase ++ "/" ++ id ++ "/state.json") =
      resolve (containerStateBase ++ "/" ++ id) ++ ["state.json"] := by
  rw [← resolve_child _ (by decide : NormalComponent "state.json"), String.append_assoc (containerStateBase ++ "/" ++ id) "/"]
  rfl

section Delete

variable (w : HostWorld)

theorem call_fs_eq {c : HostCall} {h h' : Host} {r : Outcome Unit} (hc : call w c h = (r, h')) :
    h'.fs = h.fs := by
  have := Preserves.call_fsSame w c h
  rwa [hc] at this

theorem removeIfExists_apply (p : String) (h : Host) :
    removeIfExists w p h =
      if h.fs.existsPath (resolve p) then removeDirAll w p h else (.ok (), h) := by
  show (if h.fs.existsPath (resolve p) then removeDirAll w p else pure ()) h = _
  split <;> rfl

theorem removeIfExists_keeps {Q : Fs → Prop} (p : String)
    (hQ : ∀ fs, Q fs → Q (fs.removeAll (resolve p))) : Preserves (.keeps Q) (removeIfExists w p) :=
  .bind (.of_readOnly (ReadOnly.pathExists p)) fun _ =>
    .ite (Preserves.removeDirAll_keeps w p hQ) (.pure _)

/-- After `if p.exists() { remove_dir_all(p)? }` returned `Ok`, nothing lies under `p`. -/
theorem removeIfExists_cleared {p : String} {h h' : Host}
    (hok : removeIfExists w p h = (.ok (), h')) : h'.fs.Cleared (resolve p) := by
  rw [removeIfExists_apply] at hok
  split at hok
  · obtain ⟨_, h₁, hc, hm⟩ := Run.bind_eq_ok hok
    cases hm
    exact Fs.cleared_removeAll _ _
  · cases hok
    exact fun he => absurd he ‹_›

/-- Where nothing lies under `p`, `if p.exists() { remove_dir_all(p)? }` changes no path. -/
theorem removeIfExists_sameIf (p : String) :
    Preserves (.sameIf (·.Cleared (resolve p))) (removeIfExists w p) := by
  intro h hc
  rw [removeIfExists_apply]
  split
  · have hx : Preserves (.sameIf fun fs => fs.Cleared (resolve p) ∧ fs.existsPath (resolve p) = true)
        (removeDirAll w p) :=
      .bind (Preserves.sameIf_of_fsSame (Preserves.call_fsSame w _)) fun _ _ hq =>
        Fs.removeAll_of_cleared (hq.1 hq.2)
    exact hx h ⟨hc, ‹_›⟩
  · rfl

/-- `delete_container` keeps the filesystem a tree. -/
theorem deleteContainer_closed (id : String) :
    Preserves (.keeps Fs.Closed) (deleteContainer w id) :=
  .bind (Preserves.keeps_of_fsSame (killInit_fsSame w id)) fun _ =>
    .bind (removeIfExists_keeps w _ fun _ hc => hc.removeAll _) fun _ =>
    .bind (removeIfExists_keeps w _ fun _ hc => hc.removeAll _) fun _ =>
    Preserves.keeps_of_fsSame (Preserves.call_fsSame w _)

/-- With no state file, `delete_container` kills nothing and reads nothing else. -/
theorem killInit_of_none {id : String} {h : Host}
    (hs : h.fs.get? (resolve (containerStateBase ++ "/" ++ id ++ "/state.json")) = none) :
    killInit w id h = (.ok (), h) := by
  simp [killInit, Run.bind_apply, Run.attempt, loadContainerState, hs]

end Delete

section Tree

variable (w : HostWorld) (d : BuilderDefaults) (formatCreated : Nat → String)

/-- `spec.save("<p>/config.json")` under a directory `p` that exists keeps the filesystem a
tree, and keeps `p`. -/
theorem saveConfig_keeps (p : String) (spec : Spec) :
    Preserves (.keeps fun fs => fs.Closed ∧ fs.existsPath (resolve p) = true)
      (saveSpec w (p ++ "/config.json") spec) :=
  .bind (Preserves.keeps_of_fsSame (Preserves.call_fsSame w _)) fun _ h hq => by
    show Fs.Closed (h.fs.write _ _) ∧ _
    rw [resolve_config]
    exact ⟨hq.1.insert _ hq.2 _, Fs.existsPath_write hq.2 _ _⟩

theorem createContainer_closed (id rootfs : String) (bundle : Option String) :
    Preserves (.keeps Fs.Closed) (createContainer w d id rootfs bundle) :=
  .bind_ok (.context _ (Preserves.createDirAll_keeps w _ fun _ hc => hc.mkdirAll _))
    fun _ _ h' hok hc => ((Preserves.context _ (saveConfig_keeps w _ _)) h'
      ⟨hc, createDirAll_eq_ok (Run.context_eq_ok hok) ▸ Fs.existsPath_mkdirAll _ _⟩).1

theorem runContainer_closed (id image command : String) (args : List String) (tty : Bool) :
    Preserves (.keeps Fs.Closed) (runContainer w d id image command args tty) :=
  .bind (Preserves.keeps_of_fsSame (pullAndExtract_fsSame w image id)) fun _ =>
    .bind_ok (Preserves.createDirAll_keeps w _ fun _ hc => hc.mkdirAll _) fun _ _ h' hok hc =>
      ((Preserves.bind (saveConfig_keeps w _ _) fun _ =>
        Preserves.keeps_of_fsSame (createAndStart_fsSame w id _)) h'
        ⟨hc, createDirAll_eq_ok hok ▸ Fs.existsPath_mkdirAll _ _⟩).1

/-- Every command keeps the filesystem a tree. -/
theorem handleContainerCommand_closed (c : ContainerCommand) :
    Preserves (.keeps Fs.Closed) (handleContainerCommand w d formatCreated c) := by
  cases c with
  | create id rootfs bundle => exact createContainer_closed w d id rootfs bundle
  | run id image command args tty => exact runContainer_closed w d id image command args tty
  | start => exact .pure _
  | delete id => exact deleteContainer_closed w id
  | list format all =>
    exact Preserves.keeps_of_fsSame (.bind (listContainers_fsSame w formatCreated all) fun _ =>
      .ite (.pure _) (.of_readOnly fun _ => rfl))
  | exec id command args => exact Preserves.keeps_of_fsSame (execInContainer_fsSame w id command args)

end Tree

/-- **The filesystem stays a tree.** For every world, every sequence of container commands
and every host whose filesystem is a tree, the filesystem is a tree after the session. -/
theorem session_keeps_tree (w : HostWorld) (d : BuilderDefaults) (formatCreated : Nat → String)
    (h : Host) (cmds : List ContainerCommand) (hc : h.fs.Closed) :
    (afterCommands w d formatCreated h cmds).fs.Closed :=
  afterCommands_rel w d formatCreated (.keeps Fs.Closed) cmds
    (fun c _ => handleContainerCommand_closed w d formatCreated c) h hc

/-- From the empty filesystem, `create`, `run` and `delete` of one id. -/
theorem session_keeps_tree_from_empty :
    let w : HostWorld := ⟨fun _ _ => none, fun _ _ => "/rootfs", fun _ => some 0⟩
    let d : BuilderDefaults := ⟨⟨"", none, none, none, none⟩, ⟨false, none⟩, ⟨"", none⟩⟩
    let cmds : List ContainerCommand := [.create "c1" "/rootfs" none,
      .run "c1" "alpine" "sh" [] false false false, .delete "c1"]
    Fs.Closed HashMap.empty ∧ (afterCommands w d toString ⟨HashMap.empty, [], []⟩ cmds).fs.Closed :=
  ⟨Fs.closed_empty, session_keeps_tree _ _ _ _ _ Fs.closed_empty⟩


/-- What an `Ok` of `delete_container(id)` leaves: nothing under either of its directories,
and, on a tree, no state file of the id. -/
theorem deleteContainer_ok_cleared (w : HostWorld) {id : String} {h : Host} (hc : h.fs.Closed)
    (hok : (deleteContainer w id h).1 = .ok ()) :
    (deleteContainer w id h).2.fs.Cleared (resolve (bundleBase ++ "/" ++ id)) ∧
      (deleteContainer w id h).2.fs.Cleared (resolve (containerStateBase ++ "/" ++ id)) ∧
      (deleteContainer w id h).2.fs.get? (stateFile id) = none := by
  let h₁ := (deleteContainer w id h).2
  let pb := bundleBase ++ "/" ++ id
  let ps := containerStateBase ++ "/" ++ id
  -- the `delete`, step by step
  obtain ⟨_, ha, -, hrest⟩ := Run.bind_eq_ok (Prod.ext hok rfl : deleteContainer w id h = (.ok (), h₁))
  obtain ⟨_, hb, hrb, hrest⟩ := Run.bind_eq_ok hrest
  obtain ⟨_, hc', hrs, hcall⟩ := Run.bind_eq_ok hrest
  have hcalls : h₁.fs = hc'.fs := call_fs_eq w hcall
  have hclb : h₁.fs.Cleared (resolve pb) := by
    have hk : Preserves (.keeps (·.Cleared (resolve pb))) (removeIfExists w ps) :=
      removeIfExists_keeps w ps fun _ hcl => hcl.removeAll _
    have := hk hb (removeIfExists_cleared w hrb)
    rw [hrs] at this
    exact hcalls ▸ this
  have hcls : h₁.fs.Cleared (resolve ps) := hcalls ▸ removeIfExists_cleared w hrs
  refine ⟨hclb, hcls, ?_⟩
  -- the state file went with its directory, or had no directory to lie in
  rw [stateFile, resolve_stateFile]
  by_cases he : h₁.fs.existsPath (resolve ps) = true
  · exact hcls he _ (List.prefix_append _ _)
  · exact Option.not_isSome_iff_eq_none.mp fun hs =>
      he ((deleteContainer_closed w id h hc).existsPath_parent hs)

/-- **`delete` is idempotent on the host.** For every world, every id and every host whose
filesystem is a tree: after `delete_container(id)` has returned `Ok`, a second
`delete_container(id)` leaves every path as the first left it and sends no signal, whatever
each of its calls returns. -/
theorem deleteContainer_idempotent (w : HostWorld) (id : String) (h : Host) (hc : h.fs.Closed)
    (hok : (deleteContainer w id h).1 = .ok ()) :
    let h₁ := (deleteContainer w id h).2
    let h₂ := (deleteContainer w id h₁).2
    h₂.fs = h₁.fs ∧ ∃ l, h₂.calls = h₁.calls ++ l ∧ ∀ c ∈ l, c.killPid? = none := by
  intro h₁ h₂
  let pb := bundleBase ++ "/" ++ id
  let ps := containerStateBase ++ "/" ++ id
  obtain ⟨hclb, hcls, hnone⟩ := deleteContainer_ok_cleared w hc hok
  -- the second changes no path: `kill` is a read, and both directories are cleared
  have hsame : Preserves (.sameIf fun fs => fs.Cleared (resolve pb) ∧ fs.Cleared (resolve ps))
      (deleteContainer w id) :=
    .bind (Preserves.sameIf_of_fsSame (killInit_fsSame w id)) fun _ =>
      .bind ((removeIfExists_sameIf w pb).mono fun _ _ hab hq => hab hq.1) fun _ =>
      .bind ((removeIfExists_sameIf w ps).mono fun _ _ hab hq => hab hq.2) fun _ =>
        Preserves.sameIf_of_fsSame (Preserves.call_fsSame w _)
  -- and, finding no state file, signals nothing
  have hrest : Preserves (.callsWithin fun c => c.killPid? = none)
      (removeIfExists w pb >>= fun _ => removeIfExists w ps >>= fun _ => call w (.cleanupImage id)) :=
    .bind (removeIfExists_within w pb rfl) fun _ =>
      .bind (removeIfExists_within w ps rfl) fun _ => Preserves.call_within w rfl
  have h₂eq : h₂ = ((removeIfExists w pb >>= fun _ => removeIfExists w ps >>= fun _ =>
      call w (.cleanupImage id)) h₁).2 := by
    show ((killInit w id >>= _) h₁).2 = _
    rw [Run.bind_of_ok (killInit_of_none w hnone)]
  exact ⟨hsame h₁ ⟨hclb, hcls⟩, h₂eq ▸ hrest h₁⟩

/-- `c1`'s state directory holds its state file, and its init process, PID 5, runs: the first
`delete` kills it and removes the directory, the second finds nothing to do. -/
theorem deleteContainer_idempotent_c1 :
    let w : HostWorld := ⟨fun _ _ => none, fun _ _ => "", fun _ => some 0⟩
    let h : Host := ⟨(Fs.mkdirAll HashMap.empty (resolve "/tmp/runcell/states/c1")).insert
      (resolve "/tmp/runcell/states/c1" ++ ["state.json"]) (.state ⟨5, 100, 0, "/rootfs"⟩),
      [(5, 100)], []⟩
    h.fs.Closed ∧ (deleteContainer w "c1" h).1 = .ok () ∧
      let h₁ := (deleteContainer w "c1" h).2
      let h₂ := (deleteContainer w "c1" h₁).2
      h₂.fs = h₁.fs ∧ ∃ l, h₂.calls = h₁.calls ++ l ∧ ∀ c ∈ l, c.killPid? = none :=
  have hc := (Fs.closed_empty.mkdirAll _).insert "state.json" (Fs.existsPath_mkdirAll _ _) _
  ⟨hc, rfl, deleteContainer_idempotent _ _ _ hc rfl⟩

/-- **A deleted container is gone.** For every world, every id and every host whose
filesystem is a tree: after `delete_container(id)` has returned `Ok`, `list_containers`
lists no row for the id, with or without `--all`, and `exec_in_container` of the id fails as
for a container that does not exist, without entering any namespace. -/
theorem deleteContainer_gone (w : HostWorld) (id : String) (h : Host) (hc : h.fs.Closed)
    (hok : (deleteContainer w id h).1 = .ok ()) (formatCreated : Nat → String) (showAll : Bool)
    (command : String) (args : List String) :
    let h₁ := (deleteContainer w id h).2
    (∀ rows, (listContainers w formatCreated showAll h₁).1 = .ok rows → ∀ r ∈ rows, r.id ≠ id) ∧
    execInContainer w id command args h₁ = (.err ("容器 \x27" ++ id ++ "\x27 不存在或未运行"), h₁) := by
  intro h₁
  obtain ⟨-, -, hnone⟩ := deleteContainer_ok_cleared w hc hok
  have hst : h₁.stateOf id = none := by simp [Host.stateOf, hnone]
  refine ⟨fun rows hrows r hr hid => ?_, ?_⟩
  · have := listContainers_rows w formatCreated showAll h₁ hrows r hr
    rw [hid, entryRow, hst] at this
    cases this
  · simp [execInContainer, Run.bind_apply, Run.context_apply, loadContainerState_apply, hst]

/-- `c1`, running as PID 5, deleted: `list --all` has no row for it, and `exec` fails. -/
theorem deleteContainer_gone_c1 :
    let w : HostWorld := ⟨fun _ _ => none, fun _ _ => "", fun _ => some 0⟩
    let h : Host := ⟨(Fs.mkdirAll HashMap.empty (resolve "/tmp/runcell/states/c1")).insert
      (resolve "/tmp/runcell/states/c1" ++ ["state.json"]) (.state ⟨5, 100, 0, "/rootfs"⟩),
      [(5, 100)], []⟩
    h.fs.Closed ∧ (deleteContainer w "c1" h).1 = .ok () ∧
      let h₁ := (deleteContainer w "c1" h).2
      (∀ rows, (listContainers w toString true h₁).1 = .ok rows → ∀ r ∈ rows, r.id ≠ "c1") ∧
      execInContainer w "c1" "sh" [] h₁ = (.err ("容器 \x27" ++ "c1" ++ "\x27 不存在或未运行"), h₁) :=
  have hc := (Fs.closed_empty.mkdirAll _).insert "state.json" (Fs.existsPath_mkdirAll _ _) _
  ⟨hc, rfl, deleteContainer_gone _ _ _ hc (by rfl) _ _ _ _⟩

-- ---------------------------------------------------------------------------
-- `create` and `start` write no state record
-- ---------------------------------------------------------------------------

/-- Every container's state record is as it was. -/
def HostRel.statesSame : HostRel where
  rel a b := ∀ id, b.stateOf id = a.stateOf id
  refl _ _ := rfl
  trans hab hbc id := (hbc id).trans (hab id)

/-- `create_dir_all` changes no state record: it only adds directories. -/
theorem Host.stateOf_mkdirAll (h : Host) (p : List String) (c : List HostCall) (id : String) :
    Host.stateOf ⟨h.fs.mkdirAll p, h.procs, c⟩ id = h.stateOf id := by
  unfold Host.stateOf
  cases hk : h.fs.get? (stateFile id) with
  | none => rcases Fs.get?_mkdirAll_cases h.fs p (stateFile id) with he | he <;> simp [he, hk]
  | some n => simp [Fs.get?_mkdirAll hk]

section Records

variable (w : HostWorld) (d : BuilderDefaults)

theorem Preserves.statesSame_of_fsSame {α : Type} {x : Run Host α} (hx : Preserves .fsSame x) :
    Preserves .statesSame x := fun h id => by
  unfold Host.stateOf
  rw [hx h]

theorem Preserves.createDirAll_statesSame (p : String) : Preserves .statesSame (createDirAll w p) :=
  .bind (Preserves.statesSame_of_fsSame (Preserves.call_fsSame w _)) fun _ h id =>
    Host.stateOf_mkdirAll h _ _ id

/-- A `config.json` is no container's state file. -/
theorem config_ne_stateFile (p id : String) : resolve (p ++ "/config.json") ≠ stateFile id := by
  rw [resolve_config, stateFile, resolve_stateFile]
  intro h
  simpa using congrArg List.getLast? h

theorem Preserves.saveConfig_statesSame (p : String) (spec : Spec) :
    Preserves .statesSame (saveSpec w (p ++ "/config.json") spec) :=
  .bind (Preserves.statesSame_of_fsSame (Preserves.call_fsSame w _)) fun _ h id => by
    show Host.stateOf ⟨h.fs.write (resolve (p ++ "/config.json")) (.config spec), h.procs, h.calls⟩ id =
      h.stateOf id
    simp only [Host.stateOf, Fs.write, HashMap.get?_insert, if_neg (config_ne_stateFile p id)]

theorem createContainer_statesSame (id rootfs : String) (bundle : Option String) :
    Preserves .statesSame (createContainer w d id rootfs bundle) :=
  .bind (.context _ (Preserves.createDirAll_statesSame w _)) fun _ =>
    .context _ (Preserves.saveConfig_statesSame w _ _)

end Records

/-- **`create` and `start` register nothing.** For every world, every host and every id:
after `create` and then `start` of the id, whatever each returned, every container's state
record is as it was, so an id that had none has no row in `list`, with or without
`--all`. -/
theorem create_start_unlisted (w : HostWorld) (d : BuilderDefaults)
    (formatCreated : Nat → String) (h : Host) (id rootfs : String) (bundle : Option String) :
    let h₁ := afterCommands w d formatCreated h [.create id rootfs bundle, .start id]
    (∀ id', h₁.stateOf id' = h.stateOf id') ∧
    (h.stateOf id = none → ∀ showAll rows, (listContainers w formatCreated showAll h₁).1 = .ok rows →
      ∀ r ∈ rows, r.id ≠ id) := by
  intro h₁
  have hs : ∀ id', h₁.stateOf id' = h.stateOf id' :=
    afterCommands_rel w d formatCreated .statesSame _ (fun c hc => by
      rcases List.mem_pair.mp hc with rfl | rfl
      · exact createContainer_statesSame w d id rootfs bundle
      · exact .pure _) h
  refine ⟨hs, fun hnone showAll rows hrows r hr hid => ?_⟩
  have := listContainers_rows w formatCreated showAll h₁ hrows r hr
  rw [hid, entryRow, hs, hnone] at this
  cases this

/-- From the empty host, `create` and `start` of `c1`: `list --all` shows no `c1`. -/
theorem create_start_unlisted_c1 :
    let w : HostWorld := ⟨fun _ _ => none, fun _ _ => "", fun _ => some 0⟩
    let d : BuilderDefaults := ⟨⟨"", none, none, none, none⟩, ⟨false, none⟩, ⟨"", none⟩⟩
    let h : Host := ⟨HashMap.empty, [], []⟩
    h.stateOf "c1" = none ∧
      let h₁ := afterCommands w d toString h [.create "c1" "/rootfs" none, .start "c1"]
      (∀ id', h₁.stateOf id' = h.stateOf id') ∧
      (h.stateOf "c1" = none → ∀ showAll rows, (listContainers w toString showAll h₁).1 = .ok rows →
        ∀ r ∈ rows, r.id ≠ "c1") :=
  ⟨rfl, create_start_unlisted _ _ _ _ _ _ _⟩

end Runcell
