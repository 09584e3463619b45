import Runcell.Cli.Paths

/-!
# Runcell — how the CLI decides that a container runs

`list_containers`, `delete_container` and `exec_in_container` read the container's state
file and pass its `init_process_pid` to `is_process_running`, which takes the PID and
nothing else. The recorded start time of the init process is never read: when the PID has
been reused by another process, the container is reported `Running`, `SIGKILL` goes to the
new process, and `nsenter` enters its namespaces.

Main results:

* `listContainers_rows` — the rows of `list_containers` are the entries of the state
  directory whose state loads, each with the status the probe gives its PID.
* `liveness_by_pid_only` — for a container whose state file holds a record with PID `p`,
  the status `list` reports, the `SIGKILL` of `delete` and the `nsenter` of `exec` are each
  decided by whether some live process has PID `p`, whatever its start time.
-/

namespace Runcell

/-- The path of a container's state file. -/
def stateFile (id : String) : List String :=
  resolve (containerStateBase ++ "/" ++ id ++ "/state.json")

/-- The state record a host's state file holds for `id`, if any. -/
def Host.stateOf (h : Host) (id : String) : Option PersistedState :=
  match h.fs.get? (stateFile id) with
  | some (.state st) => some st
  | _ => none

/-- Some live process has the PID. -/
def Host.alive (h : Host) (pid : Int) : Bool := h.procs.any (·.1 == pid)

theorem Host.alive_iff (h : Host) (pid : Int) : h.alive pid = true ↔ ∃ t, (pid, t) ∈ h.procs := by
  simp [Host.alive]

@[simp] theorem isProcessRunning_apply (pid : Int) (h : Host) :
    isProcessRunning pid h = (.ok (h.alive pid), h) := rfl

theorem loadContainerState_apply (id : String) (h : Host) :
    loadContainerState containerStateBase id h =
      (match h.stateOf id with
        | some st => .ok st
        | none => .err "No such file or directory (os error 2)", h) := by
  simp only [loadContainerState, Host.stateOf, stateFile]
  split <;> simp_all

-- ---------------------------------------------------------------------------
-- `list_containers`
-- ---------------------------------------------------------------------------

/-- The row `list_containers` prints for an entry of the state directory. -/
def entryRow (formatCreated : Nat → String) (showAll : Bool) (h : Host) (id : String) :
    Option ContainerRow :=
  match h.stateOf id with
  | some st =>
    if showAll || h.alive st.initProcessPid then
      some ⟨id, st.initProcessPid, if h.alive st.initProcessPid then "Running" else "Stopped",
        formatCreated st.created, st.rootfs⟩
    else none
  | none => none

/-- The rows depend on the filesystem and the processes, not on the calls made before. -/
@[simp] theorem entryRow_calls (formatCreated : Nat → String) (showAll : Bool) (h : Host)
    (c : List HostCall) :
    entryRow formatCreated showAll { h with calls := c } = entryRow formatCreated showAll h := rfl

theorem listEntry_apply (formatCreated : Nat → String) (showAll : Bool) (rows : List ContainerRow)
    (id : String) (h : Host) :
    listEntry formatCreated showAll rows id h =
      (.ok (rows ++ (entryRow formatCreated showAll h id).toList), h) := by
  simp only [listEntry, entryRow, bind, Run.bind, Run.attempt, loadContainerState_apply]
  cases h.stateOf id with
  | none => simp
  | some st =>
    cases showAll <;> cases halive : h.alive st.initProcessPid <;>
      simp [isProcessRunning_apply, halive, Run.bind]

theorem foldlM_listEntry (formatCreated : Nat → String) (showAll : Bool) (names : List String) :
    ∀ rows h, (names.foldlM (listEntry formatCreated showAll) rows) h =
      (.ok (rows ++ names.filterMap (entryRow formatCreated showAll h)), h) := by
  induction names with
  | nil => intro rows h; simp
  | cons n names ih =>
    intro rows h
    rw [List.foldlM_cons, Run.bind_of_ok (listEntry_apply _ _ _ _ _), ih]
    cases hr : entryRow formatCreated showAll h n <;> simp [List.filterMap_cons, hr]

/-- `list_containers` step by step: no state directory gives no rows; otherwise the
directory is read, and the rows are its entries' rows. -/
theorem listContainers_apply (w : HostWorld) (formatCreated : Nat → String) (showAll : Bool)
    (h : Host) :
    listContainers w formatCreated showAll h =
      if h.fs.existsPath (resolve containerStateBase) then
        match w.fails h.calls (.readDir containerStateBase) with
        | some e => (.err e, { h with calls := h.calls ++ [.readDir containerStateBase] })
        | none => (.ok ((h.fs.children (resolve containerStateBase)).filterMap
            (entryRow formatCreated showAll h)),
            { h with calls := h.calls ++ [.readDir containerStateBase] })
      else (.ok [], h) := by
  by_cases he : h.fs.existsPath (resolve containerStateBase) = true
  · cases hf : w.fails h.calls (.readDir containerStateBase) <;>
      simp [listContainers, readDir, pathExists, he, hf, bind, Run.bind, call, foldlM_listEntry]
  · simp [listContainers, pathExists, he, bind, Run.bind]

/-- **`list_containers` rows.** Every row `list_containers` returns is the row of its entry:
the entry's state loads, and the row's status is what the probe gives its PID. -/
theorem listContainers_rows (w : HostWorld) (formatCreated : Nat → String) (showAll : Bool)
    (h : Host) {rows : List ContainerRow}
    (hok : (listContainers w formatCreated showAll h).1 = .ok rows) :
    ∀ r ∈ rows, entryRow formatCreated showAll h r.id = some r := by
  rw [listContainers_apply] at hok
  split at hok
  · split at hok
    · cases hok
    · intro r hr
      obtain ⟨n, -, hn⟩ := List.mem_filterMap.mp ((Outcome.ok.inj hok) ▸ hr)
      simp only [entryRow] at hn ⊢
      split at hn
      · split at hn
        · cases hn
          simp_all
        · cases hn
      · cases hn
  · cases hok
    simp

-- ---------------------------------------------------------------------------
-- `delete_container` and `exec_in_container`
-- ---------------------------------------------------------------------------

section Calls

variable (w : HostWorld)

/-- The signal step 1 of `delete_container` sends: `SIGKILL` to the recorded PID, when the
state loads, the PID is positive and the probe finds it alive. -/
def killSent (h : Host) (id : String) : List HostCall :=
  match h.stateOf id with
  | some st =>
    if 0 < st.initProcessPid ∧ h.alive st.initProcessPid then [.kill st.initProcessPid .sigkill]
    else []
  | none => []

/-- Step 1 of `delete_container` always succeeds, and makes the calls of `killSent`. -/
theorem killInit_apply (id : String) (h : Host) :
    killInit w id h = (.ok (), { h with calls := h.calls ++ killSent h id }) := by
  simp only [killInit, killSent, bind, Run.bind, Run.attempt, loadContainerState_apply]
  cases h.stateOf id with
  | none => simp
  | some st =>
    by_cases hp : 0 < st.initProcessPid
    · cases ha : h.alive st.initProcessPid
      · simp [hp, ha, Run.bind]
      · obtain ⟨r, hr⟩ := attempt_call w (.kill st.initProcessPid .sigkill) h
        simp [hp, ha, kill, hr, Run.bind]
    · simp [hp]

/-- Steps 2 to 4 of `delete_container` send no signal. -/
theorem deleteTail_calls (id : String) :
    Preserves (.callsWithin fun c => ∀ q s, c ≠ .kill q s)
      (removeIfExists w (bundleBase ++ "/" ++ id) >>= fun _ =>
        removeIfExists w (containerStateBase ++ "/" ++ id) >>= fun _ => call w (.cleanupImage id)) := by
  have hrm : ∀ p, Preserves (.callsWithin fun c => ∀ q s, c ≠ .kill q s) (removeIfExists w p) :=
    fun p => .bind (.of_readOnly (ReadOnly.pathExists p)) fun _ =>
      .ite (Preserves.removeDirAll_within w (by simp)) (.pure _)
  exact .bind (hrm _) fun _ => .bind (hrm _) fun _ => Preserves.call_within w (by simp)

/-- The calls `exec_in_container` makes: one `nsenter` into the recorded PID, when the probe
finds it alive. -/
theorem execInContainer_calls (id command : String) (args : List String) {h : Host}
    {st : PersistedState} (hst : h.stateOf id = some st) :
    (execInContainer w id command args h).2.calls = h.calls ++
      if h.alive st.initProcessPid then [.nsenter (nsenterArgs st.initProcessPid command args)]
      else [] := by
  have hload : Run.context ("容器 \x27" ++ id ++ "\x27 不存在或未运行")
      (loadContainerState containerStateBase id) h = (.ok st, h) := by
    simp [Run.context, loadContainerState_apply, hst]
  simp only [execInContainer]
  rw [Run.bind_of_ok hload, Run.bind_of_ok (isProcessRunning_apply _ _)]
  cases h.alive st.initProcessPid
  · simp
  · simp only [Bool.not_true, Bool.false_eq_true, if_false, if_true]
    rw [snd_bind_of_readOnly (fun _ _ => by split <;> rfl), snd_context, snd_nsenter]

end Calls

-- ---------------------------------------------------------------------------
-- Liveness by PID
-- ---------------------------------------------------------------------------

/-- **Liveness is the PID's alone.** For a container whose state file holds a record with
init PID `p`, on every host and world: every row `list_containers` gives the container has
PID `p` and status `Running` exactly when some live process has PID `p`;
`delete_container` sends `SIGKILL`, only to `p`, exactly when `p > 0` and some live process
has PID `p`; and `exec_in_container` runs `nsenter --target=p`, and no other `nsenter`,
exactly when some live process has PID `p`. The recorded start time plays no part. -/
theorem liveness_by_pid_only (w : HostWorld) (formatCreated : Nat → String) (showAll : Bool)
    (id command : String) (args : List String) {h : Host} {st : PersistedState}
    (hst : h.stateOf id = some st) :
    let p := st.initProcessPid
    (∀ rows, (listContainers w formatCreated showAll h).1 = .ok rows → ∀ r ∈ rows, r.id = id →
      r.pid = p ∧ (r.status = "Running" ↔ ∃ t, (p, t) ∈ h.procs)) ∧
    (∃ l, (deleteContainer w id h).2.calls = h.calls ++ l ∧
      ∀ q s, HostCall.kill q s ∈ l ↔ q = p ∧ s = .sigkill ∧ 0 < p ∧ ∃ t, (p, t) ∈ h.procs) ∧
    (∃ l, (execInContainer w id command args h).2.calls = h.calls ++ l ∧
      ∀ a, HostCall.nsenter a ∈ l ↔ a = nsenterArgs p command args ∧ ∃ t, (p, t) ∈ h.procs) := by
  dsimp only
  refine ⟨fun rows hok r hr hid => ?_, ?_, ?_⟩
  · have hrow := listContainers_rows w formatCreated showAll h hok r hr
    rw [hid] at hrow
    simp only [entryRow, hst] at hrow
    split at hrow
    · cases hrow
      refine ⟨rfl, ?_⟩
      rw [← Host.alive_iff]
      cases h.alive st.initProcessPid <;> simp
    · cases hrow
  · obtain ⟨l, hl, hP⟩ := deleteTail_calls w id { h with calls := h.calls ++ killSent h id }
    refine ⟨killSent h id ++ l, ?_, fun q s => ?_⟩
    · simp only [deleteContainer]
      rw [Run.bind_of_ok (killInit_apply w id h), hl, List.append_assoc]
    · have hnot : HostCall.kill q s ∉ l := fun hm => hP _ hm q s rfl
      rw [List.mem_append, or_iff_left hnot, ← Host.alive_iff]
      simp only [killSent, hst]
      split <;> rename_i hc <;> simp [hc]
  · refine ⟨_, execInContainer_calls w id command args hst, fun a => ?_⟩
    rw [← Host.alive_iff]
    cases h.alive st.initProcessPid <;> simp

/-- The record of `c1` holds PID 5 and the start time 100, and PID 5 now belongs to a process
started at 200: `list --all` shows one row, for `c1`. -/
theorem liveness_by_pid_only_reused :
    let w : HostWorld := ⟨fun _ _ => none, fun _ _ => "", fun _ => some 0⟩
    let fs : Fs := ((HashMap.empty.insert ["tmp", "runcell", "states"] .dir).insert
      ["tmp", "runcell", "states", "c1"] .dir).insert (stateFile "c1") (.state ⟨5, 100, 0, "/rootfs"⟩)
    let h : Host := ⟨fs, [(5, 200)], []⟩
    h.stateOf "c1" = some ⟨5, 100, 0, "/rootfs"⟩ ∧
    (listContainers w toString true h).1 = .ok [⟨"c1", 5, "Running", "0", "/rootfs"⟩] ∧
    let p := 5
    (∀ rows, (listContainers w toString true h).1 = .ok rows → ∀ r ∈ rows, r.id = "c1" →
      r.pid = p ∧ (r.status = "Running" ↔ ∃ t, (p, t) ∈ h.procs)) ∧
    (∃ l, (deleteContainer w "c1" h).2.calls = h.calls ++ l ∧
      ∀ q s, HostCall.kill q s ∈ l ↔ q = p ∧ s = .sigkill ∧ 0 < p ∧ ∃ t, (p, t) ∈ h.procs) ∧
    (∃ l, (execInContainer w "c1" "sh" [] h).2.calls = h.calls ++ l ∧
      ∀ a, HostCall.nsenter a ∈ l ↔ a = nsenterArgs p "sh" [] ∧ ∃ t, (p, t) ∈ h.procs) :=
  ⟨rfl, rfl, @liveness_by_pid_only _ toString true "c1" "sh" [] _ ⟨5, 100, 0, "/rootfs"⟩ rfl⟩

/-- PID reuse: the record of `c1` holds PID 5 with start time 100, and PID 5 now belongs to a
process started at 200. `list` reports `c1` running, `delete` kills PID 5 and `exec` enters
PID 5's namespaces. -/
theorem liveness_pid_reused :
    let w : HostWorld := ⟨fun _ _ => none, fun _ _ => "", fun _ => some 0⟩
    let fs : Fs := ((HashMap.empty.insert ["tmp", "runcell", "states"] .dir).insert
      ["tmp", "runcell", "states", "c1"] .dir).insert (stateFile "c1") (.state ⟨5, 100, 0, "/rootfs"⟩)
    let h : Host := ⟨fs, [(5, 200)], []⟩
    h.stateOf "c1" = some ⟨5, 100, 0, "/rootfs"⟩ ∧ (200 : Nat) ≠ 100 ∧
    (listContainers w toString false h).1 = .ok [⟨"c1", 5, "Running", "0", "/rootfs"⟩] ∧
    (deleteContainer w "c1" h).2.calls =
      [.kill 5 .sigkill, .removeDirAll "/tmp/runcell/states/c1", .cleanupImage "c1"] ∧
    (execInContainer w "c1" "sh" [] h) =
      (.ok (), { h with calls := [.nsenter ["--target=5", "--mount", "--uts", "--ipc", "--net",
        "--pid", "--", "sh"]] }) :=
  ⟨rfl, by decide, rfl, rfl, rfl⟩

end Runcell
