import Runcell.Cli.Cleanup
import Runcell.Cli.Table

/-!
# Runcell — the CLI over a session of commands

`handle_container_command` of `cli/src/container_cmd.rs` dispatches a `container`
subcommand to its function. The variants are taken as the handler takes them apart
(`ContainerCommand`); `start` only logs, and `list` prints its rows to standard output,
which is not part of the host, so only the outcome of the printing reaches the command.

A session is the CLI invoked once per command, each invocation on the host the previous one
left, whatever it returned (`afterCommands`). Each command may change only the paths of its
scope (`ContainerCommand.scope`): `create` and `run` the bundle directory with its missing
ancestors and the `config.json` they write, `delete` its two directories; the other
commands change no path, and only `delete` removes one.

Main result:

* `session_frame` — over every session, from every host and in every world, a path outside
  the scopes of the session's commands holds at the end what it held at the start, and a
  path that was there and is gone lies in the directories of one of the session's
  `delete` commands.
-/

namespace Runcell

/-- `slog::Level`. -/
inductive LogLevel where
  | critical
  | error
  | warning
  | info
  | debug
  | trace
deriving Repr, DecidableEq

/-- The level `setup_logger(verbose)` of `cli/src/main.rs` filters at, given the value of
`RUNCELL_LOG` if it is set: `-v` first, then the variable, then `warn`. -/
def setupLoggerLevel (verbose : Bool) (runcellLog : Option String) : LogLevel :=
  if verbose then .debug
  else
    match runcellLog with
    | some "trace" => .trace
    | some "debug" => .debug
    | some "info" => .info
    | some "warn" | some "warning" => .warning
    | some "error" => .error
    | some "critical" => .critical
    | _ => .warning

/-- The variable is read as written: `INFO` is not `info`. -/
example : setupLoggerLevel false (some "INFO") = .warning ∧ setupLoggerLevel false (some "info") = .info :=
  ⟨rfl, rfl⟩

/-- `ContainerCommands`, with the fields `handle_container_command` reads, as its patterns
name them: `Run` and `Exec` with a `command` and its `args` (the enum in `main.rs` gives them
one `command: Vec<String>` instead). -/
inductive ContainerCommand where
  | create (id rootfs : String) (bundle : Option String)
  | run (id image command : String) (args : List String) (tty interactive detach : Bool)
  | start (id : String)
  | delete (id : String)
  | list (format : String) (all : Bool)
  | exec (id command : String) (args : List String) (tty interactive : Bool)

/-- `start_container(id)`: it logs that the command is not implemented yet. -/
def startContainer (_id : String) : Run Host Unit := pure ()

/-- The `println!`s of the text branch of `list_containers`, on standard output: the command
sees their outcome. -/
def printTableOut (rows : List ContainerRow) : Run Host Unit := fun h => ((printTable rows []).1, h)

section Dispatch

variable (w : HostWorld) (d : BuilderDefaults) (formatCreated : Nat → String)

/-- `handle_container_command(cmd)`. -/
def handleContainerCommand : ContainerCommand → Run Host Unit
  | .create id rootfs bundle => createContainer w d id rootfs bundle
  | .run id image command args tty _ _ => runContainer w d id image command args tty
  | .start id => startContainer id
  | .delete id => deleteContainer w id
  | .list format all => do
    let rows ← listContainers w formatCreated all
    if format == "json" then pure () else printTableOut rows
  | .exec id command args _ _ => execInContainer w id command args

/-- The host after the commands `cmds`, each run on the host the previous one left. -/
def afterCommands (h : Host) (cmds : List ContainerCommand) : Host :=
  cmds.foldl (fun h c => (handleContainerCommand w d formatCreated c h).2) h

end Dispatch

/-- The paths a command may change. -/
def ContainerCommand.scope : ContainerCommand → List String → Prop
  | .create id _ bundle, k =>
    k <+: resolve (bundle.getD (bundleBase ++ "/" ++ id)) ∨
      k = resolve (bundle.getD (bundleBase ++ "/" ++ id) ++ "/config.json")
  | .run id .., k =>
    k <+: resolve (bundleBase ++ "/" ++ id) ∨ k = resolve (bundleBase ++ "/" ++ id ++ "/config.json")
  | .delete id, k => deleteScope id k
  | _, _ => False

/-- The PID a call signals, when it is a `kill`. -/
def HostCall.killPid? : HostCall → Option Int
  | .kill pid _ => some pid
  | _ => none

-- ---------------------------------------------------------------------------
-- One command
-- ---------------------------------------------------------------------------

section Commands

variable (w : HostWorld) (d : BuilderDefaults) (formatCreated : Nat → String)

theorem createContainer_outside (id rootfs : String) (bundle : Option String) :
    Preserves (.outside (ContainerCommand.create id rootfs bundle).scope)
      (createContainer w d id rootfs bundle) :=
  .bind (.context _ ((Preserves.createDirAll_outside w _).mono fun _ _ hab k hk =>
      hab k fun hp => hk (.inl hp))) fun _ =>
    .context _ ((Preserves.saveSpec_outside w _ _).mono fun _ _ hab k hk => hab k fun hp => hk (.inr hp))

theorem runContainer_outside (id image command : String) (args : List String)
    (tty interactive detach : Bool) :
    Preserves (.outside (ContainerCommand.run id image command args tty interactive detach).scope)
      (runContainer w d id image command args tty) :=
  .bind (pullAndExtract_fsSame w image id).outside_of_fsSame fun _ =>
    .bind ((Preserves.createDirAll_outside w _).mono fun _ _ hab k hk => hab k fun hp => hk (.inl hp))
      fun _ => .bind ((Preserves.saveSpec_outside w _ _).mono fun _ _ hab k hk =>
        hab k fun hp => hk (.inr hp)) fun _ => (createAndStart_fsSame w id _).outside_of_fsSame

theorem listEntry_preserves (R : HostRel) (showAll : Bool) (rows : List ContainerRow)
    (id : String) : Preserves R (listEntry formatCreated showAll rows id) := by
  refine .bind (.attempt (.of_readOnly (ReadOnly.loadContainerState _ _))) fun r => ?_
  rcases r with _ | state
  · exact .pure _
  · exact .bind (.of_readOnly (ReadOnly.isProcessRunning _)) fun _ => .ite (.pure _) (.pure _)

theorem listContainers_fsSame (showAll : Bool) :
    Preserves .fsSame (listContainers w formatCreated showAll) :=
  .bind (.of_readOnly (ReadOnly.pathExists _)) fun _ =>
    .ite (.pure _) (.bind (.pure _) fun _ => .bind (Preserves.readDir_fsSame w _) fun _ =>
      .foldlM _ _ (listEntry_preserves formatCreated _ showAll) _)

theorem execInContainer_fsSame (id command : String) (args : List String) :
    Preserves .fsSame (execInContainer w id command args) :=
  .bind (.context _ (.of_readOnly (ReadOnly.loadContainerState _ _))) fun _ =>
    .bind (.of_readOnly (ReadOnly.isProcessRunning _)) fun _ =>
      .ite (.fail _) (.bind (.context _ (.bind (Preserves.call_fsSame w _) fun _ =>
        .bind (.of_readOnly fun _ => rfl) fun _ => .pure _)) fun _ => .ite (.fail _) (.pure _))

/-- Every command changes only the paths of its scope. -/
theorem handleContainerCommand_outside (c : ContainerCommand) :
    Preserves (.outside c.scope) (handleContainerCommand w d formatCreated c) := by
  cases c with
  | create id rootfs bundle => exact createContainer_outside w d id rootfs bundle
  | run id image command args tty interactive detach =>
    exact runContainer_outside w d id image command args tty interactive detach
  | start => exact .pure _
  | delete id => exact deleteContainer_outside w id
  | list format all =>
    exact (Preserves.bind (listContainers_fsSame w formatCreated all) fun _ =>
      .ite (.pure _) (.of_readOnly fun _ => rfl)).outside_of_fsSame
  | exec id command args => exact (execInContainer_fsSame w id command args).outside_of_fsSame

/-- Every command but `delete` loses no path. -/
theorem handleContainerCommand_grows {c : ContainerCommand} (hc : ∀ id, c ≠ .delete id) :
    Preserves .grows (handleContainerCommand w d formatCreated c) := by
  cases c with
  | create id rootfs bundle =>
    exact .bind (.context _ (Preserves.createDirAll_grows w _)) fun _ =>
      .context _ (Preserves.saveSpec_grows w _ _)
  | run => exact runContainer_grows w d _ _ _ _ _
  | start => exact .pure _
  | delete id => exact absurd rfl (hc id)
  | list format all =>
    exact (Preserves.bind (listContainers_fsSame w formatCreated all) fun _ =>
      .ite (.pure _) (.of_readOnly fun _ => rfl)).grows_of_fsSame
  | exec id command args => exact (execInContainer_fsSame w id command args).grows_of_fsSame

/-- Every command but `delete` sends no signal. -/
theorem handleContainerCommand_noKill {c : ContainerCommand} (hc : ∀ id, c ≠ .delete id) :
    Preserves (.callsWithin fun c => c.killPid? = none) (handleContainerCommand w d formatCreated c) := by
  cases c with
  | create =>
    exact .bind (.context _ (Preserves.createDirAll_within w rfl)) fun _ =>
      .context _ (Preserves.saveSpec_within w rfl)
  | run =>
    exact .bind (Preserves.pullAndExtract_within w rfl) fun _ =>
      .bind (Preserves.createDirAll_within w rfl) fun _ =>
      .bind (Preserves.saveSpec_within w rfl) fun _ =>
      .bind (Preserves.call_within w rfl) fun _ => .bind (.okOr _ _) fun _ =>
      .bind (.context _ (Preserves.call_within w rfl)) fun _ =>
      .context _ (Preserves.call_within w rfl)
  | start => exact .pure _
  | delete id => exact absurd rfl (hc id)
  | list =>
    exact .bind (.bind (.of_readOnly (ReadOnly.pathExists _)) fun _ => .ite (.pure _)
      (.bind (.pure _) fun _ => .bind (Preserves.readDir_within w rfl) fun _ =>
        .foldlM _ _ (listEntry_preserves formatCreated _ _) _)) fun _ =>
      .ite (.pure _) (.of_readOnly fun _ => rfl)
  | exec =>
    exact .bind (.context _ (.of_readOnly (ReadOnly.loadContainerState _ _))) fun _ =>
      .bind (.of_readOnly (ReadOnly.isProcessRunning _)) fun _ =>
      .ite (.fail _) (.bind (.context _ (Preserves.nsenter_within w rfl)) fun _ =>
        .ite (.fail _) (.pure _))

theorem removeIfExists_within {P : HostCall → Prop} (p : String) (hp : P (.removeDirAll p)) :
    Preserves (.callsWithin P) (removeIfExists w p) :=
  .bind (.of_readOnly (ReadOnly.pathExists p)) fun _ => .ite (Preserves.removeDirAll_within w hp) (.pure _)

/-- `delete` signals only a positive PID: the guard `init_process_pid > 0`. -/
theorem deleteContainer_killPos (id : String) :
    Preserves (.callsWithin fun c => ∀ pid, c.killPid? = some pid → 0 < pid)
      (deleteContainer w id) := by
  refine .bind ?_ fun _ => .bind ?_ fun _ => .bind ?_ fun _ => Preserves.call_within w (by simp [HostCall.killPid?])
  · refine .bind (.attempt (.of_readOnly (ReadOnly.loadContainerState _ _))) fun r => ?_
    rcases r with _ | state
    · exact .pure _
    · exact .ite_of (fun hpos => .bind (.of_readOnly (ReadOnly.isProcessRunning _)) fun _ =>
        .ite (.bind (.attempt (Preserves.call_within w fun pid hp => by
          cases hp
          exact hpos)) fun _ => .pure _) (.pure _)) fun _ => .pure _
  all_goals exact removeIfExists_within w _ (by simp [HostCall.killPid?])

end Commands

-- ---------------------------------------------------------------------------
-- A session
-- ---------------------------------------------------------------------------

/-- **The frame of a session.** For every world, every host and every sequence of container
commands, each run on the host the previous one left whatever it returned: a path outside
the scope of every command of the session holds at the end what it held at the start; and a
path that was there at the start and is gone at the end lies in `BUNDLE_BASE/id` or
`CONTAINER_STATE_BASE/id` for a `delete id` of the session. -/
theorem session_frame (w : HostWorld) (d : BuilderDefaults) (formatCreated : Nat → String)
    (h : Host) (cmds : List ContainerCommand) :
    let h' := afterCommands w d formatCreated h cmds
    (∀ k, (∀ c ∈ cmds, ¬c.scope k) → h'.fs.get? k = h.fs.get? k) ∧
    (∀ k, (h.fs.get? k).isSome → (h'.fs.get? k).isNone →
      ∃ id, .delete id ∈ cmds ∧ deleteScope id k) := by
  induction cmds generalizing h with
  | nil => exact ⟨fun _ _ => rfl, fun k hs hn => by simp_all [afterCommands]⟩
  | cons c cs ih =>
    obtain ⟨ih₁, ih₂⟩ := ih (handleContainerCommand w d formatCreated c h).2
    refine ⟨fun k hk => ?_, fun k hs hn => ?_⟩
    · rw [afterCommands, List.foldl_cons, ← afterCommands, ih₁ k fun c' hc' => hk c' (.tail _ hc')]
      exact handleContainerCommand_outside w d formatCreated c h k (hk c (.head _))
    · by_cases hs₁ : ((handleContainerCommand w d formatCreated c h).2.fs.get? k).isSome
      · obtain ⟨id, hid, hsc⟩ := ih₂ k hs₁ hn
        exact ⟨id, .tail _ hid, hsc⟩
      · -- the path went in the first command, which removes paths only as a `delete`
        by_cases hc : ∃ id, c = .delete id
        · obtain ⟨id, rfl⟩ := hc
          refine ⟨id, .head _, by_contra fun hsc => hs₁ ?_⟩
          show ((deleteContainer w id h).2.fs.get? k).isSome = true
          rwa [deleteContainer_outside w id h k hsc]
        · exact absurd (handleContainerCommand_grows w d formatCreated
            (fun id he => hc ⟨id, he⟩) h k hs) hs₁

/-- A relation every command of a session keeps holds between the host before and after it. -/
theorem afterCommands_rel (w : HostWorld) (d : BuilderDefaults) (formatCreated : Nat → String)
    (R : HostRel) (cmds : List ContainerCommand)
    (hR : ∀ c ∈ cmds, Preserves R (handleContainerCommand w d formatCreated c)) (h : Host) :
    R.rel h (afterCommands w d formatCreated h cmds) := by
  induction cmds generalizing h with
  | nil => exact R.refl h
  | cons c cs ih =>
    exact R.trans (hR c (.head _) h) (ih (fun c' hc' => hR c' (.tail _ hc')) _)

/-- **No signal to a process group.** For every world, every host and every sequence of
container commands, each run on the host the previous one left: every `kill` of the session
signals a positive PID, never `0` (the caller's process group) or a negative one (`-1`,
every process); and a session without a `delete` sends no signal at all. -/
theorem session_kills (w : HostWorld) (d : BuilderDefaults) (formatCreated : Nat → String)
    (h : Host) (cmds : List ContainerCommand) :
    ∃ l, (afterCommands w d formatCreated h cmds).calls = h.calls ++ l ∧
      (∀ c ∈ l, ∀ pid, c.killPid? = some pid → 0 < pid) ∧
      ((∀ id, .delete id ∉ cmds) → ∀ c ∈ l, c.killPid? = none) := by
  have hpos := afterCommands_rel w d formatCreated
    (.callsWithin fun c => ∀ pid, c.killPid? = some pid → 0 < pid) cmds
    (fun c _ => by
      by_cases hc : ∃ id, c = .delete id
      · obtain ⟨id, rfl⟩ := hc
        exact deleteContainer_killPos w id
      · exact (handleContainerCommand_noKill w d formatCreated fun id he => hc ⟨id, he⟩).mono
          fun _ _ ⟨l, hl, hn⟩ => ⟨l, hl, fun c hc pid hp => by simp [hn c hc] at hp⟩) h
  obtain ⟨l, hl, hk⟩ := hpos
  refine ⟨l, hl, hk, fun hnd c hc => ?_⟩
  obtain ⟨l', hl', hn⟩ := afterCommands_rel w d formatCreated _ cmds
    (fun c hc => handleContainerCommand_noKill w d formatCreated fun id he => hnd id (he ▸ hc)) h
  rw [hl] at hl'
  exact hn c (List.append_cancel_left hl' ▸ hc)

end Runcell
