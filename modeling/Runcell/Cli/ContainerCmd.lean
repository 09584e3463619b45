import Runcell.Cli.Host

/-!
# Runcell — the `container` commands of the CLI

`create`, `run`, `delete`, `list` and `exec` of `cli/src/container_cmd.rs`, statement by
statement over the host of `Runcell.Cli.Host`. Logging is left out; every call whose outcome
the host decides goes through the world, so each command is modelled on every path it can
take, its error paths included.

`create_minimal_spec` builds its spec with the `oci_spec` builders, which start from the
library's defaults (`BuilderDefaults`, a parameter): the version, the process arguments and
terminal flag, and the root path are what the CLI sets.
-/

namespace Runcell

/-- `BUNDLE_BASE`. -/
def bundleBase : String := "/tmp/runcell/bundles"

/-- `CONTAINER_STATE_BASE`. -/
def containerStateBase : String := "/tmp/runcell/states"

/-- The defaults the `oci_spec` builders start from. -/
structure BuilderDefaults where
  spec : Spec
  process : OciProcess
  root : Root

/-- A row of `list_containers`: id, PID, status, creation time, rootfs. -/
structure ContainerRow where
  id : String
  pid : Int
  status : String
  created : String
  rootfs : String

/-- `create_minimal_spec(rootfs, args, terminal)`. -/
def createMinimalSpec (d : BuilderDefaults) (rootfs : String) (args : List String)
    (terminal : Bool) : Spec :=
  { d.spec with
    version := "1.0.0"
    process := some { d.process with args := some args, terminal := terminal }
    root := some { d.root with path := rootfs } }

section Commands

variable (w : HostWorld) (d : BuilderDefaults)

/-- `create_container(id, rootfs, bundle)`. -/
def createContainer (id rootfs : String) (bundle : Option String) : Run Host Unit := do
  let bundlePath := bundle.getD (bundleBase ++ "/" ++ id)
  Run.context ("无法创建 bundle 目录: " ++ bundlePath) (createDirAll w bundlePath)
  let spec := createMinimalSpec d rootfs ["/bin/sh"] false
  let configPath := bundlePath ++ "/config.json"
  Run.context ("无法保存 config.json 到 " ++ configPath) (saveSpec w configPath spec)

/-- Steps 5 and 6 of `run_container`: `LinuxContainer::new`, then the init process, created
and started on the container. -/
def createAndStart (id : String) (spec : Spec) : Run Host Unit := do
  call w (.linuxContainerNew id containerStateBase)
  let _ ← Run.okOr spec.process "OCI spec 中缺少 process 配置"
  Run.context "创建 Process 失败" (call w (.processNew id))
  Run.context "启动容器失败" (call w (.runContainer id))

/-- `run_container(id, image, command, args, tty, ..)`. -/
def runContainer (id image command : String) (args : List String) (tty : Bool) :
    Run Host Unit := do
  -- 1. pull the image
  let rootfs ← pullAndExtract w image id
  -- 2. the bundle directory
  let bundlePath := bundleBase ++ "/" ++ id
  createDirAll w bundlePath
  -- 3-4. the spec, saved as config.json
  let spec := createMinimalSpec d rootfs (command :: args) tty
  let configPath := bundlePath ++ "/config.json"
  saveSpec w configPath spec
  -- 5-6. the container and its init process
  createAndStart w id spec

/-- Step 1 of `delete_container`: kill the init process if its state can be read, its PID
is positive and it still runs; neither a missing state nor a failed `kill` stops the command. -/
def killInit (id : String) : Run Host Unit := do
  match ← Run.attempt (loadContainerState containerStateBase id) with
  | .ok state =>
    if state.initProcessPid > 0 then
      if ← isProcessRunning state.initProcessPid then
        let _ ← Run.attempt (kill w state.initProcessPid .sigkill)
  | .error _ => pure ()

/-- Steps 2 and 3 of `delete_container`, the same block for the bundle and the state
directory: `if Path::new(p).exists() { fs::remove_dir_all(p)?; }`. -/
def removeIfExists (p : String) : Run Host Unit := do
  if ← pathExists p then
    removeDirAll w p

/-- `delete_container(id)`. -/
def deleteContainer (id : String) : Run Host Unit := do
  killInit w id
  removeIfExists w (bundleBase ++ "/" ++ id)
  removeIfExists w (containerStateBase ++ "/" ++ id)
  call w (.cleanupImage id)

/-- The body of the loop of `list_containers` over the entries of the state directory. -/
def listEntry (formatCreated : Nat → String) (showAll : Bool) (rows : List ContainerRow)
    (containerId : String) : Run Host (List ContainerRow) := do
  match ← Run.attempt (loadContainerState containerStateBase containerId) with
  | .ok state =>
    let actualStatus := if ← isProcessRunning state.initProcessPid then "Running" else "Stopped"
    if !showAll && actualStatus == "Stopped" then
      pure rows
    else
      pure (rows ++ [⟨containerId, state.initProcessPid, actualStatus,
        formatCreated state.created, state.rootfs⟩])
  | .error _ => pure rows

/-- `list_containers(format, all)`: the rows it prints. -/
def listContainers (formatCreated : Nat → String) (showAll : Bool) :
    Run Host (List ContainerRow) := do
  if !(← pathExists containerStateBase) then
    return []
  let names ← readDir w containerStateBase
  names.foldlM (listEntry formatCreated showAll) []

/-- The arguments `exec_in_container` gives `nsenter`. -/
def nsenterArgs (pid : Int) (command : String) (args : List String) : List String :=
  ["--target=" ++ toString pid, "--mount", "--uts", "--ipc", "--net", "--pid", "--", command] ++
    args

/-- `{:?}` of `ExitStatus::code()`. -/
def debugCode : Option Int → String
  | some c => "Some(" ++ toString c ++ ")"
  | none => "None"

/-- `exec_in_container(id, command, args, ..)`. -/
def execInContainer (id command : String) (args : List String) : Run Host Unit := do
  let state ← Run.context ("容器 \x27" ++ id ++ "\x27 不存在或未运行")
    (loadContainerState containerStateBase id)
  if !(← isProcessRunning state.initProcessPid) then
    Run.fail ("容器 \x27" ++ id ++ "\x27 未运行 (PID " ++ toString state.initProcessPid ++ " 不存在)")
  else
    let code ← Run.context "执行 nsenter 失败" (nsenter w (nsenterArgs state.initProcessPid command args))
    if code ≠ some 0 then
      Run.fail ("命令执行失败，退出码: " ++ debugCode code)

end Commands

end Runcell
