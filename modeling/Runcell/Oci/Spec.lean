import Runcell.Serde.Json

/-!
# Runcell — the OCI runtime configuration

The parts of `oci_spec::runtime::Spec` that the runtime's code reads: the namespace list,
the id mappings and the resources of the `linux` section, the prestart hooks, the process
arguments and the root path. Every field is `Option` where `oci_spec` has an `Option`, since
the code's behaviour depends on the difference between an absent and an empty value.

A `PathBuf` is kept as the `String` of its bytes: `p.as_os_str().is_empty()` is
`p.isEmpty` and `p.display().to_string()` is `p` itself.

`typeToName` is the `TYPETONAME` table of `container/types.rs`: the file name under
`/proc/<pid>/ns/` of each namespace kind it lists. `oci_spec` also knows the `time`
namespace, which the table leaves out.
-/

namespace Runcell

/-- `oci_spec::runtime::LinuxNamespaceType`. -/
inductive LinuxNamespaceType where
  | mount
  | cgroup
  | uts
  | ipc
  | user
  | pid
  | network
  | time
deriving Repr, DecidableEq

/-- `impl Display for LinuxNamespaceType`: the text that `ns.typ().to_string()` compares
against `"pid"` and `"user"`. -/
def LinuxNamespaceType.toString : LinuxNamespaceType → String
  | .mount => "mnt"
  | .cgroup => "cgroup"
  | .uts => "uts"
  | .ipc => "ipc"
  | .user => "user"
  | .pid => "pid"
  | .network => "net"
  | .time => "time"

@[simp] theorem LinuxNamespaceType.toString_eq_pid (t : LinuxNamespaceType) :
    t.toString = "pid" ↔ t = .pid := by
  cases t <;> decide

@[simp] theorem LinuxNamespaceType.toString_eq_user (t : LinuxNamespaceType) :
    t.toString = "user" ↔ t = .user := by
  cases t <;> decide

/-- `TYPETONAME`: kind ↦ name of its file under `/proc/<pid>/ns/`. -/
def typeToName : LinuxNamespaceType → Option String
  | .ipc => some "ipc"
  | .user => some "user"
  | .pid => some "pid"
  | .network => some "net"
  | .mount => some "mnt"
  | .cgroup => some "cgroup"
  | .uts => some "uts"
  | .time => none

/-- `LinuxNamespace`: a kind and the path of a namespace file to join, if any. -/
structure LinuxNamespace where
  typ : LinuxNamespaceType
  path : Option String
deriving Repr, DecidableEq

/-- `LinuxIdMapping`: `size` ids from `container_id` on map to ids from `host_id` on. -/
structure LinuxIdMapping where
  containerId : UInt32
  hostId : UInt32
  size : UInt32
deriving Repr, DecidableEq

/-- The `linux` section. -/
structure Linux where
  uidMappings : Option (List LinuxIdMapping)
  gidMappings : Option (List LinuxIdMapping)
  resources : Option Json
  namespaces : Option (List LinuxNamespace)
deriving Repr

/-- An OCI hook: the program, its arguments and environment, and its timeout. -/
structure Hook where
  path : String
  args : Option (List String)
  env : Option (List String)
  timeout : Option Int
deriving Repr, DecidableEq

/-- The `hooks` section; only the prestart hooks are run by this runtime. -/
structure Hooks where
  prestart : Option (List Hook)
deriving Repr, DecidableEq

/-- The `process` section, with the two fields the CLI sets. -/
structure OciProcess where
  terminal : Bool
  args : Option (List String)
deriving Repr, DecidableEq

/-- The `root` section. -/
structure Root where
  path : String
  readonly : Option Bool
deriving Repr, DecidableEq

/-- `oci_spec::runtime::Spec`. -/
structure Spec where
  version : String
  process : Option OciProcess
  root : Option Root
  hooks : Option Hooks
  linux : Option Linux
deriving Repr

end Runcell
