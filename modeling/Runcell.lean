import Runcell.Core.Run
import Runcell.Core.HashMap
import Runcell.Core.Text
import Runcell.Serde.Json
import Runcell.Oci.Spec
import Runcell.Celler.Namespace
import Runcell.Celler.State
import Runcell.Celler.WriteMappings
import Runcell.Celler.Effects
import Runcell.Celler.JoinNamespaces
import Runcell.Protocol.Pipes
import Runcell.Protocol.Handshake
import Runcell.Storage.Handler
import Runcell.Storage.Mount
import Runcell.Storage.Devices
import Runcell.Storage.MountTable
import Runcell.Cli.Host
import Runcell.Cli.ContainerCmd
import Runcell.Cli.Frame
import Runcell.Cli.Paths
import Runcell.Cli.Cleanup
import Runcell.Cli.Liveness
import Runcell.Cli.Table
import Runcell.Storage.Unmount
import Runcell.Cli.Session
import Runcell.Celler.StateMembers
import Runcell.Cli.Lifecycle
import Runcell.Storage.Device
import Runcell.Celler.ChildLog
