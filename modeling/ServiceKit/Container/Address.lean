import ServiceKit.Container.Error
import ServiceKit.System.Path

namespace ServiceKit.Container

/-- Where a plugin creates its sockets. -/
def pluginSocketDir : String := "/tmp/go-plugin-container"

/-- The variable that tells a plugin where to create its sockets. -/
def socketDirVariable : String := "PLUGIN_UNIX_SOCKET_DIR"

/-- A network and an address on it. -/
structure Endpoint where
  network : String
  address : String
deriving DecidableEq, Repr

/-- Maps a socket right in one directory to the socket of the same name in another. -/
def Endpoint.translate (fromDir toDir : String) (e : Endpoint) : Except ContainerError Endpoint :=
  if e.network ≠ "unix" then .error ⟨.network e.network, none⟩
  else match Path.parent? e.address, Path.fileName? e.address with
    | some dir, some file =>
      if dir = Path.components fromDir then .ok ⟨"unix", Path.join toDir file⟩
      else .error ⟨.outside e.address fromDir, none⟩
    | _, _ => .error ⟨.noSocketPath e.address, none⟩

/-- The host's view of a socket that the plugin named. -/
def Endpoint.toHost (hostDir : String) (e : Endpoint) : Except ContainerError Endpoint :=
  e.translate pluginSocketDir hostDir

/-- The plugin's view of a socket that the host named. -/
def Endpoint.toPlugin (hostDir : String) (e : Endpoint) : Except ContainerError Endpoint :=
  e.translate hostDir pluginSocketDir

end ServiceKit.Container
