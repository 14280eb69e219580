import ServiceKit.Config.Load
import ServiceKit.Http.UnixSocket
import ServiceKit.Server.Router

namespace ServiceKit

namespace ValueError

/-- The error's text, and the text of what caused it. -/
def chain (e : ValueError) : List String :=
  match e.cause with
  | .unreadable fault => [e.message, fault.message]
  | .address => [e.message, "invalid IP address syntax"]
  | _ => [e.message]

end ValueError

namespace ConfigError

def chain (e : ConfigError) : List String :=
  match e.cause with
  | .unreadable fault => [e.message, fault.message]
  | .value v => e.message :: v.chain
  | _ => [e.message]

end ConfigError

namespace SettingError

def chain (e : SettingError) : List String :=
  match e.fault with
  | .system fault => [e.message, fault.message]
  | _ => [e.message]

end SettingError

inductive BuildError where
  | load (path : String) (e : ConfigError)
  | noListeners
  | tlsFilesRequired (index : Nat)
  | tlsFileMissing (index : Nat) (file : String)
  | setting (index : Nat) (e : SettingError)

namespace BuildError

def place (index : Nat) : String :=
  "listeners." ++ toString index

/-- The texts from the outermost circumstance to the first cause. What is wrong with the form of a
document is left out. -/
def chain : BuildError → List String
  | load path e =>
    let lead := "Failed to load configuration from " ++ path
    match e.cause with
    | .syntaxError => [lead, ""]
    | _ => lead :: e.chain
  | noListeners => ["no listener blocks are configured"]
  | tlsFilesRequired i =>
    [place i, "tls_cert_file and tls_key_file are required unless tls_disable is set"]
  | tlsFileMissing i file => [place i, "TLS file not found: " ++ file]
  | setting i e => place i :: e.chain

def message (e : BuildError) : String :=
  ": ".intercalate e.chain

end BuildError

/-- A configuration that was checked, with what answers the requests of each listener. -/
structure Server where
  config : SharedConfig
  listeners : List (Listener × Handler)

namespace Server

/-- A directory stands for all configuration files in it. -/
def loadConfig (fs : FileSystem) (path : String) : Except (Stop BuildError) SharedConfig :=
  let loaded := match fs.node path with
    | .ok .dir => SharedConfig.loadDir fs path
    | _ => SharedConfig.loadFile fs path
  loaded.result.mapError (·.map (.load path))

def exists_ (fs : FileSystem) (path : String) : Bool :=
  match fs.node path with
  | .ok _ => true
  | .error _ => false

def checkTls (fs : FileSystem) (index : Nat) (l : Listener) : Except BuildError Unit :=
  if !l.isTcp || l.tls.disable then .ok ()
  else match l.tls.certFile, l.tls.keyFile with
    | some cert, some key =>
      if !exists_ fs cert then .error (.tlsFileMissing index cert)
      else if !exists_ fs key then .error (.tlsFileMissing index key)
      else .ok ()
    | _, _ => .error (.tlsFilesRequired index)

def buildListener (fs : FileSystem) (state : Router.State) (index : Nat) (l : Listener) :
    Except BuildError (Listener × Handler) :=
  match checkTls fs index l with
  | .error e => .error e
  | .ok () =>
    match Router.ofListener state l with
    | .error e => .error (.setting index e)
    | .ok handler => .ok (l, handler)

def build (fs : FileSystem) (now : Int) (config : SharedConfig) : Except BuildError Server :=
  if config.listeners.isEmpty then .error .noListeners
  else
    let state := Router.State.ofConfig config now
    (config.listeners.zipIdx.mapM fun l => buildListener fs state l.2 l.1).map fun ls => ⟨config, ls⟩

/-- What answers requests to the listener of an index. -/
def handler? (s : Server) (index : Nat) : Option Handler :=
  s.listeners[index]?.map Prod.snd

end Server

end ServiceKit
