import ServiceKit.Text.Quoted

namespace ServiceKit

/-- What kept the engine from doing what it was asked. -/
inductive EngineFault where
  | socketNotFound (path : String)
  | unreachable
  | refused (status : Nat) (message : String)
  | malformed (text : String)
deriving DecidableEq, Repr

namespace EngineFault

def message : EngineFault → String
  | socketNotFound path => "Socket not found: " ++ path
  | unreachable => "Error in the hyper legacy client: client error (Connect)"
  | refused status text => "Docker responded with status code " ++ toString status ++ ": " ++ text
  | malformed text => "Failed to deserialize JSON: " ++ text

def status? : EngineFault → Option Nat
  | refused status _ => some status
  | _ => none

end EngineFault

inductive ContainerFault where
  | imageRequired
  | badDigest (digest : String)
  | groupOnRootless
  | engine (fault : EngineFault)
  | imageMismatch (expected : String) (found : Option String)
  | exited (code : Int)
  | network (name : String)
  | noSocketPath (address : String)
  | outside (address dir : String)
deriving DecidableEq, Repr

structure ContainerError where
  fault : ContainerFault
  context : Option String := none
deriving DecidableEq, Repr

namespace ContainerError

def detail : ContainerFault → String
  | .imageRequired => "image is required"
  | .badDigest digest => "sha256 must be 64 hex characters, got " ++ Text.quoted digest
  | .groupOnRootless => "group_add cannot be used with a rootless engine"
  | .engine fault => fault.message
  | .imageMismatch expected found => "expected " ++ expected ++ ", found " ++ found.getD "no id"
  | .exited code => toString code
  | .network name => "only the unix network is supported, got " ++ Text.quoted name
  | .noSocketPath address => address ++ " is not a socket path"
  | .outside address dir => address ++ " is outside the shared socket directory " ++ dir

def title : ContainerFault → String
  | .imageRequired => "Invalid container configuration"
  | .badDigest _ => "Invalid container configuration"
  | .groupOnRootless => "Invalid container configuration"
  | .engine _ => "Container engine error"
  | .imageMismatch .. => "Image mismatch"
  | .exited code => "Plugin container exited with code " ++ toString code
  | .network _ => "Address translation failed"
  | .noSocketPath _ => "Address translation failed"
  | .outside .. => "Address translation failed"

def message (e : ContainerError) : String :=
  let place := match e.context with
    | none => ""
    | some c => " (" ++ c ++ ")"
  match e.fault with
  | .exited _ => title e.fault ++ place
  | fault => title fault ++ place ++ ": " ++ detail fault

end ContainerError

end ServiceKit
