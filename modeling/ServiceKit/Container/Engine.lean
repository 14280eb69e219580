import ServiceKit.Container.Spec
import ServiceKit.System.Files

namespace ServiceKit

/-- A request to the engine. -/
inductive EngineCall where
  | version
  | info
  | inspect (image : String)
  | create
  | attach (id : String)
  | start (id : String)
  | wait (id : String)
  | stop (id : String) (seconds : Nat)
  | remove (id : String) (force : Bool)
deriving DecidableEq, Repr

/-- A piece of a container's output. -/
inductive OutputFrame where
  | stdout (content : Bytes)
  | stderr (content : Bytes)
  | console (content : Bytes)
  | stdin (content : Bytes)
deriving DecidableEq, Repr

/-- A part of what the engine reports about the end of a container. A client tells a failure from the
mere code of an exit. -/
inductive ExitReport where
  | status (code : Int)
  | failure (code : Int) (message : String)
  | fault (f : EngineFault)
deriving DecidableEq, Repr

structure EngineInfo where
  securityOptions : List String
  runtimes : List String
deriving DecidableEq, Repr

/-- How an engine answers at one time. -/
structure Engine where
  version : Except EngineFault (Option String)
  info : Except EngineFault EngineInfo
  /-- The id of an image. -/
  inspect : String → Except EngineFault (Option String)
  /-- The id of the new container, and warnings. -/
  create : ContainerSpec → Except EngineFault (String × List String)
  attach : String → Except EngineFault (List (Except EngineFault OutputFrame))
  start : String → Except EngineFault Unit
  /-- What is reported about the end of a container until the report ends. -/
  wait : String → List ExitReport
  stop : String → Nat → Except EngineFault Unit
  /-- Removes a container, by force or only if it is stopped. -/
  remove : String → Bool → Except EngineFault Unit

namespace Engine

/-- The engine with which no connection comes about. -/
def unreachable : Engine where
  version := .error .unreachable
  info := .error .unreachable
  inspect _ := .error .unreachable
  create _ := .error .unreachable
  attach _ := .error .unreachable
  start _ := .error .unreachable
  wait _ := [.fault .unreachable]
  stop _ _ := .error .unreachable
  remove _ _ := .error .unreachable

/-- The socket of the engine: the one that the host setting names, or the usual one. -/
def socketPath (host : Option String) : String :=
  match host.bind (Text.stripLead? "unix://") with
  | some path => path
  | none => "/var/run/docker.sock"

/-- A client can be set up if something is at the path of the socket. -/
def locate (fs : FileSystem) (host : Option String) : Except EngineFault String :=
  match fs.node (socketPath host) with
  | .ok _ => .ok (socketPath host)
  | .error _ => .error (.socketNotFound (socketPath host))

end Engine

end ServiceKit
