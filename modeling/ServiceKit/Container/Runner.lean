import ServiceKit.Container.Diagnosis
import ServiceKit.Container.Output

namespace ServiceKit

/-- Runs a plugin in a container. Before the container is created its id is empty. -/
structure ContainerRunner where
  config : ContainerConfig
  hostSocketDir : String
  pluginEnv : List String
  id : String := ""
  stdout : Option Bytes := none
  stderr : Option Bytes := none
deriving Repr

/-- What a runner warns of although it goes on. -/
inductive RunnerWarning where
  | creation (id text : String)
  | cleanup (id : String) (e : ContainerError)
deriving DecidableEq, Repr

namespace ContainerRunner

/-- What a step asked the engine, the runner after it, how it went, and what it warned of. -/
structure Step where
  calls : List EngineCall
  runner : ContainerRunner
  result : Except ContainerError Unit
  warnings : List RunnerWarning

/-- A runner for a valid configuration, once the engine's socket is found. -/
def new (fs : FileSystem) (host : Option String) (config : ContainerConfig) (hostSocketDir : String)
    (pluginEnv : List String) : Except ContainerError ContainerRunner :=
  match config.validate with
  | .error e => .error e
  | .ok () =>
    match Engine.locate fs host with
    | .error f => .error ⟨.engine f, some "Failed to configure container engine client"⟩
    | .ok _ => .ok { config, hostSocketDir, pluginEnv }

def name (r : ContainerRunner) : String :=
  r.config.image

def spec (r : ContainerRunner) : ContainerSpec :=
  ContainerSpec.ofConfig r.config r.hostSocketDir r.pluginEnv

/-- A pinned image must have the pinned digest as its id. -/
def verifyImage (e : Engine) (config : ContainerConfig) :
    List EngineCall × Except ContainerError Unit :=
  match config.sha256 with
  | none => ([], .ok ())
  | some sha =>
    let image := config.imageRef
    let expected := ContainerConfig.digestLead ++ sha
    ([.inspect image], match e.inspect image with
      | .error f => .error ⟨.engine f, some ("Failed to inspect image " ++ image)⟩
      | .ok found =>
        if found = some expected then .ok ()
        else .error ⟨.imageMismatch expected found, some image⟩)

/-- Attaches to the created container and starts it. -/
def attachAndStart (e : Engine) (r : ContainerRunner) : Step :=
  match e.attach r.id with
  | .error f =>
    ⟨[.attach r.id], r, .error ⟨.engine f, some "Failed to attach to plugin container"⟩, []⟩
  | .ok frames =>
    let out := PluginOutput.drained frames
    let r := { r with stdout := some out.stdout, stderr := some out.stderr }
    ⟨[.attach r.id, .start r.id], r, (e.start r.id).mapError fun f =>
      ⟨.engine f, some "Failed to start plugin container"⟩, []⟩

/-- The statuses after which a container counts as removed: it is not there, or going. -/
def isRemoved (f : EngineFault) : Bool :=
  f.status? ∈ [some 304, some 404, some 409]

def remove (e : Engine) (id : String) : Except ContainerError Unit :=
  match e.remove id true with
  | .ok () => .ok ()
  | .error f =>
    if isRemoved f then .ok ()
    else .error ⟨.engine f, some ("Failed to remove plugin container " ++ id)⟩

/-- Removes a container that could not be started. A failure to do so is only warned of. -/
def cleanup (e : Engine) (id : String) : List RunnerWarning :=
  match remove e id with
  | .ok () => []
  | .error err => [.cleanup id err]

/-- Creates the container and starts the plugin in it. A container that cannot be attached to or
started is removed again. -/
def start (e : Engine) (r : ContainerRunner) : Step :=
  match verifyImage e r.config with
  | (calls, .error err) => ⟨calls, r, .error err, []⟩
  | (calls, .ok ()) =>
    match e.create r.spec with
    | .error f => ⟨calls ++ [.create], r,
        .error ⟨.engine f, some ("Failed to create container from " ++ r.config.imageRef)⟩, []⟩
    | .ok (id, texts) =>
      let warnings := texts.map (.creation id)
      let s := attachAndStart e { r with id }
      match s.result with
      | .ok () => ⟨calls ++ .create :: s.calls, s.runner, .ok (), warnings⟩
      | .error err =>
        ⟨calls ++ .create :: s.calls ++ [.remove id true], s.runner, .error err, warnings ++ cleanup e id⟩

/-- The outcome of what is reported about the end of a container. One that the engine does not know any
more counts as ended. -/
def outcome (id : String) : List ExitReport → Except ContainerError Unit
  | [] => .ok ()
  | .status code :: rest => if code = 0 then outcome id rest else .error ⟨.exited code, some id⟩
  | .failure code _ :: _ => .error ⟨.exited code, some id⟩
  | .fault f :: _ =>
    if f.status? = some 404 then .ok ()
    else .error ⟨.engine f, some ("Failed waiting for plugin container " ++ id)⟩

def wait (e : Engine) (r : ContainerRunner) : Step :=
  ⟨[.wait r.id], r, outcome r.id (e.wait r.id), []⟩

/-- The statuses after which a container counts as stopped. -/
def isStopped (f : EngineFault) : Bool :=
  f.status? ∈ [some 304, some 404]

/-- The grace in whole seconds, as a signed 64-bit number. -/
def graceSeconds (c : ContainerConfig) : Nat :=
  min c.stopTimeout.secs Integer.i64Max

/-- Stops and removes the container, if one was created. -/
def kill (e : Engine) (r : ContainerRunner) : Step :=
  if r.id = "" then ⟨[], r, .ok (), []⟩
  else
    let grace := graceSeconds r.config
    let stopped := match e.stop r.id grace with
      | .ok () => none
      | .error f => if isStopped f then none else some f
    match stopped with
    | some f => ⟨[.stop r.id grace], r,
        .error ⟨.engine f, some ("Failed to stop plugin container " ++ r.id)⟩, []⟩
    | none => ⟨[.stop r.id grace, .remove r.id true], r, remove e r.id, []⟩

/-- Hands out the reader of the standard output, once. -/
def takeStdout (r : ContainerRunner) : ContainerRunner × Option Bytes :=
  ({ r with stdout := none }, r.stdout)

def takeStderr (r : ContainerRunner) : ContainerRunner × Option Bytes :=
  ({ r with stderr := none }, r.stderr)

def toHost (r : ContainerRunner) (e : Container.Endpoint) : Except ContainerError Container.Endpoint :=
  e.toHost r.hostSocketDir

def toPlugin (r : ContainerRunner) (e : Container.Endpoint) :
    Except ContainerError Container.Endpoint :=
  e.toPlugin r.hostSocketDir

def diagnose (e : Engine) (dir : Diagnosis.SocketDir) (r : ContainerRunner) :
    List EngineCall × Diagnosis :=
  let (calls, facts) := Diagnosis.gather e r.config dir
  (calls, Diagnosis.evaluate r.config r.hostSocketDir facts)

end ContainerRunner

end ServiceKit
