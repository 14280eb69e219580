import ServiceKit.Container.Engine

namespace ServiceKit

/-- What is known about an engine and the host before a plugin is started. -/
structure EngineFacts where
  unreachable : Option String := none
  version : Option String := none
  rootless : Bool := false
  runtimes : List String := []
  imageId : Option String := none
  socketDirMode : Option Nat := none
  socketDirError : Option String := none
deriving DecidableEq, Repr

inductive Severity where
  | ok
  | warn
  | fail
deriving DecidableEq, Repr

namespace Severity

def rank : Severity → Nat
  | ok => 0
  | warn => 1
  | fail => 2

def worse (s t : Severity) : Severity :=
  if s.rank < t.rank then t else s

def tag : Severity → String
  | ok => "[ok]  "
  | warn => "[warn]"
  | fail => "[fail]"

end Severity

structure Finding where
  severity : Severity
  subject : String
  detail : String
deriving DecidableEq, Repr

structure Diagnosis where
  image : String
  findings : List Finding
deriving DecidableEq, Repr

namespace Diagnosis

/-- The worst of the findings. -/
def severity (d : Diagnosis) : Severity :=
  d.findings.foldl (fun s f => s.worse f.severity) .ok

def line (f : Finding) : String :=
  "  " ++ f.severity.tag ++ " " ++ f.subject ++ ": " ++ f.detail ++ "\n"

def text (d : Diagnosis) : String :=
  "Plugin container diagnostics for " ++ d.image ++ "\n" ++ String.join (d.findings.map line)

/-! ### Findings -/

def engineFinding (facts : EngineFacts) : Finding :=
  ⟨.ok, "engine", "reachable, version " ++ facts.version.getD "unknown"⟩

def rootlessFinding (engine config : Bool) : Finding :=
  match engine, config with
  | true, false => ⟨.warn, "rootless", "engine is rootless but the plugin is configured for a rootful " ++
      "engine; enable rootless so socket access uses DAC_OVERRIDE"⟩
  | false, true => ⟨.warn, "rootless", "plugin is configured for a rootless engine but the engine runs " ++
      "as root; use group_add instead"⟩
  | true, true => ⟨.ok, "rootless", "rootless engine detected and configured"⟩
  | false, false => ⟨.ok, "rootless", "rootful engine"⟩

def runtimeFinding (facts : EngineFacts) (runtime : String) : Finding :=
  if facts.runtimes.contains runtime then ⟨.ok, "runtime", runtime ++ " is available"⟩
  else ⟨.fail, "runtime", runtime ++ " is not registered with the engine (available: " ++
    ", ".intercalate facts.runtimes ++ ")"⟩

def imageFinding (config : ContainerConfig) (id : Option String) : Finding :=
  match id, config.sha256 with
  | none, _ => ⟨.fail, "image", config.imageRef ++
      " is not present locally; pull it before starting the plugin"⟩
  | some id, none => ⟨.ok, "image", "present as " ++ id⟩
  | some id, some sha =>
    if Text.stripLead? ContainerConfig.digestLead id = some sha then
      ⟨.ok, "image", "present as " ++ id⟩
    else ⟨.fail, "image", "local image id " ++ id ++ " does not match the pinned sha256:" ++ sha ++
      "; re-pull or update the pin"⟩

def octal (n : Nat) : String :=
  String.ofList (Nat.toDigits 8 n)

/-- Whether a mode grants reading and writing to the group. -/
def groupMayWrite (mode : Nat) : Bool :=
  mode / 8 % 8 &&& 6 == 6

/-- Whether a mode grants reading and writing to all others. -/
def othersMayWrite (mode : Nat) : Bool :=
  mode % 8 &&& 6 == 6

def socketDirFinding (config : ContainerConfig) (dir : String) (facts : EngineFacts) : Finding :=
  match facts.socketDirError, facts.socketDirMode with
  | some text, _ => ⟨.fail, "socket dir", dir ++ " is not usable: " ++ text⟩
  | none, none => ⟨.ok, "socket dir", dir ++ " exists"⟩
  | none, some mode =>
    let lead := dir ++ " has mode " ++ octal mode
    if config.groupAdd.isSome && !groupMayWrite mode then
      ⟨.warn, "socket dir", lead ++ "; the plugin group needs read and write access"⟩
    else if !config.rootless && config.groupAdd.isNone && !othersMayWrite mode then
      ⟨.warn, "socket dir", lead ++
        "; grant access with group_add or the plugin cannot create its socket"⟩
    else ⟨.ok, "socket dir", lead⟩

/-- Judges what is known. Nothing else is judged when the engine cannot be reached. -/
def evaluate (config : ContainerConfig) (dir : String) (facts : EngineFacts) : Diagnosis :=
  match facts.unreachable with
  | some text => ⟨config.imageRef, [⟨.fail, "engine", "cannot reach the container engine (" ++ text ++
      "); check DOCKER_HOST and that the daemon is running"⟩]⟩
  | none =>
    ⟨config.imageRef,
      [engineFinding facts, rootlessFinding facts.rootless config.rootless] ++
      (config.runtime.map (runtimeFinding facts)).toList ++
      [imageFinding config facts.imageId, socketDirFinding config dir facts]⟩

/-! ### Facts -/

/-- What looking at the socket directory gives: its mode where it is a directory. -/
inductive SocketDir where
  | dir (mode : Nat)
  | other
  | fault (f : OsFault)
deriving DecidableEq, Repr

/-- Whether one text occurs in another. -/
def occurs (part : List Char) : List Char → Bool
  | [] => part.isEmpty
  | c :: cs => part.isPrefixOf (c :: cs) || occurs part cs

/-- Asks an engine, as long as it answers the first question. -/
def gather (e : Engine) (config : ContainerConfig) (dir : SocketDir) :
    List EngineCall × EngineFacts :=
  match e.version with
  | .error fault => ([.version], { unreachable := some fault.message })
  | .ok version =>
    let facts : EngineFacts := match e.info with
      | .error _ => { version }
      | .ok info => {
          version
          rootless := info.securityOptions.any fun o => occurs "name=rootless".toList o.toList
          runtimes := info.runtimes.mergeSort fun a b => decide (a ≤ b) }
    let facts := match e.inspect config.imageRef with
      | .ok id => { facts with imageId := id }
      | .error _ => facts
    let facts := match dir with
      | .dir mode => { facts with socketDirMode := some mode }
      | .other => { facts with socketDirError := some "not a directory" }
      | .fault f => { facts with socketDirError := some f.message }
    ([.version, .info, .inspect config.imageRef], facts)

end Diagnosis

end ServiceKit
