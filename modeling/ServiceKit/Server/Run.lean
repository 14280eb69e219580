import ServiceKit.Server.Build

namespace ServiceKit

/-- Why a listener stops serving, or a run does not start. -/
inductive ServeError where
  | pidFile (path : String) (fault : OsFault)
  | address (raw : String)
  | bindFailed (fault : OsFault)
  | tlsFailed (fault : OsFault)
  | noCertificate (address : SocketAddress)
  | certificate (reason : String)
  | noSocketPath
  | socket (e : SettingError)
  | socketFailed (fault : OsFault)
  | panicked
deriving Repr

namespace ServeError

def chain : ServeError → List String
  | pidFile path fault => ["Failed to write pid file " ++ path, fault.message]
  | address raw => ["Invalid listener address " ++ raw, "invalid socket address syntax"]
  | bindFailed fault => ["HTTP listener failed", fault.message]
  | tlsFailed fault => ["HTTPS listener failed", fault.message]
  | noCertificate a => ["listener " ++ a.render ++ " has TLS enabled without a certificate"]
  | certificate reason => ["Failed to load TLS certificate", reason]
  | noSocketPath => ["unix listener without an address"]
  | socket e => e.chain
  | socketFailed fault => ["Unix socket listener failed", fault.message]
  | panicked => ["Listener task panicked"]

def message (e : ServeError) : String :=
  ": ".intercalate e.chain

end ServeError

namespace Server

/-- How the task of a listener ends. -/
inductive TaskEnd where
  | returned (result : Except ServeError Unit)
  | panicked
deriving Repr

namespace TaskEnd

def outcome : TaskEnd → Except ServeError Unit
  | returned result => result
  | panicked => .error .panicked

end TaskEnd

/-- What a run does that others take notice of. -/
inductive Deed where
  /-- Tells the listeners on ports to stop. -/
  | stopTcp
  /-- Tells the listeners on sockets to stop. -/
  | stopUnix
  | removePidFile (path : String)
deriving DecidableEq, Repr

/-- A run from the time on when its listeners have started. -/
structure RunState where
  pidFile : Option String
  /-- The tasks that go on, by the numbers of their listeners. -/
  running : List Nat
  /-- The ends of tasks that the run has not taken note of yet, the earliest first. -/
  ended : List TaskEnd := []
  /-- The first failure that it has taken note of. -/
  result : Except ServeError Unit := .ok ()
  /-- Whether the process was told to shut down. -/
  signalled : Bool := false
  deeds : List Deed := []
  /-- What the run has returned, if it has. -/
  returned : Option (Except ServeError Unit) := none
deriving Repr

namespace RunState

def start (pidFile : Option String) (listeners : Nat) : RunState :=
  { pidFile, running := List.range listeners }

/-- A task comes to its end. -/
def finish (task : Nat) (e : TaskEnd) (s : RunState) : RunState :=
  if task ∈ s.running then { s with running := s.running.erase task, ended := s.ended ++ [e] } else s

/-- The process is told to shut down; it looks out for that once. -/
def signal (s : RunState) : RunState :=
  if s.signalled then s
  else { s with signalled := true, deeds := s.deeds ++ [.stopTcp, .stopUnix] }

/-- Takes note of a task's end. The first failure is the run's result, and every failure tells the other
tasks to stop. -/
def join (s : RunState) : Except ServeError Unit → RunState
  | .ok () => s
  | .error e =>
    { s with
      deeds := s.deeds ++ [.stopTcp, .stopUnix]
      result := match s.result with
        | .ok () => .error e
        | .error first => .error first }

/-- The run's own turn: it takes note of the next end, and waits while there is none. When no task is left it
removes the file with the process number and returns. -/
def proceed (s : RunState) : RunState :=
  if s.returned.isSome then s
  else match s.ended with
    | e :: rest => { s with ended := rest }.join e.outcome
    | [] =>
      if s.running.isEmpty then
        { s with deeds := s.deeds ++ s.pidFile.toList.map .removePidFile, returned := some s.result }
      else s

/-- Tasks end one after the other, and each end is taken note of before the next one. -/
def settle (s : RunState) (ends : List (Nat × TaskEnd)) : RunState :=
  (ends.foldl (fun s e => (s.finish e.1 e.2).proceed) s).proceed

end RunState

/-- How a listener's task goes on once it has started: it fails at once, it fails after reading files, or
it serves until it is told to stop. -/
inductive Task where
  | failed (e : ServeError)
  | failedReading (e : ServeError)
  | serving (socketPath : Option String)
deriving Repr

namespace Task

/-- What a task returns with, once those that serve were told to stop. -/
def outcome : Task → Except ServeError Unit
  | failed e => .error e
  | failedReading e => .error e
  | serving _ => .ok ()

/-- How late a task ends: failures at once come before those that wait for files, and last end the tasks
that have to be told to stop. -/
def delay : Task → Nat
  | failed _ => 0
  | failedReading _ => 1
  | serving _ => 2

end Task

/-- The system that listeners start on. -/
structure Host where
  sockets : SocketWorld
  busyPorts : List Nat
deriving Repr

def defaultAddress : String := "127.0.0.1:8200"

def containsText (needle : List Char) : List Char → Bool
  | [] => needle.isEmpty
  | c :: r => needle.isPrefixOf (c :: r) || containsText needle r

/-- A certificate and a key must be readable, and the key file must hold a key. -/
def tlsFault? (fs : FileSystem) (cert key : String) : Option String :=
  match fs.readBytes cert, fs.readBytes key with
  | .error fault, _ => some fault.message
  | _, .error fault => some fault.message
  | .ok _, .ok content =>
    let text := content.map fun b => Char.ofNat b.toNat
    if containsText "PRIVATE KEY-----".toList text then none
    else some "The private key file contained no keys"

/-- Whether the host has an address: its own one, or the one that stands for all. -/
def isLocal : Ip → Bool
  | .v4 a => a.toNat / 0x1000000 == 127 || a.toNat == 0
  | .v6 a => a.toNat ≤ 1

def bindFault? (host : Host) (a : SocketAddress) : Option OsFault :=
  if !isLocal a.ip then some .addressNotAvailable
  else if a.ip.isV4 && host.busyPorts.contains a.port then some .addressInUse
  else none

def startTcp (host : Host) (l : Listener) : Task :=
  let raw := l.address.getD defaultAddress
  match SocketAddress.parse? raw with
  | none => .failed (.address raw)
  | some a =>
    let a := if l.randomPort then { a with port := 0 } else a
    if l.tls.disable then
      match bindFault? host a with
      | some fault => .failed (.bindFailed fault)
      | none => .serving none
    else match l.tls.certFile, l.tls.keyFile with
      | some cert, some key =>
        match tlsFault? host.sockets.files cert key with
        | some reason => .failedReading (.certificate reason)
        | none =>
          match bindFault? host a with
          | some fault => .failedReading (.tlsFailed fault)
          | none => .serving none
      | _, _ => .failed (.noCertificate a)

def startUnix (host : Host) (l : Listener) : Host × Task :=
  match l.address with
  | none => (host, .failed .noSocketPath)
  | some path =>
    match SocketOptions.ofSettings l.socket with
    | .error e => (host, .failed (.socket e))
    | .ok options =>
      let (sockets, bound) := host.sockets.bind path options
      match bound with
      | .error e => ({ host with sockets }, .failed (.socket e))
      | .ok _ => ({ host with sockets }, .serving (some path))

def start (host : Host) (l : Listener) : Host × Task :=
  match l.kind with
  | .tcp => (host, startTcp host l)
  | .unix => startUnix host l

def startAll (host : Host) : List Listener → Host × List Task
  | [] => (host, [])
  | l :: rest =>
    let (host, task) := start host l
    let (host, tasks) := startAll host rest
    (host, task :: tasks)

/-- The ends of tasks in the order in which they come. -/
def ends (tasks : List Task) : List (Nat × TaskEnd) :=
  (tasks.zipIdx.mergeSort fun a b => a.1.delay ≤ b.1.delay).map fun task =>
    (task.2, .returned task.1.outcome)

/-- A listener that was told to stop removes its socket. -/
def removeSockets (w : SocketWorld) (tasks : List Task) : SocketWorld :=
  tasks.foldl (fun w task => match task with
    | .serving (some path) => (w.unlink path).1
    | _ => w) w

/-- Removes the file with the process number as far as a run has asked for that. -/
def removePidFile (w : SocketWorld) (deeds : List Deed) : SocketWorld :=
  deeds.foldl (fun w deed => match deed with
    | .removePidFile path => (w.unlink path).1
    | _ => w) w

def writeFile (fs : FileSystem) (path : String) (content : Bytes) : Except OsFault FileSystem := do
  let loc ← fs.locate path
  match fs.get? loc with
  | some .dir => throw .isDirectory
  | some (.socket ..) => throw .noSuchDevice
  | some (.file _) => return fs.put loc (.file content)
  | none =>
    match fs.get? loc.dropLast with
    | some .dir => return fs.put loc (.file content)
    | some _ => throw .notDirectory
    | none => throw .notFound

/-- Writes the file with the process number, if one is configured. -/
def writePidFile (fs : FileSystem) (pid : Nat) (config : SharedConfig) : Except ServeError FileSystem :=
  match config.pidFile with
  | none => .ok fs
  | some path => (writeFile fs path (Bytes.ofString (toString pid))).mapError (.pidFile path)

/-- Serves all listeners until a failure has ended them all. The file with the process number stands as
long as the run lasts. -/
def run (host : Host) (pid : Nat) (config : SharedConfig) : Host × Except ServeError Unit :=
  match writePidFile host.sockets.files pid config with
  | .error e => (host, .error e)
  | .ok files =>
    let (host, tasks) := startAll { host with sockets := { host.sockets with files } } config.listeners
    let state := (RunState.start config.pidFile tasks.length).settle (ends tasks)
    let sockets := removePidFile (removeSockets host.sockets tasks) state.deeds
    ({ host with sockets }, state.result)

end Server

end ServiceKit
