import ServiceKit.Config.Listener
import ServiceKit.Http.Error
import ServiceKit.System.Files

namespace ServiceKit

/-- Permissions and ownership for a socket that was just bound. -/
structure SocketOptions where
  mode : Option Nat := none
  uid : Option Nat := none
  gid : Option Nat := none
deriving DecidableEq, Repr

namespace SocketOptions

def readMode (raw : String) : Except SettingError Nat :=
  (Integer.readNat 8 Integer.u32Max (Text.trim raw).toList).mapError
    fun _ => ⟨.octalMode raw, "socket_mode"⟩

def readId (key raw : String) : Except SettingError Nat :=
  (Integer.readU32 (Text.trim raw)).mapError fun _ => ⟨.numericId raw, key⟩

def readWith (f : String → Except SettingError Nat) : Option String → Except SettingError (Option Nat)
  | none => .ok none
  | some raw => (f raw).map some

def ofSettings (s : SocketSettings) : Except SettingError SocketOptions := do
  let mode ← readWith readMode s.mode
  let uid ← readWith (readId "socket_user") s.user
  let gid ← readWith (readId "socket_group") s.group
  return { mode, uid, gid }

end SocketOptions

/-- What the text of a path is as the address of a socket: a place among the files, a name outside of
them, or nothing, so that the system makes up a name. -/
inductive SocketName where
  | file
  | outside (name : Bytes)
  | unnamed
deriving DecidableEq, Repr

namespace SocketName

/-- The number of bytes of an address, with the mark at the end of a path or in front of a name. -/
def limit : Nat := 108

def read (path : String) : Except OsFault SocketName :=
  match path.toList with
  | [] => .ok .unnamed
  | '\x00' :: rest =>
    let name := Bytes.ofString (String.ofList rest)
    if limit ≤ name.length then .error .socketNameTooLong else .ok (.outside name)
  | chars =>
    if chars.contains '\x00' then .error .nulInSocketPath
    else if limit ≤ (Bytes.ofString path).length then .error .socketPathTooLong
    else .ok .file

end SocketName

/-- The requests to the system that binding a socket takes. -/
inductive SocketRequest where
  | look
  | remove
  | make
  | listen
  | setMode
  | setOwner
deriving DecidableEq, Repr

/-- The requests that the system refuses, whatever the files are like. -/
abbrev Refusals := SocketRequest → Option OsFault

/-- The owner after a change; the greatest 32-bit number changes nothing. -/
def Node.owned (old : Nat) : Option Nat → Nat
  | none => old
  | some n => if n = Integer.u32Max then old else n

/-- A change of owner takes the bits away that lend its rights to others: the one for the user, and
the one for the group of a file that the group may execute. -/
def Node.clearLent (mode : Nat) : Nat :=
  let mode := if mode / 2048 % 2 = 1 then mode - 2048 else mode
  if mode / 1024 % 2 = 1 ∧ mode / 8 % 2 = 1 then mode - 1024 else mode

def Node.withMode (mode : Nat) : Node → Node
  | .socket _ uid gid endpoint => .socket (mode % 4096) uid gid endpoint
  | node => node

def Node.withOwner (uid gid : Option Nat) : Node → Node
  | .socket mode oldUid oldGid endpoint =>
    .socket (clearLent mode) (owned oldUid uid) (owned oldGid gid) endpoint
  | node => node

/-- The files, the directory where paths start that do not start at the root, and the endpoints that
listeners hold open. Endpoints are numbered as they are made; some have a name outside of the files. -/
structure SocketWorld where
  files : FileSystem
  base : Option Location := none
  umask : Nat := 18
  listening : List Nat := []
  outside : List (Bytes × Nat) := []
  next : Nat := 0
deriving Repr

namespace SocketWorld

/-- The location that a path names, whether or not something is there. -/
def locate (w : SocketWorld) (path : String) : Except OsFault Location :=
  match w.base with
  | none => w.files.locate path
  | some dir =>
    if path = "" ∨ '\x00' ∈ path.toList ∨ path.toList.head? = some '/' then w.files.locate path
    else w.files.walk dir (Text.split '/' path)

def node (w : SocketWorld) (path : String) : Except OsFault Node :=
  match w.locate path with
  | .error fault => .error fault
  | .ok loc =>
    match w.files.get? loc with
    | none => .error .notFound
    | some node => .ok node

/-- What is seen at a path. If the look-up fails, for whatever reason, nothing is seen. -/
def look (refused : Refusals) (w : SocketWorld) (path : String) : Option Node :=
  match refused .look, w.node path with
  | none, .ok node => some node
  | _, _ => none

/-- Where a new node at a path would be. A name that is taken is taken with slashes behind it, too. -/
def site (w : SocketWorld) (path : String) : Except OsFault Location :=
  match w.locate path with
  | .error fault =>
    let bare := String.ofList (path.toList.reverse.dropWhile (· = '/')).reverse
    if (w.node bare).isOk then .error .addressInUse else .error fault
  | .ok loc =>
    if (w.files.get? loc).isSome then .error .addressInUse
    else match w.files.get? loc.dropLast with
      | none => .error .notFound
      | some .dir => .ok loc
      | some _ => .error .notDirectory

/-- Makes an endpoint at an address that is free. If this is a path, a socket comes into being there. -/
def made (w : SocketWorld) (path : String) : Except OsFault SocketWorld :=
  match SocketName.read path with
  | .error fault => .error fault
  | .ok .unnamed => .ok { w with next := w.next + 1 }
  | .ok (.outside name) =>
    if w.outside.any (·.1 = name) then .error .addressInUse
    else .ok { w with outside := (name, w.next) :: w.outside, next := w.next + 1 }
  | .ok .file =>
    match w.site path with
    | .error fault => .error fault
    | .ok loc =>
      .ok { w with files := w.files.put loc (.socket (511 - w.umask) 0 0 w.next), next := w.next + 1 }

/-- Removes a file or a socket. -/
def removed (w : SocketWorld) (path : String) : Except OsFault SocketWorld :=
  match w.locate path with
  | .error fault => .error fault
  | .ok loc =>
    match w.files.get? loc with
    | none => .error .notFound
    | some .dir => .error .isDirectory
    | some _ => .ok { w with files := w.files.erase loc }

/-- Changes what is at a path. -/
def changed (w : SocketWorld) (path : String) (f : Node → Node) : Except OsFault SocketWorld :=
  match w.locate path with
  | .error fault => .error fault
  | .ok loc =>
    match w.files.get? loc with
    | none => .error .notFound
    | some node => .ok { w with files := w.files.put loc (f node) }

/-- Opens an endpoint for connections. -/
def listen (w : SocketWorld) (endpoint : Nat) : SocketWorld :=
  { w with listening := endpoint :: w.listening }

/-- Closes an endpoint; its socket stays where it is. -/
def close (w : SocketWorld) (endpoint : Nat) : SocketWorld :=
  { w with
      listening := w.listening.filter (· ≠ endpoint)
      outside := w.outside.filter (·.2 ≠ endpoint) }

/-- Asks the system for a change. If it fails or is refused, all stays as it is. -/
def request (refused : Refusals) (what : SocketRequest) (doing path : String) (w : SocketWorld)
    (change : Except OsFault SocketWorld) : SocketWorld × Except SettingError Unit :=
  match refused what, change with
  | some fault, _ => (w, .error ⟨.system fault, doing ++ path⟩)
  | none, .error fault => (w, .error ⟨.system fault, doing ++ path⟩)
  | none, .ok w' => (w', .ok ())

/-- Goes on unless something has failed. What was done before stays done. -/
def andThen {α : Type} (done : SocketWorld × Except SettingError Unit)
    (next : SocketWorld → SocketWorld × Except SettingError α) : SocketWorld × Except SettingError α :=
  match done.2 with
  | .ok () => next done.1
  | .error e => (done.1, .error e)

/-- Removes a socket that is at a path, whether or not it is in use. Anything else that is there stays. -/
def clear (refused : Refusals) (path : String) (w : SocketWorld) : SocketWorld × Except SettingError Unit :=
  match w.look refused path with
  | none => (w, .ok ())
  | some (.socket ..) => w.request refused .remove "Failed to remove stale socket " path (w.removed path)
  | some _ => (w, .error ⟨.notSocket, path⟩)

def setMode (refused : Refusals) (path : String) (options : SocketOptions) (w : SocketWorld) :
    SocketWorld × Except SettingError Unit :=
  match options.mode with
  | none => (w, .ok ())
  | some mode => w.request refused .setMode "Failed to set mode on " path (w.changed path (Node.withMode mode))

def setOwner (refused : Refusals) (path : String) (options : SocketOptions) (w : SocketWorld) :
    SocketWorld × Except SettingError Unit :=
  if options.uid.isSome || options.gid.isSome then
    w.request refused .setOwner "Failed to change owner of " path
      (w.changed path (Node.withOwner options.uid options.gid))
  else (w, .ok ())

/-- Opens an endpoint that was made, and sets its socket's mode and owner as far as this is asked for. -/
def equip (refused : Refusals) (path : String) (options : SocketOptions) (endpoint : Nat) (w : SocketWorld) :
    SocketWorld × Except SettingError Unit :=
  andThen (w.request refused .listen "Failed to bind " path (.ok (w.listen endpoint))) fun w =>
  andThen (w.setMode refused path options) fun w =>
  w.setOwner refused path options

/-- Keeps an endpoint open only if all went well. Its socket stays where it is even if not. -/
def kept (endpoint : Nat) (done : SocketWorld × Except SettingError Unit) : SocketWorld × Except SettingError Nat :=
  match done.2 with
  | .ok () => (done.1, .ok endpoint)
  | .error e => (done.1.close endpoint, .error e)

/-- Binds a socket and returns its endpoint, on a system that may refuse some of the requests. A socket
that is at the path already gives way; anything else that is there stays, and the call fails. -/
def bindUnder (refused : Refusals) (w : SocketWorld) (path : String) (options : SocketOptions) :
    SocketWorld × Except SettingError Nat :=
  andThen (w.clear refused path) fun w =>
  andThen (w.request refused .make "Failed to bind " path (w.made path)) fun bound =>
  kept w.next (bound.equip refused path options w.next)

def bind (w : SocketWorld) (path : String) (options : SocketOptions) :
    SocketWorld × Except SettingError Nat :=
  w.bindUnder (fun _ => none) path options

def unlink (w : SocketWorld) (path : String) : SocketWorld × Bool :=
  match w.removed path with
  | .error _ => (w, false)
  | .ok w' => (w', true)

end SocketWorld

end ServiceKit
