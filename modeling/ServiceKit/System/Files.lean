import ServiceKit.System.Fault
import ServiceKit.Text.Blank
import ServiceKit.Text.Bytes

namespace ServiceKit

/-- What a path can lead to. A socket has permission bits, an owner, and the number of the endpoint
that it was made for. -/
inductive Node where
  | file (content : Bytes)
  | dir
  | socket (mode uid gid endpoint : Nat)
deriving DecidableEq, Repr

/-- The names on the way from the root. -/
abbrev Location := List String

/-- The files of a system: each location has at most one node, and one that is not listed has none.
The root is a directory. -/
structure FileSystem where
  nodes : List (Location × Node)
deriving Repr

namespace FileSystem

def find (loc : Location) : List (Location × Node) → Option Node
  | [] => none
  | (l, n) :: rest => if l = loc then some n else find loc rest

def get? (fs : FileSystem) (loc : Location) : Option Node :=
  if loc = [] then some .dir else find loc fs.nodes

def erase (fs : FileSystem) (loc : Location) : FileSystem :=
  ⟨fs.nodes.filter fun n => n.1 ≠ loc⟩

def put (fs : FileSystem) (loc : Location) (node : Node) : FileSystem :=
  ⟨(loc, node) :: (fs.erase loc).nodes⟩

/-- Adds the directories on the way to a location and those of the location itself. -/
def makeDirs (fs : FileSystem) (loc : Location) : FileSystem :=
  (List.range loc.length).foldl
    (fun fs i => if (fs.get? (loc.take (i + 1))).isNone then fs.put (loc.take (i + 1)) .dir else fs) fs

/-- Follows names from a directory. Every name but the last must lead to a directory. -/
def walk (fs : FileSystem) : Location → List String → Except OsFault Location
  | at_, [] => .ok at_
  | at_, name :: rest =>
    match fs.get? at_ with
    | some .dir =>
      if name = "" ∨ name = "." then fs.walk at_ rest
      else if name = ".." then fs.walk at_.dropLast rest
      else fs.walk (at_ ++ [name]) rest
    | some _ => .error .notDirectory
    | none => .error .notFound

/-- The location that a path names, whether or not something is there. A path that does not start at
the root starts in a directory in which nothing can be found. -/
def locate (fs : FileSystem) (path : String) : Except OsFault Location :=
  if path.toList.contains '\x00' then .error .nulInPath
  else match path.toList with
    | '/' :: rest => fs.walk [] ((Text.splitChars '/' rest).map String.ofList)
    | _ => .error .notFound

def node (fs : FileSystem) (path : String) : Except OsFault Node :=
  match fs.locate path with
  | .error fault => .error fault
  | .ok loc =>
    match fs.get? loc with
    | none => .error .notFound
    | some n =>
      if path.toList.getLast? = some '/' ∧ n ≠ .dir then .error .notDirectory else .ok n

/-- The bytes of a file. A socket cannot be opened. -/
def readBytes (fs : FileSystem) (path : String) : Except OsFault Bytes :=
  match fs.node path with
  | .error fault => .error fault
  | .ok (.file content) => .ok content
  | .ok .dir => .error .isDirectory
  | .ok (.socket ..) => .error .noSuchDevice

def readText (fs : FileSystem) (path : String) : Except OsFault String :=
  match fs.readBytes path with
  | .error fault => .error fault
  | .ok content =>
    match Bytes.toString? content with
    | some text => .ok text
    | none => .error .notUtf8

/-- Makes the directories on the way along some names, as far as they are not there. -/
def createAlong (fs : FileSystem) : Location → List String → Except OsFault FileSystem
  | _, [] => .ok fs
  | at_, name :: rest =>
    if name = "" ∨ name = "." then fs.createAlong at_ rest
    else if name = ".." then fs.createAlong at_.dropLast rest
    else
      let next := at_ ++ [name]
      match fs.get? next with
      | some .dir => fs.createAlong next rest
      | some _ =>
        if rest.all fun n => n = "" ∨ n = "." then .error .alreadyExists else .error .notDirectory
      | none => (fs.put next .dir).createAlong next rest

/-- Makes a directory and those above it. -/
def createDirs (fs : FileSystem) (path : String) : Except OsFault FileSystem :=
  if path.toList.contains '\x00' then .error .nulInPath
  else match path.toList with
    | '/' :: rest => fs.createAlong [] ((Text.splitChars '/' rest).map String.ofList)
    | _ => .error .notFound

/-- The names in a directory. -/
def entries (fs : FileSystem) (loc : Location) : List String :=
  fs.nodes.filterMap fun n =>
    if n.1.length = loc.length + 1 ∧ n.1.take loc.length = loc then n.1.getLast? else none

end FileSystem

end ServiceKit
