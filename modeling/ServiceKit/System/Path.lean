import ServiceKit.Text.Blank

namespace ServiceKit.Path

/-- A step of a path. The current directory is a step only at the start. -/
inductive Component where
  | root
  | here
  | up
  | name (s : String)
deriving DecidableEq, Repr

namespace Component

def ofPart (part : String) : Component :=
  if part = ".." then .up else .name part

def toName? : Component → Option String
  | name s => some s
  | _ => none

end Component

def ofParts (parts : List String) : List Component :=
  (parts.filter fun p => p ≠ "" ∧ p ≠ ".").map Component.ofPart

/-- The steps of a path: repeated slashes, a slash at the end, and inner steps to the current directory
make no difference. -/
def components (path : String) : List Component :=
  match Text.split '/' path with
  | "" :: rest => if path = "" then [] else .root :: ofParts rest
  | "." :: rest => .here :: ofParts rest
  | parts => ofParts parts

/-- Two paths are the same if their steps are. -/
def same (p q : String) : Bool :=
  components p == components q

/-- The steps to the directory that holds a path's last step, unless there is none to go back. -/
def parent? (path : String) : Option (List Component) :=
  match (components path).getLast? with
  | none => none
  | some .root => none
  | some _ => some (components path).dropLast

def fileName? (path : String) : Option String :=
  (components path).getLast?.bind Component.toName?

/-- A name in a directory. -/
def join (dir name : String) : String :=
  if dir = "" ∨ dir.toList.getLast? = some '/' then dir ++ name else dir ++ "/" ++ name

end ServiceKit.Path
