import ServiceKit.Config.Shared

namespace ServiceKit.SharedConfig

/-- Reads one file. A file that can be read but is refused is reported. -/
def loadFile (fs : FileSystem) (path : String) : Checked SharedConfig :=
  match fs.readText path with
  | .error fault => ⟨[], .error (.error ⟨.unreadable fault, some ("Failed to read " ++ path)⟩)⟩
  | .ok text =>
    let read := parse text
    match read.result with
    | .ok _ => read
    | .error (.crash _) => read
    | .error (.error _) => ⟨read.warnings ++ [.rejectedFile path], read.result⟩

/-- What follows the last point of a file name, unless the point comes first. -/
def extension? (name : String) : Option String :=
  match Text.split '.' name with
  | [] => none
  | [_] => none
  | first :: rest =>
    if first = "" ∧ rest.length = 1 then none
    else if name = ".." then none
    else rest.getLast?

/-- A name behind a directory's path. -/
def joinPath (dir name : String) : String :=
  if dir = "" ∨ dir.toList.getLast? = some '/' then dir ++ name else dir ++ "/" ++ name

/-- The configuration files among the entries of a directory: regular files with the right
extension. -/
def configFiles (fs : FileSystem) (loc : Location) : List String :=
  ((fs.entries loc).filter fun name =>
    extension? name == some "hcl" &&
      match fs.get? (loc ++ [name]) with
      | some (.file _) => true
      | _ => false).mergeSort (fun a b => decide (a ≤ b))

def loadAll (fs : FileSystem) (config : SharedConfig) : List String → Checked SharedConfig
  | [] => .pure config
  | path :: rest => Checked.bind (loadFile fs path) fun next => loadAll fs (config.merge next) rest

/-- Reads the configuration files of a directory in the order of their names, each on top of those
before it. -/
def loadDir (fs : FileSystem) (dir : String) : Checked SharedConfig :=
  let refuse fault : Checked SharedConfig :=
    ⟨[], .error (.error ⟨.unreadable fault, some ("Failed to list " ++ dir)⟩)⟩
  match fs.locate dir with
  | .error fault => refuse fault
  | .ok loc =>
    match fs.get? loc with
    | none => refuse .notFound
    | some .dir => loadAll fs {} ((configFiles fs loc).map (joinPath dir))
    | some _ => refuse .notDirectory

end ServiceKit.SharedConfig
