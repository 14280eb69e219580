import ServiceKit.System.Files
import ServiceKit.Value.Error

namespace ServiceKit.Value

/-- A value may name a variable or a file that holds what is meant. -/
inductive Indirection where
  | literal
  | variable (name : String)
  | file (path : String)
deriving DecidableEq, Repr

namespace Indirection

def ofText (s : String) : Indirection :=
  let s := Text.trim s
  match Text.stripLead? "env://" s with
  | some name => .variable name
  | none =>
    match Text.stripLead? "file://" s with
    | some path => .file path
    | none => .literal

end Indirection

/-- What a value stands for. A variable's text is taken as it is and a file's is trimmed. -/
def resolve (env : String → Option String) (fs : FileSystem) (s : String) :
    Except ValueError String :=
  match Indirection.ofText s with
  | .literal => .ok s
  | .variable name =>
    match env name with
    | some text => .ok text
    | none => .error ⟨.missingVariable name, none⟩
  | .file path =>
    match fs.readText path with
    | .ok text => .ok (Text.trim text)
    | .error fault => .error ⟨.unreadable fault, some ("Failed to read " ++ path)⟩

end ServiceKit.Value
