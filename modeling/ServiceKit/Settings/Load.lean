import ServiceKit.Duration
import ServiceKit.Settings.Ini
import ServiceKit.Settings.Toml
import ServiceKit.Settings.Yaml
import ServiceKit.System.Files

namespace ServiceKit

/-- What a process needs to know before it reads its configuration. -/
structure Settings where
  configPath : String := "keel.hcl"
  logDir : Option String := none
  shutdownGraceSecs : Nat := 30
deriving DecidableEq, Repr

/-- Settings fail as a whole: a source cannot be read, or a value has no reading. -/
inductive SettingsError where
  | sources
  | values
deriving DecidableEq, Repr

namespace SettingsError

def context : SettingsError → String
  | sources => "Failed to build settings"
  | values => "Failed to deserialize settings"

end SettingsError

namespace Settings

def shutdownGrace (s : Settings) : Duration :=
  Duration.ofSecs s.shutdownGraceSecs

/-! ### Layers -/

def isNameChar (c : Char) : Bool :=
  c.isAlphanum || c == '_' || c == '-'

/-- A name in brackets or after a point leads into the value of the first name. -/
def isPath : List Char → Bool
  | [] => false
  | cs => cs.all fun c => isNameChar c || c == '.' || c == '[' || c == ']'

/-- Puts a value into the layers below it: tables are merged, all else is replaced. A name with steps
makes its first part a table. -/
def put (name : String) (value : SettingValue) (under : SettingValue.Fields) : SettingValue.Fields :=
  let cs := name.toList
  let first := cs.takeWhile isNameChar
  if first.length = cs.length || first.isEmpty || !isPath cs then
    match Json.lookup name under, value with
    | some (.table old), .table new =>
      Json.insert name (.table (new.foldl (fun acc f => Json.insert f.1 f.2 acc) old)) under
    | _, _ => Json.insert name value under
  else Json.insert (String.ofList first) (.table []) under

def putAll (layer under : SettingValue.Fields) : SettingValue.Fields :=
  layer.foldl (fun acc f => put f.1 f.2 acc) under

/-! ### Files -/

/-- The form of a settings file follows from the end of its name. -/
def reader? (extension : String) : Option (String → Option SettingValue.Fields) :=
  let ofJson (text : String) : Option SettingValue.Fields :=
    match Json.parse? text with
    | some (.obj fields) => some (SettingValue.ofJsonFields fields)
    | _ => none
  if extension = "toml" then some Toml.parse?
  else if extension ∈ ["json", "json5", "ron"] then some ofJson
  else if extension ∈ ["yaml", "yml"] then some Yaml.parse?
  else if extension = "ini" then some Ini.parse?
  else none

def extensions : List String :=
  ["toml", "json", "yaml", "yml", "ini", "ron", "json5"]

/-- What follows the last point of a path's last name, unless the point starts that name. -/
def extension (path : String) : String :=
  let name := (Text.split '/' path).getLast?.getD ""
  match (Text.splitChars '.' name.toList).reverse with
  | last :: _ :: before =>
    if before.isEmpty && name.toList.head? = some '.' then "" else String.ofList last
  | _ => ""

def isFile (fs : FileSystem) (path : String) : Bool :=
  match fs.node path with
  | .ok (.file _) => true
  | _ => false

/-- The file that a path names, alone or with the end of a known form. -/
def locate? (fs : FileSystem) (path : String) : Option String :=
  if isFile fs path then some path
  else (extensions.map fun e => path ++ "." ++ e).find? (isFile fs)

def readFile? (fs : FileSystem) (path : String) : Option SettingValue.Fields :=
  match reader? (extension path), fs.readText path with
  | some read, .ok text => read text
  | _, _ => none

/-- The layer of a file. One that was not asked for may be absent. -/
def fileLayer? (fs : FileSystem) (path : Option String) : Option SettingValue.Fields :=
  match path with
  | some path => (locate? fs path).bind (readFile? fs)
  | none =>
    match locate? fs "keel-server" with
    | some found => readFile? fs found
    | none => some []

/-! ### Variables -/

/-- The layer of the variables whose names start with `KEEL__`; two underscores part the steps of a
name. -/
def variableLayer (env : List (String × String)) : SettingValue.Fields :=
  putAll (env.filterMap fun v =>
    (Text.stripLead? "keel__" (Text.toLower v.1)).map fun name =>
      (".".intercalate (name.splitOn "__"), SettingValue.ofPlain v.2)) []

/-! ### Reading -/

/-- A setting that is not given keeps its default. -/
def setting (read : SettingValue → Option α) (default : α) (name : String)
    (layers : SettingValue.Fields) : Option α :=
  match Json.lookup name layers with
  | none => some default
  | some v => read v

def ofLayers? (layers : SettingValue.Fields) : Option Settings := do
  let configPath ← setting SettingValue.toText? "keel.hcl" "config_path" layers
  let logDir ← setting (fun
    | .null => some none
    | v => v.toText?.map some) none "log_dir" layers
  let grace ← setting SettingValue.toU64? 30 "shutdown_grace_secs" layers
  pure ⟨configPath, logDir, grace⟩

/-- Reads the settings from a file, which must be there if it is named, under the variables. -/
def load (fs : FileSystem) (env : List (String × String)) (path : Option String) :
    Except SettingsError Settings :=
  match fileLayer? fs path with
  | none => .error .sources
  | some layer =>
    match ofLayers? (putAll (variableLayer env) (putAll layer [])) with
    | some s => .ok s
    | none => .error .values

end Settings

end ServiceKit
