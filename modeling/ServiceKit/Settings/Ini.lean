import ServiceKit.Settings.Value
import ServiceKit.Text.Blank

namespace ServiceKit.Ini

/-- The text between two equal quotes at the ends, or the text itself. -/
def unquote (s : List Char) : List Char :=
  match s with
  | q :: rest => if (q = '"' ∨ q = '\'') ∧ rest.getLast? = some q then rest.dropLast else s
  | [] => []

/-- A line's name and value, parted by the first equals sign or colon. -/
def entry? (line : List Char) : Option (String × SettingValue) :=
  let name := line.takeWhile fun c => c != '=' && c != ':'
  match line.dropWhile fun c => c != '=' && c != ':' with
  | _ :: value =>
    some (Text.trim (String.ofList name), .text (String.ofList (unquote (Text.trimChars value))))
  | [] => none

/-- Adds an entry under the name of a section, or at the top where there is none. -/
def add (part : Option String) (e : String × SettingValue) (doc : SettingValue.Fields) :
    SettingValue.Fields :=
  match part with
  | none => Json.insert e.1 e.2 doc
  | some name =>
    match Json.lookup name doc with
    | some (.table fields) => Json.insert name (.table (Json.insert e.1 e.2 fields)) doc
    | _ => Json.insert name (.table [e]) doc

def readLines (part : Option String) (doc : SettingValue.Fields) :
    List (List Char) → Option SettingValue.Fields
  | [] => some doc
  | line :: rest =>
    match Text.trimChars line with
    | [] => readLines part doc rest
    | ';' :: _ => readLines part doc rest
    | '#' :: _ => readLines part doc rest
    | '[' :: name =>
      if name.contains ']' then
        readLines (some (Text.trim (String.ofList (name.takeWhile (· != ']'))))) doc rest
      else none
    | line =>
      match entry? line with
      | some e => readLines part (add part e doc) rest
      | none => none

/-- Reads a document of lines `name = value`, in sections that open with a name in brackets. Every
value is text. -/
def parse? (text : String) : Option SettingValue.Fields :=
  readLines none [] (Text.splitChars '\n' text.toList)

end ServiceKit.Ini
