import ServiceKit.Json.Reader
import ServiceKit.Settings.Value
import ServiceKit.Text.Blank

namespace ServiceKit.Yaml

def isIndented : List Char → Bool
  | ' ' :: _ => true
  | '-' :: ' ' :: _ => true
  | _ => false

/-- Cuts a comment, which follows a blank, off a plain scalar. -/
def cutComment : List Char → List Char
  | ' ' :: '#' :: _ => []
  | '\t' :: '#' :: _ => []
  | c :: rest => c :: cutComment rest
  | [] => []

/-- The rest after a closing quote may only be blank or a comment. -/
def closes (rest : List Char) : Bool :=
  (Text.trimChars (cutComment (' ' :: rest))).isEmpty

/-- Reads the rest of a single-quoted scalar, in which a quote is written twice. -/
def readSingle (done : List Char) : List Char → Option SettingValue
  | '\'' :: '\'' :: rest => readSingle ('\'' :: done) rest
  | '\'' :: rest => if closes rest then some (.text (String.ofList done.reverse)) else none
  | c :: rest => readSingle (c :: done) rest
  | [] => none

/-- The value of a scalar without quotes. -/
def ofWord (s : String) : SettingValue :=
  if s ∈ ["", "~", "null"] then .null
  else if s ∈ ["true", "True", "TRUE"] then .bool true
  else if s ∈ ["false", "False", "FALSE"] then .bool false
  else if s ∈ [".inf", ".Inf", ".INF", "+.inf", "+.Inf", "+.INF"] then .real (.infinite false)
  else if s ∈ ["-.inf", "-.Inf", "-.INF"] then .real (.infinite true)
  else if s ∈ [".nan", ".NaN", ".NAN"] then .real .undefined
  else match Integer.readI64 s with
    | .ok n => .int n
    | .error _ =>
      match Binary64.readDecimal? s.toList with
      | some (some x) => .real (.finite x)
      | some none => .real (.infinite (s.toList.head? == some '-'))
      | none => .text s

def readScalar? (s : List Char) : Option SettingValue :=
  match s with
  | '"' :: rest =>
    match Json.readChars [] rest with
    | some (t, r) => if closes r then some (.text t) else none
    | none => none
  | '\'' :: rest => readSingle [] rest
  | '[' :: _ => if s.contains ']' then some (.list []) else none
  | '{' :: _ => if s.contains '}' then some (.table []) else none
  | s => some (ofWord (Text.trim (String.ofList (cutComment s))))

/-- The name and the text after the first colon that ends the line or stands before a blank. -/
def splitEntry? (done : List Char) : List Char → Option (List Char × List Char)
  | [] => none
  | [':'] => some (done.reverse, [])
  | ':' :: ' ' :: rest => some (done.reverse, rest)
  | c :: rest => splitEntry? (c :: done) rest

/-- Reads the lines of a mapping. Of a value on indented lines only the presence is kept: it is no
scalar. -/
def readLines (doc : SettingValue.Fields) : List (List Char) → Option SettingValue.Fields
  | [] => some doc
  | line :: rest =>
    let line := if line.getLast? = some '\r' then line.dropLast else line
    if (Text.trimChars (cutComment (' ' :: line))).isEmpty || line == ['-', '-', '-'] then
      readLines doc rest
    else if isIndented line then none
    else match splitEntry? [] line with
      | none => none
      | some (name, value) =>
        let name := Text.trim (String.ofList name)
        if (Json.lookup name doc).isSome then none
        else if (Text.trimChars (cutComment (' ' :: value))).isEmpty && rest.head?.any isIndented then
          readLines (Json.insert name (.table []) doc) (rest.dropWhile isIndented)
        else match readScalar? (Text.trimChars value) with
          | some v => readLines (Json.insert name v doc) rest
          | none => none
  termination_by lines => lines.length
  decreasing_by
    all_goals simp_wf
    all_goals have := (List.dropWhile_sublist isIndented (l := rest)).length_le
    all_goals omega

/-- Reads a document that is one mapping, written line by line, with scalars as values. -/
def parse? (text : String) : Option SettingValue.Fields :=
  readLines [] (Text.splitChars '\n' text.toList)

end ServiceKit.Yaml
