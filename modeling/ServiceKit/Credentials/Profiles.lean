import ServiceKit.Json.Basic
import ServiceKit.System.Files

namespace ServiceKit

/-- Named profiles with their settings, read from files of sections. -/
abbrev Profiles := List (String × List (String × String))

namespace Profiles

/-- The two kinds of profile files: in the one for settings a section's name is led by the word
`profile`, in the one for credentials it stands alone. -/
inductive FileKind where
  | settings
  | credentials
deriving DecidableEq, Repr

def isNameChar (c : Char) : Bool :=
  c.isAlphanum || c ∈ ['_', '-', '/', '.', '%', '@', ':', '+']

def isName (s : List Char) : Bool :=
  !s.isEmpty && s.all isNameChar

def isSpace (c : Char) : Bool :=
  c == ' ' || c == '\t'

/-- Cuts a comment that follows a blank. -/
def cutComment : List Char → List Char
  | a :: b :: rest =>
    if isSpace a && (b == '#' || b == ';') then [] else a :: cutComment (b :: rest)
  | s => s

/-- What a section's header opens: a profile of that name, or nothing of use. -/
def opened (kind : FileKind) (name : List Char) : Option (Bool × String) :=
  let name := Text.trimChars name
  let (led, bare) := match Text.dropLead? "profile".toList name with
    | some (c :: rest) => if isSpace c then (true, Text.trimChars rest) else (false, name)
    | _ => (false, name)
  if !isName bare then none
  else
    let bare := String.ofList bare
    match kind, led with
    | .credentials, true => none
    | .credentials, false => some (false, bare)
    | .settings, true => some (true, bare)
    | .settings, false => if bare = "default" then some (false, bare) else none

/-- A section that was read: whether its header was led by a word, its name, its settings. -/
structure Part where
  led : Bool
  name : String
  fields : List (String × String)

/-- Where the reader is: before any section, in one without use, or in a part, with the name of the
setting that an indented line goes on. -/
inductive Place where
  | start
  | unused (inSetting : Bool)
  | inPart (part : Part) (setting : Option String)

def Place.close : Place → List Part → List Part
  | inPart part _, done => done ++ [part]
  | _, done => done

/-- Reads lines. One without its form spoils the file. -/
def readLines (kind : FileKind) (done : List Part) (place : Place) :
    List (List Char) → Option (List Part)
  | [] => some (place.close done)
  | line :: rest =>
    let line := if line.getLast? = some '\r' then line.dropLast else line
    match line with
    | [] => readLines kind done place rest
    | c :: cs =>
      if (Text.trimChars line).isEmpty || c == '#' || c == ';' then readLines kind done place rest
      else if c == '[' then
        let header := Text.trimChars (cs.takeWhile fun c => c != '#' && c != ';')
        if header.getLast? ≠ some ']' then none
        else
          let next := match opened kind header.dropLast with
            | some (led, name) => Place.inPart ⟨led, name, []⟩ none
            | none => .unused false
          readLines kind (place.close done) next rest
      else if isSpace c then
        match place with
        | .inPart part (some name) =>
          let more := String.ofList (Text.trimChars line)
          let old := (Json.lookup name part.fields).getD ""
          readLines kind done (.inPart { part with
            fields := Json.insert name (old ++ "\n" ++ more) part.fields } (some name)) rest
        | .unused true => readLines kind done place rest
        | _ => none
      else
        let line := cutComment line
        let name := Text.trimChars (line.takeWhile (· != '='))
        match line.dropWhile (· != '=') with
        | [] => none
        | _ :: value =>
          if name.isEmpty then none
          else match place with
            | .start => none
            | .unused _ => readLines kind done (.unused true) rest
            | .inPart part _ =>
              let key := (String.ofList name).map Char.toLower
              let value := String.ofList (Text.trimChars value)
              let fields := if isName name then Json.insert key value part.fields else part.fields
              readLines kind done (.inPart { part with fields } (some key)) rest

/-- Adds the settings of a part to its profile; later ones count. -/
def add (part : Part) (ps : Profiles) : Profiles :=
  let old := (Json.lookup part.name ps).getD []
  Json.insert part.name (part.fields.foldl (fun acc f => Json.insert f.1 f.2 acc) old) ps

/-- Adds the profiles of a file. Where the default profile has a header led by the word, those without
are left out. -/
def readFile? (kind : FileKind) (text : String) (ps : Profiles) : Option Profiles :=
  (readLines kind [] .start (Text.splitChars '\n' text.toList)).map fun parts =>
    let ledDefault := parts.any fun p => p.led && p.name == "default"
    let parts := parts.filter fun p => !(ledDefault && p.name == "default" && !p.led)
    parts.foldl (fun ps p => add p ps) ps

end Profiles

end ServiceKit
