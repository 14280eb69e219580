import ServiceKit.Config.Listener
import ServiceKit.Http.Error
import ServiceKit.Http.Header

namespace ServiceKit

/-- Response headers by status key: an exact code, a class, or the default for all. Each key and, under
it, each name stand once. -/
abbrev CustomHeaders := List (String × Headers)

namespace CustomHeaders

/-- The keys that apply to a status, the least specific first. -/
def keysOf (status : Nat) : List String :=
  ["default", toString (status / 100) ++ "xx", toString status]

def isStatusKey (key : String) : Bool :=
  match key.toList with
  | [a, b, c] =>
    if b = 'x' ∧ c = 'x' then '1' ≤ a ∧ a ≤ '5'
    else if a.isDigit ∧ b.isDigit ∧ c.isDigit then '1' ≤ a ∧ a ≤ '5'
    else false
  | _ => key == "default"

def statusKey (raw : String) : Except SettingError String :=
  let key := Text.toLower (Text.trim raw)
  if isStatusKey key then .ok key else .error ⟨.headerStatus, raw⟩

/-- Checks the headers under one key. The later of two names that differ in case alone counts. -/
def readHeaders (key : String) (headers : Headers) :
    List (String × String) → Except SettingError Headers
  | [] => .ok headers
  | (name, value) :: rest =>
    if Text.trim name = "" then .error ⟨.noHeaderName, key⟩
    else match Headers.name? (Text.trim name) with
      | none => .error ⟨.headerName name, key⟩
      | some n =>
        match Headers.value? value with
        | none => .error ⟨.headerValue name, key⟩
        | some v => readHeaders key (headers.set n v) rest

def readRows (table : CustomHeaders) : HeaderTable → Except SettingError CustomHeaders
  | [] => .ok table
  | (status, headers) :: rest =>
    match statusKey status with
    | .error e => .error e
    | .ok key =>
      match readHeaders key [] headers with
      | .error e => .error e
      | .ok hs =>
        if table.any fun row => row.1 == key then .error ⟨.repeatedStatus status, key⟩
        else readRows (table ++ [(key, hs)]) rest

def ofTable (raw : HeaderTable) : Except SettingError CustomHeaders :=
  readRows [] raw

def isEmpty (table : CustomHeaders) : Bool :=
  table.all fun row => row.2.isEmpty

/-- The text of a header for a status, from the most specific key that has it. -/
def fetch? (table : CustomHeaders) (name : String) (status : Nat) : Option String := do
  let name ← Headers.name? name
  let value ← (keysOf status).reverse.findSome? fun key =>
    (Json.lookup key table).bind (·.get? name)
  Headers.text? value

/-- All headers for a status; a more specific key counts more. -/
def forStatus (table : CustomHeaders) (status : Nat) : Headers :=
  (keysOf status).foldl (fun hs key => hs.setAll ((Json.lookup key table).getD [])) []

/-- Whether any key has the header. -/
def has (table : CustomHeaders) (name : String) : Bool :=
  match Headers.name? name with
  | some name => table.any fun row => row.2.contains name
  | none => false

end CustomHeaders

end ServiceKit
