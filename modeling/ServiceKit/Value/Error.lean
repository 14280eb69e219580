import ServiceKit.Json.Printer
import ServiceKit.System.Fault

namespace ServiceKit

/-- Why a value of a document does not have the form that a setting asks for. -/
inductive ValueFault where
  | booleanText (s : String)
  | boolean (v : Json)
  | integerText (s : String) (fault : IntegerFault)
  | notInteger (n : Number)
  | integer (v : Json)
  | negativeCapacity (n : Number)
  | capacity (v : Json)
  | capacityUnit (unit : String)
  | capacityOverflow (s : String)
  | capacityText (s : String)
  | listEntry (v : Json)
  | stringList (v : Json)
  | negativeDuration (n : Number)
  | duration (v : Json)
  | negativeDurationText (s : String)
  | durationText (s : String)
  | durationWithoutUnit (s : String)
  | durationUnit (unit s : String)
  | durationOverflow (s : String)
deriving Repr

namespace ValueFault

def message : ValueFault → String
  | booleanText s => "cannot interpret " ++ Text.quoted s ++ " as a boolean"
  | boolean v => "cannot interpret " ++ v.render ++ " as a boolean"
  | integerText s fault =>
    "cannot parse " ++ Text.quoted s ++ " as an integer: " ++ fault.message
  | notInteger n => n.render ++ " is not an integer"
  | integer v => "cannot interpret " ++ v.render ++ " as an integer"
  | negativeCapacity n => "capacity must be a positive integer, got " ++ n.render
  | capacity v => "cannot interpret " ++ v.render ++ " as a capacity"
  | capacityUnit unit => "unknown capacity unit " ++ Text.quoted unit
  | capacityOverflow s => "capacity " ++ Text.quoted s ++ " overflows"
  | capacityText s => "cannot parse capacity " ++ Text.quoted s
  | listEntry v => "list entries must be strings, got " ++ v.render
  | stringList v => "cannot interpret " ++ v.render ++ " as a string list"
  | negativeDuration n => "duration must be non-negative, got " ++ n.render
  | duration v => "cannot interpret " ++ v.render ++ " as a duration"
  | negativeDurationText s => "negative duration " ++ Text.quoted s
  | durationText s => "invalid duration " ++ Text.quoted s
  | durationWithoutUnit s => "missing unit in duration " ++ Text.quoted s
  | durationUnit unit s => "unknown unit " ++ Text.quoted unit ++ " in duration " ++ Text.quoted s
  | durationOverflow s => "duration " ++ Text.quoted s ++ " overflows"

end ValueFault

inductive ValueCause where
  | invalid (fault : ValueFault)
  | missingVariable (name : String)
  | unreadable (fault : OsFault)
  | address
deriving Repr

/-- A value that could not be read, and where it stood if that is known. -/
structure ValueError where
  cause : ValueCause
  context : Option String
deriving Repr

/-- The place of an error within its message. -/
def inContext : Option String → String
  | none => ""
  | some place => " (" ++ place ++ ")"

namespace ValueError

def invalid (fault : ValueFault) : ValueError :=
  ⟨.invalid fault, none⟩

def message (e : ValueError) : String :=
  let (lead, detail) := match e.cause with
    | .invalid fault => ("Invalid value", fault.message)
    | .missingVariable name => ("Environment variable not set", name)
    | .unreadable fault => ("I/O error", fault.message)
    | .address => ("Invalid address", "invalid IP address syntax")
  lead ++ inContext e.context ++ ": " ++ detail

end ValueError

end ServiceKit
