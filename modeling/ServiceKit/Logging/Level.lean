import ServiceKit.Logging.Error
import ServiceKit.Number.Integer
import ServiceKit.Text.Blank

namespace ServiceKit

/-- How much of the events passes: each level lets its own and the graver events through. -/
inductive LogLevel where
  | off
  | error
  | warn
  | info
  | debug
  | trace
deriving DecidableEq, Repr

namespace LogLevel

def text : LogLevel → String
  | off => "off"
  | error => "error"
  | warn => "warn"
  | info => "info"
  | debug => "debug"
  | trace => "trace"

def rank : LogLevel → Nat
  | off => 0
  | error => 1
  | warn => 2
  | info => 3
  | debug => 4
  | trace => 5

/-- Whether an event of a level passes. -/
def allows (filter event : LogLevel) : Bool :=
  event.rank ≤ filter.rank

def all : List LogLevel :=
  [off, error, warn, info, debug, trace]

/-- ASCII letters in lower case. -/
def lower (s : String) : String :=
  s.map Char.toLower

/-- Reads a level by its name or number, as directives write it. -/
def ofDirective? (s : String) : Option LogLevel :=
  match Integer.readU64 s with
  | .ok n => all.find? fun l => l.rank = n
  | .error _ => if s = "" then some error else all.find? fun l => l.text = lower s

/-- Reads a level as a setting gives it; without text it is the usual one. -/
def read (s : String) : Except LogError LogLevel :=
  match lower (Text.trim s) with
  | "trace" => .ok trace
  | "debug" => .ok debug
  | "info" => .ok info
  | "" => .ok info
  | "warn" => .ok warn
  | "warning" => .ok warn
  | "err" => .ok error
  | "error" => .ok error
  | "off" => .ok off
  | other => .error (.unknownLevel other)

end LogLevel

inductive LogFormat where
  | standard
  | json
deriving DecidableEq, Repr

namespace LogFormat

def text : LogFormat → String
  | standard => "standard"
  | json => "json"

def read (s : String) : Except LogError LogFormat :=
  let word := Text.trim s
  match LogLevel.lower word with
  | "" => .ok standard
  | "standard" => .ok standard
  | "json" => .ok json
  | _ => .error (.unknownFormat word)

end LogFormat

end ServiceKit
