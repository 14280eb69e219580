import ServiceKit.Logging.Event
import ServiceKit.Text.Letters

namespace ServiceKit

/-- A rule of a filter: up to which level the events pass that come from a place, and, where these are
given, inside a span or with values of certain names. -/
structure Directive where
  target : Option String := none
  span : Option String := none
  fields : List (String × Option String) := []
  level : LogLevel := .trace
deriving DecidableEq, Repr

namespace Directive

/-- Where in a directive the reader is. -/
inductive Place where
  | start
  | first (from_ : Nat)
  | span (from_ : Nat)
  | field (from_ : Nat)
  | fieldsEnd
  | afterSpan
  | level (from_ : Nat)
deriving Repr

def slice (s : List Char) (i j : Nat) : String :=
  String.ofList ((s.take j).drop i)

def toField (s : String) : String × Option String :=
  match Text.split '=' s with
  | name :: value :: _ => (name, some value)
  | _ => (s, none)

/-- Goes on by the character at position `i`. Places are counted in the trimmed text, and the pieces
are cut from the whole text `s`. -/
def step (s : List Char) (i : Nat) (c : Char) (place : Place) (d : Directive) :
    Option (Place × Directive) :=
  match place with
  | .start =>
    if c = '[' then some (.span (i + 1), d)
    else if c ∈ ['-', ':', '_'] || Text.isNameStart c || Text.isDecimalDigit c then some (.first i, d)
    else none
  | .first j =>
    if c = '=' then some (.level (i + 1), { d with target := some (slice s j i) })
    else if c = '[' then some (.span (i + 1), { d with target := some (slice s j i) })
    else some (.first j, d)
  | .span j =>
    if c = ']' then some (.afterSpan, { d with span := some (slice s j i) })
    else if c = '\x7b' then
      some (.field (i + 1), { d with span := if i = j then none else some (slice s j i) })
    else some (.span j, d)
  | .field j =>
    if c = '\x7d' then
      if i = j then none
      else some (.fieldsEnd, { d with fields := d.fields ++ [toField (slice s j i)] })
    else some (.field j, d)
  | .fieldsEnd => if c = ']' then some (.afterSpan, d) else none
  | .afterSpan => if c = '=' then some (.level (i + 1), d) else none
  | .level j => some (.level j, d)

def steps (s : List Char) : Nat → Place → Directive → List Char → Option (Place × Directive)
  | _, place, d, [] => some (place, d)
  | i, place, d, c :: rest =>
    match step s i c place d with
    | none => none
    | some (place, d) => steps s (i + 1) place d rest

/-- Reads a directive. A word alone is a level, or else a place from which everything passes. -/
def read (text : String) : Except DirectiveFault Directive :=
  let s := text.toList
  match steps s 0 .start {} (Text.trimChars s) with
  | some (.first j, d) =>
    let word := slice s j s.length
    match LogLevel.ofDirective? word with
    | some level => .ok { d with level }
    | none => .ok { d with target := some word }
  | some (.level j, d) =>
    let word := slice s j s.length
    if word = "" then .ok d
    else match LogLevel.ofDirective? word with
      | some level => .ok { d with level }
      | none => .error .level
  | some (.afterSpan, d) => .ok d
  | _ => .error .form

/-- A directive that can be decided on an event alone: it names no span and asks for no value. -/
def isStatic (d : Directive) : Bool :=
  d.span.isNone && d.fields.all fun f => f.2.isNone

def cares (d : Directive) (e : LogEvent) : Bool :=
  (match d.target with
    | none => true
    | some t => t.toList.isPrefixOf e.target.toList) &&
  d.fields.all fun f => e.fieldNames.contains f.1

/-- How exactly a directive describes events: first by the length of the place, then by the number of
names. -/
def exactness (d : Directive) : Nat × Nat :=
  (match d.target with
    | none => 0
    | some t => t.utf8ByteSize + 1, d.fields.length)

def names (d : Directive) : List String :=
  d.fields.map Prod.fst

/-- The more exact directive comes first; of equally exact ones the greater by name. -/
def precedes (d e : Directive) : Bool :=
  let (a, b) := d.exactness
  let (a', b') := e.exactness
  if a ≠ a' then a' < a
  else if b ≠ b' then b' < b
  else if d.target ≠ e.target then decide (e.target.getD "" < d.target.getD "")
  else decide (e.names < d.names)

/-- Puts a directive in its place; it takes the place of one for the same events. -/
def insert (d : Directive) : List Directive → List Directive
  | [] => [d]
  | e :: rest =>
    if d.target = e.target ∧ d.names = e.names then d :: rest
    else if d.precedes e then d :: e :: rest
    else e :: insert d rest

end Directive

/-- Decides which events pass: the first directive that cares for an event counts. -/
structure LogFilter where
  directives : List Directive
deriving Repr

namespace LogFilter

def allows (f : LogFilter) (e : LogEvent) : Bool :=
  match f.directives.find? (·.cares e) with
  | some d => d.level.allows e.level
  | none => false

/-- The filter of some directives, or of the default level where there are none. -/
def ofDirectives (default : LogLevel) (ds : List Directive) : LogFilter :=
  if ds.isEmpty then ⟨[{ level := default }]⟩
  else ⟨(ds.filter Directive.isStatic).foldl (fun acc d => Directive.insert d acc) []⟩

def parts (text : String) : List String :=
  (Text.split ',' text).filter (· ≠ "")

/-- Reads directives, all of which must be understood. -/
def read (default : LogLevel) (text : String) : Except DirectiveFault LogFilter :=
  ((parts text).mapM Directive.read).map (ofDirectives default)

/-- Reads directives and leaves out those that are not understood. -/
def readLossy (default : LogLevel) (text : String) : LogFilter :=
  ofDirectives default ((parts text).filterMap fun p => (Directive.read p).toOption)

end LogFilter

end ServiceKit
