import ServiceKit.Text.Blank
import ServiceKit.Value.Error

namespace ServiceKit.Value

def trueWords : List String := ["true", "t", "yes", "y", "on", "1"]

def falseWords : List String := ["false", "f", "no", "n", "off", "0"]

/-- Reads a switch: a truth value, one of the numbers 0 and 1, or a word. -/
def readBool : Json → Except ValueFault Bool
  | .bool b => .ok b
  | .num n =>
    match n.toI64? with
    | some 0 => .ok false
    | some 1 => .ok true
    | _ => .error (.boolean (.num n))
  | .str s =>
    let word := Text.toLower (Text.trim s)
    if trueWords.contains word then .ok true
    else if falseWords.contains word then .ok false
    else .error (.booleanText word)
  | v => .error (.boolean v)

def readInt : Json → Except ValueFault Int
  | .num n =>
    match n.toI64? with
    | some i => .ok i
    | none => .error (.notInteger n)
  | .str s => (Integer.readI64 (Text.trim s)).mapError (.integerText s)
  | v => .error (.integer v)

/-- The bytes in one unit of capacity, by its lower-case name. -/
def capacityUnits : List (String × Nat) :=
  [("", 1), ("b", 1), ("kb", 1000), ("k", 1000), ("kib", 1024), ("mb", 1000000), ("m", 1000000),
    ("mib", 1048576), ("gb", 1000000000), ("g", 1000000000), ("gib", 1073741824), ("tb", 1000000000000),
    ("t", 1000000000000), ("tib", 1099511627776)]

def isCapacityDigit (c : Char) : Bool :=
  c.isDigit || c == '.'

/-- Reads digits and a unit. A count that is no whole 64-bit number is taken as a number of the
binary format, and the product is then rounded and clamped to 64 bits. -/
def readCapacityText (raw : String) : Except ValueFault Nat :=
  let chars := raw.toList
  let digits := chars.takeWhile isCapacityDigit
  let unit := Text.trim (String.ofList (chars.dropWhile isCapacityDigit))
  match Json.lookup unit capacityUnits with
  | none => .error (.capacityUnit unit)
  | some scale =>
    match Integer.readNat 10 Integer.u64Max digits with
    | .ok n =>
      if n * scale ≤ Integer.u64Max then .ok (n * scale) else .error (.capacityOverflow raw)
    | .error _ =>
      match Binary64.readDecimal? digits with
      | none => .error (.capacityText raw)
      | some x =>
        match x.bind (·.scaleMagnitude? scale) with
        | some product => .ok (product.roundClamped Integer.u64Max)
        | none => .ok Integer.u64Max

def readCapacity : Json → Except ValueFault Nat
  | .num n =>
    match n.toU64? with
    | some i => .ok i
    | none => .error (.negativeCapacity n)
  | .str s => readCapacityText (Text.toLower (Text.trim s))
  | v => .error (.capacity v)

/-- The text of a list entry; only scalars other than null have one. -/
def listEntry : Json → Except ValueFault String
  | .str s => .ok s
  | .num n => .ok n.render
  | .bool b => .ok (Json.bool b).render
  | v => .error (.listEntry v)

def tidy (entries : List String) : List String :=
  (entries.map Text.trim).filter (· ≠ "")

/-- Reads a list, or a text of entries with commas between them. Entries are trimmed, and empty ones
dropped. -/
def readStrings : Json → Except ValueFault (List String)
  | .null => .ok []
  | .str s => .ok (tidy (Text.split ',' s))
  | .arr items => (items.mapM listEntry).map tidy
  | v => .error (.stringList v)

/-- The text of any value: a string stands for itself, null for the empty text, and all else is
written as a document. -/
def plainText : Json → String
  | .null => ""
  | .str s => s
  | v => v.render

end ServiceKit.Value
