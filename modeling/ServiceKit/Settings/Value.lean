import ServiceKit.Json.Basic
import ServiceKit.Text.Blank

namespace ServiceKit

/-- A number of the binary format together with the values that have no digits. -/
inductive Real where
  | finite (x : Binary64)
  | infinite (neg : Bool)
  | undefined
deriving DecidableEq, Repr

namespace Real

/-- Numbers in settings are written positionally whatever their size, whole ones without a point. -/
def layout : Binary64.Layout := ⟨-400, 400, false, false⟩

def render : Real → String
  | finite x => x.render layout
  | infinite false => "inf"
  | infinite true => "-inf"
  | undefined => "NaN"

/-- The nearest unsigned 64-bit integer, a half away from zero. What has no number counts as zero. -/
def toU64 : Real → Nat
  | finite x => if x.neg then 0 else x.roundClamped Integer.u64Max
  | infinite false => Integer.u64Max
  | infinite true => 0
  | undefined => 0

/-- Reads digits, or the names of the values that have none; a magnitude above the greatest finite
one is infinite. -/
def read? (s : String) : Option Real :=
  let (neg, body) := match s.toList with
    | '-' :: rest => (true, rest)
    | '+' :: rest => (false, rest)
    | rest => (false, rest)
  match String.ofList (body.map Char.toLower) with
  | "inf" => some (infinite neg)
  | "infinity" => some (infinite neg)
  | "nan" => some undefined
  | _ => (Binary64.readDecimal? s.toList).map fun x => (x.map finite).getD (infinite neg)

end Real

/-- What a source of settings gives for a name. -/
inductive SettingValue where
  | null
  | bool (b : Bool)
  | int (n : Int)
  | real (x : Real)
  | text (s : String)
  | list (items : List SettingValue)
  | table (fields : List (String × SettingValue))

namespace SettingValue

abbrev Fields := List (String × SettingValue)

mutual

def ofJson : Json → SettingValue
  | .null => .null
  | .bool b => .bool b
  | .num (.int n) => .int n
  | .num (.float x) => .real (.finite x)
  | .str s => .text s
  | .arr items => .list (ofItems items)
  | .obj fields => .table (ofJsonFields fields)

def ofItems : List Json → List SettingValue
  | [] => []
  | j :: rest => ofJson j :: ofItems rest

def ofJsonFields : List (String × Json) → Fields
  | [] => []
  | (name, j) :: rest => (name, ofJson j) :: ofJsonFields rest

end

/-- The text of a scalar. -/
def toText? : SettingValue → Option String
  | bool b => some (toString b)
  | int n => some (toString n)
  | real x => some x.render
  | text s => some s
  | _ => none

/-- The whole number that a scalar stands for: words for true count as one, those for false as
zero. -/
def toU64? : SettingValue → Option Nat
  | bool b => some b.toNat
  | int n => if Integer.isU64 n then some n.toNat else none
  | real x => some x.toU64
  | text s =>
    let word := Text.toLower s
    if word ∈ ["true", "on", "yes"] then some 1
    else if word ∈ ["false", "off", "no"] then some 0
    else (Integer.readU64 s).toOption
  | _ => none

/-- The value that plain text stands for: a truth value, an integer, a number, else itself. -/
def ofPlain (s : String) : SettingValue :=
  match Text.toLower s with
  | "true" => .bool true
  | "false" => .bool false
  | _ =>
    match Integer.readI64 s with
    | .ok n => .int n
    | .error _ => ((Real.read? s).map SettingValue.real).getD (.text s)

end SettingValue

end ServiceKit
