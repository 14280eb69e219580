import ServiceKit.Number.Shortest

namespace ServiceKit

/-- A number of a document: whole numbers keep all their digits, all others are of the binary
format. -/
inductive Number where
  | int (n : Int)
  | float (x : Binary64)
deriving DecidableEq, Repr

inductive Json where
  | null
  | bool (b : Bool)
  | num (n : Number)
  | str (s : String)
  | arr (items : List Json)
  | obj (fields : List (String × Json))
deriving Repr

namespace Number

/-- Documents write a number positionally from `0.00001` up to sixteen digits before the point. -/
def layout : Binary64.Layout := ⟨-4, 16, true, true⟩

def render : Number → String
  | int n => toString n
  | float x => x.render layout

def toI64? : Number → Option Int
  | int n => if Integer.isI64 n then some n else none
  | float _ => none

def toU64? : Number → Option Nat
  | int n => if Integer.isU64 n then some n.toNat else none
  | float _ => none

end Number

namespace Json

/-- The fields of an object stand in the order of their names, each name once. -/
def insert (name : String) (value : α) : List (String × α) → List (String × α)
  | [] => [(name, value)]
  | (n, v) :: rest =>
    if name < n then (name, value) :: (n, v) :: rest
    else if name = n then (name, value) :: rest
    else (n, v) :: insert name value rest

def lookup (name : String) (fields : List (String × α)) : Option α :=
  fields.lookup name

def erase (name : String) : List (String × α) → List (String × α)
  | [] => []
  | (n, v) :: rest => if n = name then rest else (n, v) :: erase name rest

/-- An object of the given fields; of two with one name the later counts. -/
def ofFields (fields : List (String × Json)) : Json :=
  .obj (fields.foldl (fun acc f => insert f.1 f.2 acc) [])

def ofNat (n : Nat) : Json :=
  .num (.int n)

def ofInt (n : Int) : Json :=
  .num (.int n)

def strings (xs : List String) : Json :=
  .arr (xs.map .str)

def ofOption (f : α → Json) : Option α → Json
  | none => .null
  | some a => f a

def get? (name : String) : Json → Option Json
  | .obj fields => lookup name fields
  | _ => none

/-- A field that is there and not null. -/
def find? (name : String) (j : Json) : Option Json :=
  match j.get? name with
  | some .null => none
  | found => found

def isNull : Json → Bool
  | .null => true
  | _ => false

def toStr? : Json → Option String
  | .str s => some s
  | _ => none

def toBool? : Json → Option Bool
  | .bool b => some b
  | _ => none

def toList : Json → List Json
  | .arr xs => xs
  | _ => []

def toFields : Json → List (String × Json)
  | .obj fields => fields
  | _ => []

def toInt? : Json → Option Int
  | .num (.int n) => some n
  | _ => none

end Json

end ServiceKit
