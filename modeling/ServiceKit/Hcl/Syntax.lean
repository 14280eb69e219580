import ServiceKit.Json.Basic

namespace ServiceKit.Hcl

inductive UnaryOp where
  | not
  | minus
deriving DecidableEq, Repr

namespace UnaryOp

def symbol : UnaryOp → String
  | not => "!"
  | minus => "-"

end UnaryOp

/-- An expression as it is written: nothing is evaluated but the sign of a number. A template is a
quoted text with interpolations, kept with its escapes. -/
inductive Expr where
  | null
  | bool (b : Bool)
  | num (n : Number)
  | str (s : String)
  | template (source : String)
  | array (items : List Expr)
  | object (items : List (Expr × Expr))
  | variable (name : String)
  | call (name : String) (args : List Expr) (expand : Bool)
  | attr (of : Expr) (name : String)
  | index (of key : Expr)
  | legacyIndex (of : Expr) (i : Nat)
  | attrSplat (of : Expr)
  | fullSplat (of : Expr)
  | paren (inner : Expr)
  | unary (op : UnaryOp) (operand : Expr)
  | binary (left : Expr) (op : String) (right : Expr)
  | conditional (test yes no : Expr)
  | forList (key : Option String) (value : String) (items body : Expr) (test : Option Expr)
  | forObject (key : Option String) (value : String) (items name body : Expr) (group : Bool)
      (test : Option Expr)
deriving Repr

/-- An attribute or a block; a body is a list of them. -/
inductive Item where
  | attr (name : String) (value : Expr)
  | block (name : String) (labels : List String) (body : List Item)
deriving Repr

abbrev Body := List Item

structure Block where
  name : String
  labels : List String
  body : Body
deriving Repr

namespace Item

def attr? : Item → Option (String × Expr)
  | attr name value => some (name, value)
  | block .. => none

def block? : Item → Option Block
  | attr .. => none
  | block name labels body => some ⟨name, labels, body⟩

end Item

namespace Body

def attributes (b : Body) : List (String × Expr) :=
  b.filterMap Item.attr?

def blocks (b : Body) : List Block :=
  b.filterMap Item.block?

/-- The attributes alone. -/
def withoutBlocks (b : Body) : Body :=
  b.filter fun i => i.attr?.isSome

def blocksNamed (b : Body) (name : String) : List Block :=
  (blocks b).filter (·.name = name)

theorem attributes_append (a b : Body) : attributes (a ++ b) = attributes a ++ attributes b :=
  List.filterMap_append ..

theorem blocks_append (a b : Body) : blocks (a ++ b) = blocks a ++ blocks b :=
  List.filterMap_append ..

theorem blocksNamed_append (a b : Body) (name : String) :
    blocksNamed (a ++ b) name = blocksNamed a name ++ blocksNamed b name := by
  simp [blocksNamed, blocks_append]

end Body

/-- A whole number written with a fraction or an exponent is that integer, within 64 bits. -/
def numberOfDecimal (x : Binary64) : Number :=
  match x.toInt? with
  | some n =>
    if -(Integer.i64Low : Int) ≤ n ∧ n ≤ (Integer.u64Max : Int) then .int n else .float x
  | none => .float x

/-- The negative of a number; one that 64 bits cannot hold becomes a number with a fraction. -/
def negate : Number → Number
  | .int n =>
    if n ≤ (Integer.i64Low : Int) then .int (-n)
    else .float { Binary64.ofInt n with neg := true }
  | .float x => .float { x with neg := !x.neg }

end ServiceKit.Hcl
