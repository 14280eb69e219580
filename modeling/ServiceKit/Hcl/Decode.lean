import ServiceKit.Hcl.Printer

namespace ServiceKit.Hcl

/-- What an expression without a value becomes: an interpolation of its text. -/
def interpolated (e : Expr) : Json :=
  .str ("$\x7b" ++ render e ++ "\x7d")

/-- The name that a key of an object stands for; numbers and the like are none. -/
def keyName : Expr → Option String
  | .str s => some s
  | .template s => some s
  | .variable name => some name
  | .null | .bool _ | .num _ | .array _ | .object _ => none
  | .paren (.str s) => some s
  | .paren (.template s) => some s
  | .paren (.num _) => none
  | .paren (.bool _) => none
  | .paren .null => none
  | e => some ("$\x7b" ++ render e ++ "\x7d")

mutual

/-- The value of an expression, unless an object in it has a key that is no name. -/
def Expr.toJson? : Expr → Option Json
  | .null => some .null
  | .bool b => some (.bool b)
  | .num n => some (.num n)
  | .str s => some (.str s)
  | .template source => some (.str source)
  | .array items => (valuesOf items).map .arr
  | .object items => (fieldsOf items).map Json.ofFields
  | .paren e => e.toJson?
  | e => some (interpolated e)

def valuesOf : List Expr → Option (List Json)
  | [] => some []
  | e :: es => do
    let v ← e.toJson?
    let vs ← valuesOf es
    some (v :: vs)

def fieldsOf : List (Expr × Expr) → Option (List (String × Json))
  | [] => some []
  | (k, e) :: items => do
    let name ← keyName k
    let v ← e.toJson?
    let fs ← fieldsOf items
    some ((name, v) :: fs)

end

/-- What a name in a body holds: a value, the bodies of blocks without labels, or further names,
which are the labels of blocks. -/
inductive Entry where
  | value (v : Json)
  | bodies (bs : List Json)
  | labelled (entries : List (String × Entry))

mutual

/-- Adds a block to what a name holds already: bodies are listed, labels are merged, and of two
different kinds the later counts. -/
def Entry.merge : Entry → Entry → Entry
  | .bodies a, .bodies b => .bodies (a ++ b)
  | .labelled a, .labelled b => .labelled (mergeEntries a b)
  | _, b => b

def mergeEntries (a : List (String × Entry)) : List (String × Entry) → List (String × Entry)
  | [] => a
  | (name, e) :: rest => mergeEntries (mergeEntry name e a) rest

def mergeEntry (name : String) (e : Entry) : List (String × Entry) → List (String × Entry)
  | [] => [(name, e)]
  | (n, old) :: rest => if n = name then (n, old.merge e) :: rest else (n, old) :: mergeEntry name e rest

end

def blockEntry (body : Json) : List String → Entry
  | [] => .bodies [body]
  | label :: labels => .labelled [(label, blockEntry body labels)]

def putValue (name : String) (v : Json) : List (String × Entry) → List (String × Entry)
  | [] => [(name, .value v)]
  | (n, old) :: rest => if n = name then (n, .value v) :: rest else (n, old) :: putValue name v rest

mutual

def Entry.toJson : Entry → Json
  | .value v => v
  | .bodies [b] => b
  | .bodies bs => .arr bs
  | .labelled entries => Json.ofFields (entriesToJson entries)

def entriesToJson : List (String × Entry) → List (String × Json)
  | [] => []
  | (n, e) :: rest => (n, e.toJson) :: entriesToJson rest

end

mutual

def Item.addTo (entries : List (String × Entry)) : Item → Option (List (String × Entry))
  | .attr name value => (value.toJson?).map fun v => putValue name v entries
  | .block name labels body => do
    let es ← addAll [] body
    some (mergeEntry name (blockEntry (Json.ofFields (entriesToJson es)) labels) entries)

def addAll (entries : List (String × Entry)) : List Item → Option (List (String × Entry))
  | [] => some entries
  | item :: items => do
    let entries ← item.addTo entries
    addAll entries items

end

/-- The fields of a body. A block without labels is an object, repeated ones are a list, labels nest,
and of an attribute and a block of one name the later counts. -/
def Body.fields? (b : Body) : Option (List (String × Json)) :=
  (addAll [] b).map fun es => (Json.ofFields (entriesToJson es)).toFields

end ServiceKit.Hcl
