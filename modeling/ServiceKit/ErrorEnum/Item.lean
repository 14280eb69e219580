import ServiceKit.ErrorEnum.Types

namespace ServiceKit.ErrorEnum

/-- The text of a type or an attribute without its blanks. -/
def compact (s : String) : String :=
  String.ofList (s.toList.filter fun c => !Text.isBlank c)

/-- What stands between the brackets of an attribute. -/
structure Attr where
  text : String
deriving DecidableEq, Repr

namespace Attr

/-- Whether an attribute's path is just the given name. -/
def isNamed (name : String) (a : Attr) : Bool :=
  let s := Text.trimChars a.text.toList
  String.ofList (s.takeWhile TypeExpr.isNameChar) == name &&
    !"::".toList.isPrefixOf (Text.dropBlank (s.dropWhile TypeExpr.isNameChar))

/-- The last segments of paths, up to one that something else follows. -/
def lastNames : List (List Char) → List String
  | [] => []
  | p :: rest =>
    let last := Text.trimChars ((Text.splitChars ':' p).getLast?.getD [])
    let name := last.takeWhile TypeExpr.isNameChar
    if name.isEmpty then []
    else String.ofList name :: (if name.length = last.length then lastNames rest else [])

/-- The last segments of the paths in an attribute's list, as far as the list holds paths. -/
def listed (a : Attr) : List String :=
  let s := ((Text.trimChars a.text.toList).dropWhile (· != '(')).drop 1
  lastNames (Text.splitChars ',' s.dropLast)

end Attr

structure Field where
  name : String
  type : String
  attrs : List Attr := []
deriving DecidableEq, Repr

/-- A variant has named fields, or others. -/
inductive Shape where
  | named (fields : List Field)
  | tuple (types : List String)
  | unit
deriving DecidableEq, Repr

structure Variant where
  name : String
  attrs : List Attr := []
  shape : Shape
deriving DecidableEq, Repr

inductive ItemKind where
  | enum
  | struct
  | union
deriving DecidableEq, Repr

structure Item where
  kind : ItemKind
  name : String
  attrs : List Attr := []
  variants : List Variant := []
deriving DecidableEq, Repr

end ServiceKit.ErrorEnum
