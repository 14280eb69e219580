import ServiceKit.Regexp.Syntax

namespace ServiceKit

namespace Edge

/-- Whether the place between two neighbours, where there are any, is such an edge. -/
def holds (e : Edge) (before after : Option Char) : Bool :=
  let inside (c : Option Char) : Bool := c.any Text.isWordChar
  match e with
  | textStart => before.isNone
  | textEnd => after.isNone
  | lineStart => before.isNone || before == some '\n'
  | lineEnd => after.isNone || after == some '\n'
  | returnStart => before.isNone || before == some '\n' || (before == some '\r' && after != some '\n')
  | returnEnd => after.isNone || after == some '\r' || (after == some '\n' && before != some '\r')
  | wordEdge => inside before != inside after
  | noWordEdge => inside before == inside after
  | wordStart => !inside before && inside after
  | wordEnd => inside before && !inside after
  | wordStartHalf => !inside before
  | wordEndHalf => !inside after

end Edge

namespace Regexp

/-- The members of `more` that are not yet in `places`, and these. -/
def join (places more : List Nat) : List Nat :=
  more.foldl (fun acc i => if acc.contains i then acc else i :: acc) places

/-- Applies a step until it has been applied `n` times or adds no place. -/
def grow (step : List Nat → List Nat) : Nat → List Nat → List Nat
  | 0, places => places
  | n + 1, places =>
    let next := join places (step places)
    if next.length = places.length then places else grow step n next

def repeated (step : List Nat → List Nat) : Nat → List Nat → List Nat
  | 0, places => places
  | n + 1, places => repeated step n (step places)

/-- The places at which a match can end that starts at one of the given places. A place is the number
of characters before it. -/
def ends (text : Array Char) : Regexp → List Nat → List Nat
  | empty, from_ => from_
  | chars s, from_ => from_.filterMap fun i =>
    match text[i]? with
    | some c => if s.contains c then some (i + 1) else none
    | none => none
  | edge e, from_ => from_.filter fun i =>
    e.holds (if i = 0 then none else text[i - 1]?) text[i]?
  | seq r s, from_ => ends text s (ends text r from_)
  | alt r s, from_ => join (ends text r from_) (ends text s from_)
  | star r, from_ => grow (ends text r) (text.size + 1) from_
  | times r least most, from_ =>
    grow (ends text r) (most - least) (repeated (ends text r) least from_)

/-- Whether some part of the text matches. -/
def isMatch (r : Regexp) (text : String) : Bool :=
  let cs := text.toList.toArray
  !(ends cs r (List.range (cs.size + 1))).isEmpty

end Regexp

end ServiceKit
