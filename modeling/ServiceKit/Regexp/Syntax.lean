import ServiceKit.Text.Blank
import ServiceKit.Text.Category
import ServiceKit.Text.Folding

namespace ServiceKit

/-- A set of characters as a class describes it. -/
inductive CharSet where
  | range (low high : Char)
  | word
  | digit
  | blank
  | table (t : Text.CharTable)
  | none
  | not (s : CharSet)
  | either (s t : CharSet)
  | both (s t : CharSet)
  | anyCase (s : CharSet)
deriving Repr

namespace CharSet

def contains : CharSet → Char → Bool
  | range low high, c => low ≤ c && c ≤ high
  | word, c => Text.isWordChar c
  | digit, c => Text.isDecimalDigit c
  | blank, c => Text.isBlank c
  | table t, c => t.contains c
  | none, _ => false
  | not s, c => !s.contains c
  | either s t, c => s.contains c || t.contains c
  | both s t, c => s.contains c && t.contains c
  | anyCase s, c => (Text.caseMates c).any s.contains

def one (c : Char) : CharSet :=
  range c c

def any : CharSet :=
  not none

end CharSet

/-- A place between two characters that an expression can ask for. Where a line may end in a carriage
return too, one before a line feed belongs to it. A half asks for one side of a word's edge. -/
inductive Edge where
  | textStart
  | textEnd
  | lineStart
  | lineEnd
  | returnStart
  | returnEnd
  | wordEdge
  | noWordEdge
  | wordStart
  | wordEnd
  | wordStartHalf
  | wordEndHalf
deriving DecidableEq, Repr

inductive Regexp where
  | empty
  | chars (s : CharSet)
  | edge (e : Edge)
  | seq (r s : Regexp)
  | alt (r s : Regexp)
  | star (r : Regexp)
  | times (r : Regexp) (least : Nat) (most : Nat)
deriving Repr

end ServiceKit
