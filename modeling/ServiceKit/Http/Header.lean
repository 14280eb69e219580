import ServiceKit.Text.Blank
import ServiceKit.Text.Bytes

namespace ServiceKit

/-- The headers of a message: names in lower case, in order. A name may stand more than once. -/
abbrev Headers := List (String × Bytes)

namespace Headers

def isTokenChar (c : Char) : Bool :=
  c.isAlphanum || "!#$%&'*+-.^_|~".toList.contains c || c.toNat == 0x60

/-- The lower-case form of a name that may stand on the wire. -/
def name? (s : String) : Option String :=
  let cs := s.toList
  if cs ≠ [] ∧ cs.length < 65536 ∧ cs.all isTokenChar then some (String.ofList (cs.map Char.toLower))
  else none

def isValueByte (b : UInt8) : Bool :=
  (32 ≤ b.toNat && b.toNat ≠ 127) || b.toNat == 9

/-- The bytes of a value that may stand on the wire. -/
def value? (s : String) : Option Bytes :=
  let bytes := Bytes.ofString s
  if bytes.all isValueByte then some bytes else none

def isVisible (b : UInt8) : Bool :=
  (32 ≤ b.toNat && b.toNat < 127) || b.toNat == 9

/-- The text of a value of visible characters, spaces and tabs. -/
def text? (value : Bytes) : Option String :=
  if value.all isVisible then some (String.ofList (value.map fun b => Char.ofNat b.toNat)) else none

def contains (h : Headers) (name : String) : Bool :=
  h.any fun f => f.1 == name

def getAll (h : Headers) (name : String) : List Bytes :=
  (h.filter fun f => f.1 == name).map Prod.snd

def get? (h : Headers) (name : String) : Option Bytes :=
  (h.getAll name).head?

def erase (h : Headers) (name : String) : Headers :=
  h.filter fun f => f.1 != name

/-- Makes a value the only one under its name. -/
def set (h : Headers) (name : String) (value : Bytes) : Headers :=
  h.erase name ++ [(name, value)]

/-- Sets all of some headers. -/
def setAll (h : Headers) (extra : Headers) : Headers :=
  extra.foldl (fun h f => h.set f.1 f.2) h

theorem getAll_set_self (h : Headers) (name : String) (value : Bytes) :
    (h.set name value).getAll name = [value] := by
  simp [set, getAll, erase, List.filter_append, List.filter_filter]

theorem getAll_set_of_ne {h : Headers} {name other : String} {value : Bytes} (ne : other ≠ name) :
    (h.set name value).getAll other = h.getAll other := by
  have kept : ∀ f : String × Bytes, (f.1 == other && f.1 != name) = (f.1 == other) := by
    intro f
    by_cases h : f.1 = other <;> simp [h, ne]
  simp [set, getAll, erase, List.filter_append, List.filter_filter, kept, Ne.symm ne]

end Headers

end ServiceKit
