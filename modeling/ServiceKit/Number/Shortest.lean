import ServiceKit.Number.Binary64

namespace ServiceKit

namespace Binary64

/-- Whether `c * 10 ^ g` reads back as the number: it lies between the midpoints to the two
neighbours, and a midpoint counts if the significand is even. Both sides are compared in quarters
of the last place. -/
def readsBack (x : Binary64) (c : Nat) (g : Int) : Bool :=
  let low := if x.mant = pow2 52 ∧ leastExp < x.exp then 4 * x.mant - 1 else 4 * x.mant - 2
  let high := 4 * x.mant + 2
  let unit := pow2 (x.exp - 2).toNat * pow10 (-g).toNat
  let point := c * pow10 g.toNat * pow2 (2 - x.exp).toNat
  if x.mant % 2 = 0 then low * unit ≤ point && point ≤ high * unit
  else low * unit < point && point < high * unit

/-- The exponent `t` with `10 ^ (t - 1) ≤ |x| < 10 ^ t`. -/
def decimalMagnitude (x : Binary64) : Int :=
  let (n, d) := x.ratio
  let below (t : Int) : Bool := n * pow10 (-t).toNat < d * pow10 t.toNat
  let guess := ((n.log2 : Int) - d.log2 - 1) * 30103 / 100000
  ([guess - 1, guess, guess + 1, guess + 2].find? below).getD (guess + 3)

/-- The better of the value's two neighbours on the grid of step `10 ^ g` that reads back. -/
def gridPoint? (x : Binary64) (g : Int) : Option Nat :=
  let (n, d) := x.ratio
  let n := n * pow10 (-g).toNat
  let d := d * pow10 g.toNat
  let low := n / d
  let rest := n % d
  match readsBack x low g, readsBack x (low + 1) g with
  | true, true =>
    if 2 * rest < d ∨ (2 * rest = d ∧ low % 2 = 0) then some low else some (low + 1)
  | true, false => some low
  | false, true => some (low + 1)
  | false, false => none

def stripZeros : Nat → Nat → Int → Nat × Int
  | 0, c, g => (c, g)
  | fuel + 1, c, g => if c % 10 = 0 then stripZeros fuel (c / 10) (g + 1) else (c, g)

/-- The fewest digits that read back as the number, and the power of ten of the last one. -/
def shortest (x : Binary64) : Nat × Int :=
  if x.mant = 0 then (0, 0)
  else
    let t := x.decimalMagnitude
    let hit := (List.range 17).findSome? fun (k : Nat) =>
      let g := t - 1 - (k : Int)
      (x.gridPoint? g).map fun c => (c, g)
    match hit with
    | some (c, g) => stripZeros 17 c g
    | none => (0, 0)

/-- How a number is written: for which magnitudes `t` the point stands among the digits
(`positionalFrom ≤ t ≤ positionalTo`), whether a whole number keeps `.0`, and whether a positive
exponent has a sign. -/
structure Layout where
  positionalFrom : Int
  positionalTo : Int
  keepPoint : Bool
  plusSign : Bool

def zeros (n : Nat) : List Char :=
  List.replicate n '0'

/-- The text of the number in a layout. -/
def render (l : Layout) (x : Binary64) : String :=
  let (c, g) := x.shortest
  let digits := Nat.toDigits 10 c
  let count : Int := digits.length
  let t := if c = 0 then 1 else g + count
  let body : List Char :=
    if l.positionalFrom ≤ t ∧ t ≤ l.positionalTo then
      if 0 ≤ g then digits ++ zeros g.toNat ++ (if l.keepPoint then ['.', '0'] else [])
      else if 0 < t then digits.take t.toNat ++ '.' :: digits.drop t.toNat
      else '0' :: '.' :: zeros (-t).toNat ++ digits
    else
      let mantissa := match digits with
        | [d] => [d]
        | d :: ds => d :: '.' :: ds
        | [] => []
      let e := t - 1
      let sign := if e < 0 then ['-'] else if l.plusSign then ['+'] else []
      mantissa ++ 'e' :: sign ++ Nat.toDigits 10 e.natAbs
  String.ofList (if x.neg then '-' :: body else body)

end Binary64

end ServiceKit
