import ServiceKit.Number.Integer
import ServiceKit.Number.Power

namespace ServiceKit

/-- A finite number of the 64-bit binary format: `mant * 2 ^ exp`, negated if `neg`. Either the
significand has its full 53 bits or the exponent is the least one. -/
structure Binary64 where
  neg : Bool
  mant : Nat
  exp : Int
deriving DecidableEq, Repr

namespace Binary64

def leastExp : Int := -1074

def greatestExp : Int := 971

def Canonical (x : Binary64) : Prop :=
  x.mant < pow2 53 ∧ leastExp ≤ x.exp ∧ x.exp ≤ greatestExp ∧ (pow2 52 ≤ x.mant ∨ x.exp = leastExp)

def zero (neg : Bool) : Binary64 :=
  ⟨neg, 0, leastExp⟩

/-- A quotient to the nearest integer, a half to the even neighbour. -/
def roundHalfEven (num den : Nat) : Nat :=
  let q := num / den
  let r := num % den
  if 2 * r < den then q
  else if 2 * r > den then q + 1
  else if q % 2 = 0 then q else q + 1

/-- A quotient to the nearest integer, a half upward. -/
def roundHalfUp (num den : Nat) : Nat :=
  (2 * num + den) / (2 * den)

/-- Multiplies a fraction by `2 ^ (-e)`. -/
def unscale (num den : Nat) (e : Int) : Nat × Nat :=
  if 0 ≤ e then (num, den * pow2 e.toNat) else (num * pow2 (-e).toNat, den)

/-- The nearest number to `num / den`, a tie to the even significand, or nothing if that lies above
the greatest finite number. -/
def ofRatio? (neg : Bool) (num den : Nat) : Option Binary64 :=
  if num = 0 then some (zero neg)
  else
    let guess := max ((num.log2 : Int) - den.log2 - 53) leastExp
    let (n, d) := unscale num den guess
    let e := if n < d * pow2 53 then guess else guess + 1
    let (n, d) := unscale num den e
    let m := roundHalfEven n d
    let (m, e) := if m = pow2 53 then (pow2 52, e + 1) else (m, e)
    if e ≤ greatestExp then some ⟨neg, m, e⟩ else none

/-- The number nearest to `digits * 10 ^ e`. Exponents far outside the range are decided by their
size alone. -/
def ofDecimal? (neg : Bool) (digits : Nat) (e : Int) : Option Binary64 :=
  if digits = 0 then some (zero neg)
  else
    let magnitude := e + ((digits.log2 * 30103 / 100000 : Nat) : Int)
    if magnitude > 400 then none
    else if magnitude < -400 then some (zero neg)
    else if 0 ≤ e then ofRatio? neg (digits * pow10 e.toNat) 1
    else ofRatio? neg digits (pow10 (-e).toNat)

/-- The magnitude as a fraction. -/
def ratio (x : Binary64) : Nat × Nat :=
  if 0 ≤ x.exp then (x.mant * pow2 x.exp.toNat, 1) else (x.mant, pow2 (-x.exp).toNat)

def isZero (x : Binary64) : Bool :=
  x.mant == 0

/-- The integer that the number is, if it is one. -/
def toInt? (x : Binary64) : Option Int :=
  let (n, d) := x.ratio
  if n % d = 0 then some (if x.neg then -Int.ofNat (n / d) else Int.ofNat (n / d)) else none

/-- The integer part, toward zero. -/
def truncate (x : Binary64) : Int :=
  let (n, d) := x.ratio
  if x.neg then -Int.ofNat (n / d) else Int.ofNat (n / d)

/-- The nearest number to an integer of at most a thousand bits. -/
def ofInt (n : Int) : Binary64 :=
  (ofRatio? (n < 0) n.natAbs 1).getD (zero false)

/-- The sum of two non-negative numbers, if it is finite. -/
def addMagnitudes? (x y : Binary64) : Option Binary64 :=
  let (n, d) := x.ratio
  let (n', d') := y.ratio
  ofRatio? false (n * d' + n' * d) (d * d')

/-- The magnitude times a natural number, both rounded as the format does, if it is finite. -/
def scaleMagnitude? (x : Binary64) (k : Nat) : Option Binary64 :=
  let (n, d) := x.ratio
  let (k, l) := (ofInt k).ratio
  ofRatio? false (n * k) (d * l)

/-- The magnitude to the nearest integer, a half upward, clamped at `high`. -/
def roundClamped (high : Nat) (x : Binary64) : Nat :=
  let (n, d) := x.ratio
  min high (roundHalfUp n d)

/-- Reads digits, one optional point among them or at either end, and an optional exponent. `none`
at the outside means that the text is no such number, at the inside that it is too large. -/
def readDecimal? (s : List Char) : Option (Option Binary64) :=
  let (neg, s) := match s with
    | '-' :: rest => (true, rest)
    | '+' :: rest => (false, rest)
    | s => (false, s)
  let whole := s.takeWhile Char.isDigit
  let s := s.dropWhile Char.isDigit
  let (frac, s) := match s with
    | '.' :: rest => (rest.takeWhile Char.isDigit, rest.dropWhile Char.isDigit)
    | s => ([], s)
  if whole.isEmpty && frac.isEmpty then none
  else
    let value (cs : List Char) : Nat := cs.foldl (fun n c => 10 * n + (c.toNat - 48)) 0
    let digits := value (whole ++ frac)
    let shift : Int := -(frac.length : Int)
    match s with
    | [] => some (ofDecimal? neg digits shift)
    | e :: rest =>
      if e = 'e' ∨ e = 'E' then
        let (down, ds) := match rest with
          | '-' :: ds => (true, ds)
          | '+' :: ds => (false, ds)
          | ds => (false, ds)
        if ds.isEmpty || !ds.all Char.isDigit then none
        else
          let n : Int := value ds
          some (ofDecimal? neg digits (if down then shift - n else shift + n))
      else none

end Binary64

end ServiceKit
