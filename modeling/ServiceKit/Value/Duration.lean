import ServiceKit.Duration
import ServiceKit.Number.Power
import ServiceKit.Text.Slice
import ServiceKit.Value.Scalar

namespace ServiceKit.Value

/-- The nanoseconds in one unit of time. Microseconds may be written with either mu. -/
def durationUnits : List (String × Nat) :=
  [("ns", 1), ("us", 1000), ("\u00b5s", 1000), ("\u03bcs", 1000), ("ms", 1000000),
    ("s", 1000000000), ("m", 60000000000), ("h", 3600000000000)]

/-- A count and its unit, cut from the start of a text that is not empty. -/
structure DurationPiece where
  whole : List Char
  frac : List Char
  unit : List Char
  rest : List Char

def isUnitEnd (c : Char) : Bool :=
  c.isDigit || c == '.'

def cutDigits (s : List Char) : Except Crash (List Char × List Char) :=
  Text.cutBefore (!Char.isDigit ·) s

def cutFraction : List Char → Except Crash (List Char × List Char)
  | '.' :: r => cutDigits r
  | s => .ok ([], s)

def cutPiece (s : List Char) : Except Crash DurationPiece := do
  let (whole, s) ← cutDigits s
  let (frac, s) ← cutFraction s
  let (unit, rest) ← Text.cutBefore isUnitEnd s
  return ⟨whole, frac, unit, rest⟩

/-- A number that 128 bits can hold. -/
def wide (text : String) (n : Nat) : Except (Stop ValueFault) Nat :=
  if n ≤ Integer.u128Max then .ok n else .error (.error (.durationOverflow text))

/-- The number that digits write, which is zero where there are none. -/
def readCount (text : String) (digits : List Char) : Except (Stop ValueFault) Nat :=
  if digits = [] then .ok 0
  else (Integer.readNat 10 Integer.u128Max digits).mapError fun _ => .error (.durationOverflow text)

/-- The nanoseconds of the digits behind a point. They are cut off to a whole number, and the digits
after the eighteenth do not count. -/
def fractionNanos (text : String) (frac : List Char) (scale : Nat) : Except (Stop ValueFault) Nat := do
  let index := min (Text.byteLength frac) 18
  let (digits, _) ← (Text.cutAt index index frac).mapError .crash
  let numerator ← readCount text digits
  let product ← wide text (numerator * scale)
  return product / pow10 (Text.byteLength digits)

def componentNanos (text : String) (whole frac : List Char) (scale : Nat) :
    Except (Stop ValueFault) Nat := do
  let count ← readCount text whole
  let nanos ← wide text (count * scale)
  if frac = [] then return nanos
  let part ← fractionNanos text frac scale
  wide text (nanos + part)

/-- The digits behind a point, and the rest. -/
def splitFraction : List Char → List Char × List Char
  | '.' :: r => (r.takeWhile Char.isDigit, r.dropWhile Char.isDigit)
  | s => ([], s)

/-- The piece at the start of a text, by its characters. -/
def pieceOf (s : List Char) : DurationPiece :=
  let tail := splitFraction (s.dropWhile Char.isDigit)
  ⟨s.takeWhile Char.isDigit, tail.1, tail.2.takeWhile (!isUnitEnd ·),
    tail.2.dropWhile (!isUnitEnd ·)⟩

theorem cutDigits_eq (s : List Char) :
    cutDigits s = .ok (s.takeWhile Char.isDigit, s.dropWhile Char.isDigit) := by
  simp [cutDigits, Text.cutBefore_eq]

theorem cutFraction_eq (s : List Char) : cutFraction s = .ok (splitFraction s) := by
  unfold cutFraction splitFraction
  split
  · exact cutDigits_eq _
  · rfl

/-- No piece is cut inside a character. -/
theorem cutPiece_eq (s : List Char) : cutPiece s = .ok (pieceOf s) := by
  simp only [cutPiece, cutDigits_eq, cutFraction_eq, Text.cutBefore_eq, pieceOf, bind, Except.bind,
    pure, Except.pure]

theorem length_dropWhile_le (p : Char → Bool) (s : List Char) :
    (s.dropWhile p).length ≤ s.length := by
  have parts := congrArg List.length (List.takeWhile_append_dropWhile (p := p) (l := s))
  rw [List.length_append] at parts
  omega

theorem length_dropWhile_lt {p : Char → Bool} {s : List Char} (taken : s.takeWhile p ≠ []) :
    (s.dropWhile p).length < s.length := by
  have parts := congrArg List.length (List.takeWhile_append_dropWhile (p := p) (l := s))
  rw [List.length_append] at parts
  have some := List.length_pos_iff.mpr taken
  omega

theorem splitFraction_length (s : List Char) : (splitFraction s).2.length ≤ s.length := by
  unfold splitFraction
  split
  · rename_i r
    have dropped := length_dropWhile_le Char.isDigit r
    exact Nat.le_succ_of_le dropped
  · exact Nat.le_refl _

/-- A piece with a unit takes something from the text. -/
theorem cutPiece_rest_lt {s : List Char} {p : DurationPiece} (cut : cutPiece s = .ok p)
    (named : p.unit ≠ []) : p.rest.length < s.length := by
  obtain rfl := Except.ok.inj ((cutPiece_eq s).symm.trans cut)
  have first := length_dropWhile_le Char.isDigit s
  have second := splitFraction_length (s.dropWhile Char.isDigit)
  have third := length_dropWhile_lt named
  simp only [pieceOf]
  omega

/-- Adds the pieces of a text from the left. Counts and sums that 128 bits cannot hold are refused as
soon as they arise. -/
def sumPieces (text : String) (total : Nat) (s : List Char) : Except (Stop ValueFault) Nat :=
  if s = [] then .ok total
  else
    match _ : cutPiece s with
    | .error crash => .error (.crash crash)
    | .ok p =>
      if p.whole = [] ∧ p.frac = [] then .error (.error (.durationText text))
      else if p.unit = [] then .error (.error (.durationWithoutUnit text))
      else
        match Json.lookup (String.ofList p.unit) durationUnits with
        | none => .error (.error (.durationUnit (String.ofList p.unit) text))
        | some scale => do
          let nanos ← componentNanos text p.whole p.frac scale
          let sum ← wide text (total + nanos)
          sumPieces text sum p.rest
termination_by s.length
decreasing_by exact cutPiece_rest_lt (by assumption) (by assumption)

def dropPlus : List Char → List Char
  | '+' :: r => r
  | s => s

def readSpan (text : String) : List Char → Except (Stop ValueFault) Duration
  | '-' :: _ => .error (.error (.negativeDurationText text))
  | [] => .error (.error (.durationText text))
  | ['0'] => .ok .zero
  | body => do
    let total ← sumPieces text 0 body
    match Duration.ofTotal? total with
    | some d => .ok d
    | none => .error (.error (.durationOverflow text))

/-- Reads counts with units, such as one hour and a half written as hours and minutes. A lone zero
needs no unit, and one plus may stand in front. -/
def readDurationText (s : String) : Except (Stop ValueFault) Duration :=
  readSpan s (dropPlus s.toList)

/-- Reads a number of seconds or a text with units; null and an empty text are zero. -/
def readDuration : Json → Except (Stop ValueFault) Duration
  | .null => .ok .zero
  | .num n =>
    match n.toU64? with
    | some secs => .ok (.ofSecs secs)
    | none =>
      match n with
      | .int _ => .error (.error (.negativeDuration n))
      | .float x =>
        if x.neg && !x.isZero then .error (.error (.negativeDuration n))
        else match Duration.ofSeconds? x with
          | some d => .ok d
          | none => .error (.crash .secondsOutOfRange)
  | .str s =>
    let s := Text.trim s
    if s = "" then .ok .zero
    else match Integer.readU64 s with
      | .ok secs => .ok (.ofSecs secs)
      | .error _ => readDurationText s
  | v => .error (.error (.duration v))

end ServiceKit.Value
