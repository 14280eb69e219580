namespace ServiceKit

/-- Why a text is not an integer of a given range. -/
inductive IntegerFault where
  | empty
  | badDigit
  | tooLarge
  | tooSmall
deriving DecidableEq, Repr

namespace IntegerFault

def message : IntegerFault → String
  | empty => "cannot parse integer from empty string"
  | badDigit => "invalid digit found in string"
  | tooLarge => "number too large to fit in target type"
  | tooSmall => "number too small to fit in target type"

end IntegerFault

namespace Integer

/-- The value of a digit in a base up to sixteen. -/
def digitValue? (base : Nat) (c : Char) : Option Nat :=
  let v :=
    if '0' ≤ c ∧ c ≤ '9' then some (c.toNat - 48)
    else if 'a' ≤ c ∧ c ≤ 'f' then some (c.toNat - 87)
    else if 'A' ≤ c ∧ c ≤ 'F' then some (c.toNat - 55)
    else none
  v.filter (· < base)

/-- Adds digits to a magnitude from the left. The first digit that is none, or that brings the
magnitude above its bound, decides the fault. -/
def readDigits (base bound : Nat) (above : IntegerFault) : Nat → List Char → Except IntegerFault Nat
  | n, [] => .ok n
  | n, c :: rest =>
    match digitValue? base c with
    | none => .error .badDigit
    | some d =>
      if base * n + d ≤ bound then readDigits base bound above (base * n + d) rest
      else .error above

/-- The number that decimal digits stand for. -/
def ofDigits (ds : List Char) : Nat :=
  ds.foldl (fun n c => 10 * n + (c.toNat - 48)) 0

/-- Reads an unsigned integer up to `bound`; one leading plus is allowed. -/
def readNat (base bound : Nat) (s : List Char) : Except IntegerFault Nat :=
  match s with
  | [] => .error .empty
  | ['+'] => .error .badDigit
  | '+' :: rest => readDigits base bound .tooLarge 0 rest
  | s => readDigits base bound .tooLarge 0 s

/-- Reads a signed integer from `-low` to `high`; one leading sign is allowed. -/
def readInt (low high : Nat) (s : List Char) : Except IntegerFault Int :=
  match s with
  | [] => .error .empty
  | ['+'] => .error .badDigit
  | ['-'] => .error .badDigit
  | '+' :: rest => (readDigits 10 high .tooLarge 0 rest).map Int.ofNat
  | '-' :: rest => (readDigits 10 low .tooSmall 0 rest).map fun n => -Int.ofNat n
  | s => (readDigits 10 high .tooLarge 0 s).map Int.ofNat

def u16Max : Nat := 0xffff

def u32Max : Nat := 0xffffffff

def u64Max : Nat := 0xffffffffffffffff

def u128Max : Nat := 0xffffffffffffffffffffffffffffffff

def i64Max : Nat := 0x7fffffffffffffff

/-- The magnitude of the least signed 64-bit integer. -/
def i64Low : Nat := 0x8000000000000000

def readU16 (s : String) : Except IntegerFault Nat :=
  readNat 10 u16Max s.toList

def readU32 (s : String) : Except IntegerFault Nat :=
  readNat 10 u32Max s.toList

def readU64 (s : String) : Except IntegerFault Nat :=
  readNat 10 u64Max s.toList

def readI64 (s : String) : Except IntegerFault Int :=
  readInt i64Low i64Max s.toList

/-- Whether an integer is in the range of signed 64-bit numbers. -/
def isI64 (n : Int) : Bool :=
  decide (-(i64Low : Int) ≤ n) && decide (n ≤ (i64Max : Int))

def isU64 (n : Int) : Bool :=
  decide (0 ≤ n) && decide (n ≤ (u64Max : Int))

theorem readDigits_le {base bound : Nat} {above : IntegerFault} {n m : Nat} {s : List Char}
    (start : n ≤ bound) (read : readDigits base bound above n s = .ok m) : m ≤ bound := by
  induction s generalizing n with
  | nil =>
    simp only [readDigits, Except.ok.injEq] at read
    omega
  | cons c rest ih =>
    simp only [readDigits] at read
    split at read
    · simp at read
    · split at read
      · exact ih (by assumption) read
      · simp at read

end Integer

end ServiceKit
