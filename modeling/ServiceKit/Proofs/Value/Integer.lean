import Mathlib.Data.Nat.Digits.Lemmas
import ServiceKit.Value.Scalar
import ServiceKit.Proofs.Outcome

namespace ServiceKit

namespace Integer

/-- The number that decimal digits write. -/
def decimal (digits : List Char) : Nat :=
  Nat.ofDigits 10 (digits.reverse.map fun c => c.toNat - '0'.toNat)

theorem decimal_cons (c : Char) (rest : List Char) :
    decimal (c :: rest) = (c.toNat - '0'.toNat) * 10 ^ rest.length + decimal rest := by
  rw [decimal, decimal, List.reverse_cons, List.map_append, Nat.ofDigits_append, List.length_map,
    List.length_reverse, List.map_singleton, Nat.ofDigits_singleton]
  ring

theorem decimal_eq_ofDigitChars (digits : List Char) : decimal digits = Nat.ofDigitChars 10 digits 0 := by
  have shifted : ∀ n, Nat.ofDigitChars 10 digits n = n * 10 ^ digits.length + decimal digits := by
    induction digits with
    | nil => simp [decimal]
    | cons c rest ih =>
      intro n
      rw [Nat.ofDigitChars_cons, ih, decimal_cons, List.length_cons, pow_succ]
      ring
  rw [shifted, Nat.zero_mul, Nat.zero_add]

theorem isDigit_range {c : Char} (digit : c.isDigit) : '0'.toNat ≤ c.toNat ∧ c.toNat ≤ '9'.toNat := by
  simpa [Char.isDigit, UInt32.le_iff_toNat_le] using digit

theorem digitValue?_of_isDigit {c : Char} (digit : c.isDigit) :
    digitValue? 10 c = some (c.toNat - '0'.toNat) := by
  have range := isDigit_range digit
  have small : '0' ≤ c ∧ c ≤ '9' := range
  have value : c.toNat - 48 < 10 := by
    have high : c.toNat ≤ 57 := range.2
    omega
  rw [digitValue?, if_pos small]
  simp [value]

theorem decimal_lt {digits : List Char} (all : ∀ c ∈ digits, c.isDigit) :
    decimal digits < 10 ^ digits.length := by
  induction digits with
  | nil => exact Nat.one_pos
  | cons c rest ih =>
    obtain ⟨digit, later⟩ := List.forall_mem_cons.mp all
    have low : decimal rest < 10 ^ rest.length := ih later
    have high : c.toNat - '0'.toNat ≤ 9 := by
      have range : c.toNat ≤ 57 := (isDigit_range digit).2
      have zero : '0'.toNat = 48 := rfl
      omega
    rw [decimal_cons, List.length_cons, pow_succ]
    have top := Nat.mul_le_mul_right (10 ^ rest.length) high
    omega

/-- Digits are read as the number they write, unless that is too large. -/
theorem readDigits_digits {bound n : Nat} {above : IntegerFault} {digits : List Char}
    (all : ∀ c ∈ digits, c.isDigit) (start : n ≤ bound) :
    readDigits 10 bound above n digits =
      if n * 10 ^ digits.length + decimal digits ≤ bound then .ok (n * 10 ^ digits.length + decimal digits)
      else .error above := by
  induction digits generalizing n with
  | nil => simp [readDigits, decimal, start]
  | cons c rest ih =>
    obtain ⟨digit, later⟩ := List.forall_mem_cons.mp all
    have total : n * 10 ^ (c :: rest).length + decimal (c :: rest) =
        (10 * n + (c.toNat - '0'.toNat)) * 10 ^ rest.length + decimal rest := by
      rw [decimal_cons, List.length_cons, pow_succ]
      ring
    rw [readDigits, digitValue?_of_isDigit digit, total]
    dsimp only
    by_cases fits : 10 * n + (c.toNat - '0'.toNat) ≤ bound
    · rw [if_pos fits]
      exact ih later fits
    · have grown : 10 * n + (c.toNat - '0'.toNat) ≤
          (10 * n + (c.toNat - '0'.toNat)) * 10 ^ rest.length :=
        Nat.le_mul_of_pos_right _ (Nat.pow_pos (by decide))
      rw [if_neg fits, if_neg (by omega)]

theorem readNat_digits {bound : Nat} {digits : List Char} (all : ∀ c ∈ digits, c.isDigit)
    (nonempty : digits ≠ []) :
    readNat 10 bound digits = if decimal digits ≤ bound then .ok (decimal digits) else .error .tooLarge := by
  have read : readDigits 10 bound .tooLarge 0 digits = _ := readDigits_digits all (Nat.zero_le bound)
  rw [Nat.zero_mul, Nat.zero_add] at read
  rw [← read]
  unfold readNat
  split
  · exact absurd rfl nonempty
  · exact absurd (all '+' List.mem_cons_self) (by decide)
  · exact absurd (all '+' List.mem_cons_self) (by decide)
  · rfl

theorem readInt_digits {low high : Nat} {digits : List Char} (all : ∀ c ∈ digits, c.isDigit)
    (nonempty : digits ≠ []) :
    readInt low high digits =
      if decimal digits ≤ high then .ok (Int.ofNat (decimal digits)) else .error .tooLarge := by
  have read : readDigits 10 high .tooLarge 0 digits = _ := readDigits_digits all (Nat.zero_le high)
  rw [Nat.zero_mul, Nat.zero_add] at read
  have plain : readInt low high digits = (readDigits 10 high .tooLarge 0 digits).map Int.ofNat := by
    unfold readInt
    split
    · exact absurd rfl nonempty
    · exact absurd (all '+' List.mem_cons_self) (by decide)
    · exact absurd (all '-' List.mem_cons_self) (by decide)
    · exact absurd (all '+' List.mem_cons_self) (by decide)
    · exact absurd (all '-' List.mem_cons_self) (by decide)
    · rfl
  rw [plain, read]
  split_ifs <;> rfl

theorem readInt_minus_digits {low high : Nat} {digits : List Char} (all : ∀ c ∈ digits, c.isDigit)
    (nonempty : digits ≠ []) :
    readInt low high ('-' :: digits) =
      if decimal digits ≤ low then .ok (-Int.ofNat (decimal digits)) else .error .tooSmall := by
  have read : readDigits 10 low .tooSmall 0 digits = _ := readDigits_digits all (Nat.zero_le low)
  rw [Nat.zero_mul, Nat.zero_add] at read
  have signed : readInt low high ('-' :: digits) =
      (readDigits 10 low .tooSmall 0 digits).map fun n => -Int.ofNat n := by
    obtain ⟨first, rest, rfl⟩ := List.exists_cons_of_ne_nil nonempty
    rfl
  rw [signed, read]
  split_ifs <;> rfl

end Integer

theorem Integer.readI64_range {s : String} {n : Int} (read : readI64 s = .ok n) :
    -(i64Low : Int) ≤ n ∧ n ≤ (i64Max : Int) := by
  unfold readI64 readInt at read
  split at read
  · cases read
  · cases read
  · cases read
  · obtain ⟨m, digits, rfl⟩ := Outcome.map_ok read
    have bound := readDigits_le (Nat.zero_le _) digits
    simp only [Int.ofNat_eq_natCast]
    omega
  · obtain ⟨m, digits, rfl⟩ := Outcome.map_ok read
    have bound := readDigits_le (Nat.zero_le _) digits
    simp only [Int.ofNat_eq_natCast]
    omega
  · obtain ⟨m, digits, rfl⟩ := Outcome.map_ok read
    have bound := readDigits_le (Nat.zero_le _) digits
    simp only [Int.ofNat_eq_natCast]
    omega

theorem Number.toI64?_range {x : Number} {n : Int} (read : x.toI64? = some n) :
    -(Integer.i64Low : Int) ≤ n ∧ n ≤ (Integer.i64Max : Int) := by
  cases x with
  | float f => cases read
  | int m =>
    simp only [Number.toI64?, Option.ite_none_right_eq_some, Option.some.injEq] at read
    obtain ⟨inRange, rfl⟩ := read
    simpa [Integer.isI64] using inRange

namespace Value

/-- Whatever its notation, an integer that is read has 64 bits. -/
theorem readInt_range {v : Json} {n : Int} (read : readInt v = .ok n) :
    -(Integer.i64Low : Int) ≤ n ∧ n ≤ (Integer.i64Max : Int) := by
  cases v with
  | num x =>
    simp only [readInt] at read
    cases whole : x.toI64? with
    | none => simp [whole] at read
    | some m =>
      rw [whole] at read
      cases read
      exact Number.toI64?_range whole
  | str s => exact Integer.readI64_range (Outcome.mapError_ok read)
  | null => cases read
  | bool b => cases read
  | arr items => cases read
  | obj fields => cases read

end Value

end ServiceKit
