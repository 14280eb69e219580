import ServiceKit.Json.Basic
import ServiceKit.Proofs.Text.Trimming
import ServiceKit.Proofs.Value.Integer

namespace ServiceKit

/-- The characters of which texts of numbers are made. -/
def isNumeral (c : Char) : Bool :=
  c.isDigit || c == '-' || c == '+' || c == '.' || c == 'e'

theorem isNumeral_of_isDigit {c : Char} (digit : c.isDigit) : isNumeral c := by
  simp [isNumeral, digit]

theorem isBlank_of_isNumeral {c : Char} (numeral : isNumeral c) : Text.isBlank c = false := by
  simp only [isNumeral, Bool.or_eq_true, beq_iff_eq] at numeral
  rcases numeral with (((digit | rfl) | rfl) | rfl) | rfl
  · exact Text.isBlank_of_isDigit digit
  all_goals decide

/-- Texts of numbers have no capital letters. -/
theorem map_toLower_numerals {s : List Char} (all : ∀ c ∈ s, isNumeral c) : s.map Char.toLower = s := by
  have same : ∀ c ∈ s, c.toLower = c := by
    intro c member
    have numeral := all c member
    simp only [isNumeral, Bool.or_eq_true, beq_iff_eq] at numeral
    rcases numeral with (((digit | rfl) | rfl) | rfl) | rfl
    · refine Char.toLower_eq_of_not_isUpper fun upper => ?_
      have high : c.toNat ≤ 57 := (Integer.isDigit_range digit).2
      have low : 65 ≤ c.toNat := (Text.isUpper_range upper).1
      omega
    all_goals decide
  rw [List.map_congr_left same, List.map_id']

theorem toDigits_digits (n : Nat) : ∀ c ∈ Nat.toDigits 10 n, c.isDigit :=
  fun _ member => Nat.isDigit_of_mem_toDigits (by decide) (by decide) member

namespace Integer

theorem decimal_toDigits (n : Nat) : decimal (Nat.toDigits 10 n) = n := by
  rw [decimal_eq_ofDigitChars, Nat.ofDigitChars_ten_toDigits]

theorem toList_toString_ofNat (n : Nat) : (toString (Int.ofNat n)).toList = Nat.toDigits 10 n := by
  simp [Int.repr]

theorem toList_toString_negSucc (n : Nat) :
    (toString (Int.negSucc n)).toList = '-' :: Nat.toDigits 10 (n + 1) := by
  simp [Int.repr]

theorem isNumeral_of_mem_toString (i : Int) : ∀ c ∈ (toString i).toList, isNumeral c := by
  cases i with
  | ofNat n =>
    rw [toList_toString_ofNat]
    exact fun c member => isNumeral_of_isDigit (toDigits_digits n c member)
  | negSucc n =>
    rw [toList_toString_negSucc]
    exact List.forall_mem_cons.mpr
      ⟨by decide, fun c member => isNumeral_of_isDigit (toDigits_digits _ c member)⟩

theorem toList_toString_ne_nil (i : Int) : (toString i).toList ≠ [] := by
  cases i with
  | ofNat n =>
    rw [toList_toString_ofNat]
    exact Nat.toDigits_ne_nil
  | negSucc n =>
    rw [toList_toString_negSucc]
    exact List.cons_ne_nil _ _

theorem eq_of_toString_eq {i : Int} {n : Nat} (same : toString i = toString n) : i = n := by
  have digits : (toString i).toList = Nat.toDigits 10 n := by
    rw [same, Nat.toString_eq_ofList_toDigits, String.toList_ofList]
  cases i with
  | ofNat m =>
    rw [toList_toString_ofNat] at digits
    have value : decimal (Nat.toDigits 10 m) = n := by rw [digits, decimal_toDigits]
    rw [← value, decimal_toDigits]
    rfl
  | negSucc m =>
    rw [toList_toString_negSucc] at digits
    exact absurd (toDigits_digits n '-' (digits ▸ List.mem_cons_self)) (by decide)

/-- An unsigned reader takes the text of an integer for that integer, or refuses it. -/
theorem readU64_toString (i : Int) :
    ∃ fault, readU64 (toString i) = if isU64 i then .ok i.toNat else .error fault := by
  cases i with
  | ofNat n =>
    refine ⟨.tooLarge, ?_⟩
    rw [readU64, toList_toString_ofNat, readNat_digits (toDigits_digits n) Nat.toDigits_ne_nil, decimal_toDigits]
    simp [isU64]
  | negSucc n =>
    refine ⟨.badDigit, ?_⟩
    rw [readU64, toList_toString_negSucc]
    simp [isU64, readNat, readDigits, digitValue?]

theorem readI64_toString (i : Int) :
    ∃ fault, readI64 (toString i) = if isI64 i then .ok i else .error fault := by
  cases i with
  | ofNat n =>
    have fits : isI64 (Int.ofNat n) = decide (n ≤ i64Max) := by simp [isI64]
    refine ⟨.tooLarge, ?_⟩
    rw [readI64, toList_toString_ofNat, readInt_digits (toDigits_digits n) Nat.toDigits_ne_nil, decimal_toDigits,
      fits]
    simp only [decide_eq_true_eq]
  | negSucc n =>
    have fits : isI64 (Int.negSucc n) = decide (n + 1 ≤ i64Low) := by
      simp only [isI64, ← Bool.decide_and, decide_eq_decide]
      omega
    refine ⟨.tooSmall, ?_⟩
    rw [readI64, toList_toString_negSucc, readInt_minus_digits (toDigits_digits _) Nat.toDigits_ne_nil,
      decimal_toDigits, fits]
    simp only [decide_eq_true_eq]
    rfl

theorem isDigit_of_digitValue? {c : Char} {d : Nat} (value : digitValue? 10 c = some d) : c.isDigit := by
  obtain ⟨found, small⟩ := Option.filter_eq_some_iff.mp value
  have least {letter : Char} (above : letter ≤ c) : letter.toNat ≤ c.toNat := above
  have small : d < 10 := of_decide_eq_true small
  split_ifs at found with decimal lower upper
  · simpa [Char.isDigit, Char.le_def] using decimal
  · have letter : 97 ≤ c.toNat := least lower.1
    have value : c.toNat - 87 = d := Option.some.inj found
    omega
  · have letter : 65 ≤ c.toNat := least upper.1
    have value : c.toNat - 55 = d := Option.some.inj found
    omega

theorem isDigit_of_readDigits {bound n m : Nat} {above : IntegerFault} {s : List Char}
    (read : readDigits 10 bound above n s = .ok m) : ∀ c ∈ s, c.isDigit := by
  induction s generalizing n with
  | nil => simp
  | cons c rest ih =>
    rw [readDigits] at read
    split at read
    · cases read
    · next d value =>
      split_ifs at read
      exact List.forall_mem_cons.mpr ⟨isDigit_of_digitValue? value, ih read⟩

/-- Whatever is read as a whole number is made of digits and a plus. -/
theorem isDigit_of_readNat {bound n : Nat} {s : List Char} (read : readNat 10 bound s = .ok n) :
    ∀ c ∈ s, c.isDigit ∨ c = '+' := by
  unfold readNat at read
  split at read
  · cases read
  · cases read
  · exact List.forall_mem_cons.mpr ⟨Or.inr rfl, fun c member => Or.inl (isDigit_of_readDigits read c member)⟩
  · exact fun c member => Or.inl (isDigit_of_readDigits read c member)

/-- Whatever is read as an integer is made of digits and a sign. -/
theorem isDigit_of_readInt {low high : Nat} {s : List Char} {i : Int} (read : readInt low high s = .ok i) :
    ∀ c ∈ s, c.isDigit ∨ c = '+' ∨ c = '-' := by
  have digits {bound : Nat} {above : IntegerFault} {digits : List Char} {f : Nat → Int}
      (read : (readDigits 10 bound above 0 digits).map f = .ok i) : ∀ c ∈ digits, c.isDigit ∨ c = '+' ∨ c = '-' := by
    obtain ⟨n, plain, -⟩ := Outcome.map_ok read
    exact fun c member => Or.inl (isDigit_of_readDigits plain c member)
  unfold readInt at read
  split at read
  · cases read
  · cases read
  · cases read
  · exact List.forall_mem_cons.mpr ⟨Or.inr (Or.inl rfl), digits read⟩
  · exact List.forall_mem_cons.mpr ⟨Or.inr (Or.inr rfl), digits read⟩
  · exact digits read

end Integer

namespace Binary64

theorem render_numeral (l : Layout) (x : Binary64) : ∀ c ∈ (x.render l).toList, isNumeral c := by
  have number : ∀ n, ∀ c ∈ Nat.toDigits 10 n, isNumeral c := fun n c member =>
    isNumeral_of_isDigit (toDigits_digits n c member)
  have zero : ∀ n, ∀ c ∈ zeros n, isNumeral c := fun n c member => by
    rw [List.eq_of_mem_replicate member]
    decide
  unfold render
  generalize x.shortest = short
  obtain ⟨n, g⟩ := short
  dsimp -zeta only
  extract_lets digits count t mantissa e sign body
  have all : ∀ c ∈ digits, isNumeral c := number n
  clear_value digits
  have front : ∀ k, ∀ c ∈ digits.take k, isNumeral c := fun k c member => all c (List.mem_of_mem_take member)
  have back : ∀ k, ∀ c ∈ digits.drop k, isNumeral c := fun k c member => all c (List.mem_of_mem_drop member)
  have marks : isNumeral '0' ∧ isNumeral '.' ∧ isNumeral 'e' ∧ isNumeral '-' ∧ isNumeral '+' := by decide
  have mantissas : ∀ c ∈ mantissa, isNumeral c := by
    unfold mantissa
    split
    · exact all
    · rw [List.forall_mem_cons] at all
      simpa [marks] using all
    · simp
  have signs : ∀ c ∈ sign, isNumeral c := by
    unfold sign
    split_ifs <;> simp [marks]
  have bodies : ∀ c ∈ body, isNumeral c := by
    unfold body
    split_ifs <;> simp only [List.forall_mem_cons, List.forall_mem_append, List.not_mem_nil, marks, true_and,
      IsEmpty.forall_iff, implies_true, and_true]
    · exact ⟨all, zero _⟩
    · exact ⟨all, zero _⟩
    · exact ⟨front _, back _⟩
    · exact ⟨zero _, all⟩
    · exact ⟨⟨mantissas, signs⟩, number _⟩
  rw [String.toList_ofList]
  split_ifs
  · exact List.forall_mem_cons.mpr ⟨by decide, bodies⟩
  · exact bodies

/-- With its point kept, a number of the format is never written as digits alone. -/
theorem render_pointed {l : Layout} (kept : l.keepPoint) (x : Binary64) :
    '.' ∈ (x.render l).toList ∨ 'e' ∈ (x.render l).toList := by
  unfold render
  generalize x.shortest = short
  obtain ⟨n, g⟩ := short
  dsimp only
  split_ifs <;> simp [*]

end Binary64

namespace Number

theorem render_numeral (n : Number) : ∀ c ∈ n.render.toList, isNumeral c := by
  cases n with
  | int i => exact Integer.isNumeral_of_mem_toString i
  | float x => exact x.render_numeral layout

theorem render_ne_empty (n : Number) : n.render ≠ "" := by
  refine mt String.toList_eq_nil_iff.mpr ?_
  cases n with
  | int i => exact Integer.toList_toString_ne_nil i
  | float x =>
    have point := x.render_pointed (l := layout) rfl
    intro empty
    rw [render] at empty
    simp [empty] at point

/-- White space around the text of a number is all that trimming takes from it. -/
theorem trim_padded {n : Number} {s : String} (padded : Text.Padded n.render s) : Text.trim s = n.render :=
  padded.trim (fun c member => isBlank_of_isNumeral (n.render_numeral c (List.mem_of_head? member)))
    fun c member => isBlank_of_isNumeral (n.render_numeral c (List.mem_of_getLast? member))

end Number

end ServiceKit
