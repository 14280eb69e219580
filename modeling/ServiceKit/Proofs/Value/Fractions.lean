import ServiceKit.Proofs.Value.Capacity
import ServiceKit.Proofs.Value.Precision

namespace ServiceKit

/-! Capacities with a point, which are read in the binary format. -/

theorem Binary64.Near.abs_sub_le {x : Binary64} {q : ℚ} (near : x.Near q) :
    |x.magnitude - q| ≤ q / 2 ^ 53 + 1 / 2 ^ 64 := by
  have small : (2 : ℚ) ^ (leastExp - 1) ≤ 2 ^ (-64 : Int) := zpow_le_zpow_right₀ one_le_two (by decide)
  rw [zpow_neg, zpow_ofNat, inv_eq_one_div] at small
  exact near.trans (by gcongr)

theorem CapacityUnit.bytes_le (u : CapacityUnit) : u.bytes ≤ 2 ^ 40 := by
  cases u <;> decide

/-- No whole number is written with a point. -/
theorem Integer.readNat_point (bound : Nat) (whole frac : List Char) :
    ∃ fault, readNat 10 bound (whole ++ '.' :: frac) = .error fault := by
  cases read : readNat 10 bound (whole ++ '.' :: frac) with
  | error fault => exact ⟨fault, rfl⟩
  | ok n =>
    have point := isDigit_of_readNat read '.' (by simp)
    exact absurd point (by decide)

/-- What stands behind the first digits of a capacity and is not its unit is a point. -/
theorem Value.point_of_dropWhile {s rest : List Char} {c : Char} (counted : ∀ x ∈ s, isCapacityDigit x)
    (left : s.dropWhile Char.isDigit = c :: rest) : c = '.' ∧ ∀ x ∈ c :: rest, isCapacityDigit x := by
  have inside : ∀ x ∈ c :: rest, isCapacityDigit x := fun x member =>
    counted x (List.dropWhile_subset _ (left ▸ member))
  have notDigit : c.isDigit = false := by
    have head := List.head?_dropWhile_not Char.isDigit s
    simpa [left] using head
  exact ⟨by simpa [isCapacityDigit, notDigit] using inside c List.mem_cons_self, inside⟩

/-- Digits with a point before, behind or among them are read as the number they write, rounded to the binary
format. A second point is refused. -/
theorem Binary64.readDecimal?_point {whole more : List Char} (digits : ∀ c ∈ whole, c.isDigit)
    (counted : ∀ c ∈ more, Value.isCapacityDigit c) :
    readDecimal? (whole ++ '.' :: more) =
      if (∀ c ∈ more, c.isDigit) ∧ (whole ≠ [] ∨ more ≠ []) then
        some (ofDecimal? false (Integer.decimal (whole ++ more)) (-(more.length : Int)))
      else none := by
  have point : ∀ c ∈ ('.' :: more).head?, c.isDigit = false := by simp
  obtain ⟨taken, dropped⟩ := Value.span_append ('.' :: more) digits point
  have unsigned : ∀ {sign : Char} {rest : List Char}, sign.isDigit = false → sign ≠ '.' →
      whole ++ '.' :: more ≠ sign :: rest := by
    intro sign rest notDigit notPoint same
    cases whole with
    | nil => exact notPoint (List.cons.inj same).1.symm
    | cons first later =>
      obtain rfl := (List.cons.inj same).1
      exact absurd (digits first List.mem_cons_self) (by simp [notDigit])
  rw [Integer.decimal_eq_ofDigitChars, Nat.ofDigitChars_eq_foldl]
  unfold readDecimal?
  split
  next neg body signed =>
    have plain : neg = false ∧ body = whole ++ '.' :: more := by
      split at signed
      next same => exact absurd same (unsigned (by decide) (by decide))
      next same => exact absurd same (unsigned (by decide) (by decide))
      next => cases signed; exact ⟨rfl, rfl⟩
    obtain ⟨rfl, rfl⟩ := plain
    simp only [taken, dropped]
    cases left : more.dropWhile Char.isDigit with
    | nil =>
      have all : ∀ c ∈ more, c.isDigit := List.dropWhile_eq_nil_iff.mp left
      rw [List.takeWhile_eq_self_iff.mpr all]
      by_cases empty : whole = [] ∧ more = []
      · simp [empty]
      · rw [if_neg (by simpa using empty), if_pos ⟨all, not_and_or.mp empty⟩]
        rfl
    | cons second rest =>
      obtain ⟨rfl, -⟩ := Value.point_of_dropWhile counted left
      have stopped : ¬ ∀ c ∈ more, c.isDigit := fun all =>
        absurd (all '.' (List.dropWhile_subset _ (left ▸ List.mem_cons_self))) (by decide)
      simp [stopped]

namespace Value

/-- A capacity as texts write it with a point. There is a digit before the point or behind it. -/
structure PointedCapacity where
  whole : List Char
  frac : List Char
  gap : List Char
  unit : CapacityUnit
  name : String
  whole_digits : ∀ c ∈ whole, c.isDigit
  frac_digits : ∀ c ∈ frac, c.isDigit
  counted : whole ≠ [] ∨ frac ≠ []
  gap_blank : ∀ c ∈ gap, Text.isBlank c
  named : Text.toLower name ∈ unit.spellings

namespace PointedCapacity

def text (c : PointedCapacity) : String :=
  String.ofList (c.whole ++ '.' :: c.frac ++ c.gap ++ c.name.toList)

/-- The number before the unit. -/
def count (c : PointedCapacity) : ℚ :=
  Integer.decimal c.whole + Integer.fraction c.frac

/-- The bytes that a capacity writes, which need not be whole. -/
def bytes (c : PointedCapacity) : ℚ :=
  c.count * c.unit.bytes

theorem count_nonneg (c : PointedCapacity) : 0 ≤ c.count :=
  add_nonneg (Nat.cast_nonneg _) (Integer.fraction_nonneg c.frac)

theorem count_eq (c : PointedCapacity) :
    c.count = Integer.decimal (c.whole ++ c.frac) / 10 ^ c.frac.length := by
  rw [count, Integer.fraction, Integer.decimal_append]
  push_cast
  field_simp

end PointedCapacity

/-- Twice rounded to 53 bits and then to a whole number, a product of a number and a unit is off by little. -/
theorem abs_sub_mul_le {count scale x y n : ℚ} (natural : 0 ≤ count) (one : 1 ≤ scale) (scaled : scale ≤ 2 ^ 40)
    (first : |x - count| ≤ count / 2 ^ 53 + 1 / 2 ^ 64) (second : |y - x * scale| ≤ x * scale / 2 ^ 53 + 1 / 2 ^ 64)
    (last : |n - y| ≤ 1 / 2) : |n - count * scale| ≤ 1 + count * scale / 2 ^ 50 := by
  have product : |x * scale - count * scale| ≤ count * scale / 2 ^ 53 + scale / 2 ^ 64 := by
    rw [← sub_mul, abs_mul, abs_of_pos (by linarith : 0 < scale)]
    calc |x - count| * scale ≤ (count / 2 ^ 53 + 1 / 2 ^ 64) * scale := by gcongr
      _ = _ := by ring
  have positive : 0 ≤ count * scale := mul_nonneg natural (by linarith)
  rw [abs_le] at product second last ⊢
  constructor <;> linarith

theorem isCapacityDigit_of_isDigit {c : Char} (digit : c.isDigit) : isCapacityDigit c := by
  simp [isCapacityDigit, digit]

/-- A capacity with a point is always read, and up to rounding as the bytes that it writes, unless it is taken
for the most bytes that 64 bits can hold. -/
theorem readCapacity_pointed (c : PointedCapacity) {s : String} (padded : Text.Padded c.text s) :
    ∃ n, readCapacity (.str s) = .ok n ∧
      (n = Integer.u64Max ∨ |(n : ℚ) - c.bytes| ≤ 1 + c.bytes / 2 ^ 50) := by
  have frac : ∀ x ∈ c.frac, isCapacityDigit x := fun x member => isCapacityDigit_of_isDigit (c.frac_digits x member)
  have digits : ∀ x ∈ c.whole ++ '.' :: c.frac, isCapacityDigit x :=
    List.forall_mem_append.mpr ⟨fun x member => isCapacityDigit_of_isDigit (c.whole_digits x member),
      List.forall_mem_cons.mpr ⟨rfl, frac⟩⟩
  have nonempty : c.whole ++ '.' :: c.frac ≠ [] := by simp
  rw [readCapacity_padded digits nonempty c.gap_blank c.named padded, readScaled,
    Binary64.readDecimal?_point c.whole_digits frac, if_pos ⟨c.frac_digits, c.counted⟩]
  obtain ⟨fault, notWhole⟩ := Integer.readNat_point Integer.u64Max c.whole c.frac
  rw [notWhole]
  dsimp only
  cases scaled : (Binary64.ofDecimal? false (Integer.decimal (c.whole ++ c.frac)) (-(c.frac.length : Int))).bind
      (·.scaleMagnitude? c.unit.bytes) with
  | none => exact ⟨_, rfl, Or.inl rfl⟩
  | some y =>
    obtain ⟨x, read, scaled⟩ := Option.bind_eq_some_iff.mp scaled
    have first := (Binary64.near_of_ofDecimal? read).abs_sub_le
    have second := (Binary64.near_of_scaleMagnitude? scaled).abs_sub_le
    rw [← c.count_eq] at first
    rw [c.unit.magnitude_bytes] at second
    have one : (1 : ℚ) ≤ c.unit.bytes := by exact_mod_cast c.unit.bytes_pos
    have scale : (c.unit.bytes : ℚ) ≤ 2 ^ 40 := by exact_mod_cast c.unit.bytes_le
    exact ⟨_, rfl, (y.roundClamped_near Integer.u64Max).imp_right
      (abs_sub_mul_le c.count_nonneg one scale first second)⟩

/-- Digits that are read with a unit write a number, with a point or without. -/
theorem digits_of_readScaled {raw : String} {digits : List Char} {scale n : Nat}
    (counted : ∀ c ∈ digits, isCapacityDigit c) (read : readScaled raw digits scale = .ok n) :
    (digits ≠ [] ∧ ∀ c ∈ digits, c.isDigit) ∨
      ∃ whole frac : List Char, digits = whole ++ '.' :: frac ∧ (∀ c ∈ whole, c.isDigit) ∧
        (∀ c ∈ frac, c.isDigit) ∧ (whole ≠ [] ∨ frac ≠ []) := by
  have parts := List.takeWhile_append_dropWhile (p := Char.isDigit) (l := digits)
  have whole : ∀ c ∈ digits.takeWhile Char.isDigit, c.isDigit := digit_of_mem_takeWhile
  cases rest : digits.dropWhile Char.isDigit with
  | nil =>
    refine Or.inl ⟨?_, List.dropWhile_eq_nil_iff.mp rest⟩
    rintro rfl
    cases read
  | cons point frac =>
    rw [rest] at parts
    obtain ⟨rfl, inside⟩ := point_of_dropWhile counted rest
    have later := (List.forall_mem_cons.mp inside).2
    generalize digits.takeWhile Char.isDigit = before at parts whole
    subst parts
    refine Or.inr ⟨before, frac, rfl, whole, ?_⟩
    by_contra malformed
    rw [readScaled, Binary64.readDecimal?_point whole later, if_neg malformed] at read
    obtain ⟨fault, notWhole⟩ := Integer.readNat_point Integer.u64Max before frac
    rw [notWhole] at read
    cases read

theorem isCapacityDigit_toLower (c : Char) : isCapacityDigit c.toLower = isCapacityDigit c := by
  have low {x : Char} (digit : isCapacityDigit x) : x.toNat ≤ 57 := by
    rcases Bool.or_eq_true_iff.mp digit with digit | point
    · exact (Integer.isDigit_range digit).2
    · rw [eq_of_beq point]
      decide
  by_cases upper : c.isUpper
  · obtain ⟨above, -, moved⟩ := Text.isUpper_range upper
    rw [Bool.eq_false_iff.mpr fun digit => absurd (low digit) (by omega),
      Bool.eq_false_iff.mpr fun digit => absurd (low digit) (by omega)]
  · rw [Char.toLower_eq_of_not_isUpper upper]

/-- The case of the letters in it plays no part in where a capacity is cut. -/
theorem cut_toLower (s : String) :
    (Text.toLower s).toList.takeWhile isCapacityDigit = s.toList.takeWhile isCapacityDigit ∧
      String.ofList ((Text.toLower s).toList.dropWhile isCapacityDigit) =
        Text.toLower (String.ofList (s.toList.dropWhile isCapacityDigit)) := by
  have same : isCapacityDigit ∘ Char.toLower = isCapacityDigit := funext isCapacityDigit_toLower
  rw [Text.toLower, String.toList_ofList, List.takeWhile_map, List.dropWhile_map, same, Text.toLower,
    String.toList_ofList]
  exact ⟨map_toLower_numerals fun c member => isNumeral_of_isCapacityDigit (List.mem_takeWhile_imp member), rfl⟩

/-- Whatever text is read as a capacity writes one. -/
theorem written_of_readCapacity {s : String} {n : Nat} (read : readCapacity (.str s) = .ok n) :
    (∃ c : WrittenCapacity, Text.Padded c.text s) ∨ ∃ c : PointedCapacity, Text.Padded c.text s := by
  obtain ⟨sameDigits, sameRest⟩ := cut_toLower (Text.trim s)
  rw [readCapacity, readCapacityText_eq, sameDigits, sameRest, Text.trim_toLower] at read
  obtain ⟨lead, trail, before, after, spelled⟩ := Text.padded_trim s
  have parts := List.takeWhile_append_dropWhile (p := isCapacityDigit) (l := (Text.trim s).toList)
  have counted : ∀ c ∈ (Text.trim s).toList.takeWhile isCapacityDigit, isCapacityDigit c :=
    fun c member => List.mem_takeWhile_imp member
  generalize (Text.trim s).toList.takeWhile isCapacityDigit = digits at read parts counted
  generalize (Text.trim s).toList.dropWhile isCapacityDigit = rest at read parts
  obtain ⟨gap, behind, blank, blankBehind, spelledRest⟩ := Text.padded_trim (String.ofList rest)
  generalize Text.trim (String.ofList rest) = name at read spelledRest
  rw [String.toList_ofList] at spelledRest
  have padded : Text.Padded (String.ofList (digits ++ gap ++ name.toList)) s := by
    refine ⟨lead, behind ++ trail, before, List.forall_mem_append.mpr ⟨blankBehind, after⟩, ?_⟩
    rw [spelled, ← parts, spelledRest, String.toList_ofList]
    simp only [List.append_assoc]
  cases known : Json.lookup (Text.toLower name) capacityUnits with
  | none =>
    rw [known] at read
    cases read
  | some scale =>
    rw [known] at read
    obtain ⟨u, named, rfl⟩ := CapacityUnit.lookup_eq_some_iff.mp known
    rcases digits_of_readScaled counted read with ⟨nonempty, all⟩ | ⟨whole, frac, rfl, wholeDigits, fracDigits, some⟩
    · exact Or.inl ⟨⟨digits, gap, u, name, all, nonempty, blank, named⟩, padded⟩
    · exact Or.inr ⟨⟨whole, frac, gap, u, name, wholeDigits, fracDigits, some, blank, named⟩, padded⟩

end Value

end ServiceKit
