import ServiceKit.Proofs.Json.Fields
import ServiceKit.Proofs.Number.Numerals
import ServiceKit.Proofs.Number.Rounding
import ServiceKit.Proofs.Value.Duration

namespace ServiceKit

/-- The units of capacities, in powers of a thousand or of 1024. -/
inductive CapacityUnit where
  | byte
  | kilobyte
  | kibibyte
  | megabyte
  | mebibyte
  | gigabyte
  | gibibyte
  | terabyte
  | tebibyte
deriving DecidableEq, Repr

namespace CapacityUnit

def bytes : CapacityUnit → Nat
  | byte => 1
  | kilobyte => 1000
  | kibibyte => 1024
  | megabyte => 1000 ^ 2
  | mebibyte => 1024 ^ 2
  | gigabyte => 1000 ^ 3
  | gibibyte => 1024 ^ 3
  | terabyte => 1000 ^ 4
  | tebibyte => 1024 ^ 4

/-- The names of a unit in lower case. Bytes need none. -/
def spellings : CapacityUnit → List String
  | byte => ["", "b"]
  | kilobyte => ["kb", "k"]
  | kibibyte => ["kib"]
  | megabyte => ["mb", "m"]
  | mebibyte => ["mib"]
  | gigabyte => ["gb", "g"]
  | gibibyte => ["gib"]
  | terabyte => ["tb", "t"]
  | tebibyte => ["tib"]

theorem bytes_pos (u : CapacityUnit) : 0 < u.bytes := by
  cases u <;> decide

/-- The units are those that readers know. -/
theorem lookup_eq_some_iff {name : String} {n : Nat} :
    Json.lookup name Value.capacityUnits = some n ↔ ∃ u : CapacityUnit, name ∈ u.spellings ∧ u.bytes = n := by
  constructor
  · intro found
    have listed : ∀ e ∈ Value.capacityUnits,
        ∃ u ∈ [byte, kilobyte, kibibyte, megabyte, mebibyte, gigabyte, gibibyte, terabyte, tebibyte],
          e.1 ∈ u.spellings ∧ u.bytes = e.2 := by decide
    obtain ⟨u, -, named⟩ := listed (name, n) (Json.mem_of_lookup found)
    exact ⟨u, named⟩
  · rintro ⟨u, named, rfl⟩
    have known : ∀ name ∈ u.spellings, Json.lookup name Value.capacityUnits = some u.bytes := by
      cases u <;> decide
    exact known name named

/-- A unit is spelled with letters alone. -/
theorem spelling_chars (u : CapacityUnit) :
    ∀ name ∈ u.spellings, ∀ c ∈ name.toList,
      Value.isCapacityDigit c = false ∧ Text.isBlank c = false := by
  have checked : (u.spellings.all fun name =>
      name.toList.all fun c => !Value.isCapacityDigit c && !Text.isBlank c) = true := by
    cases u <;> decide
  intro name member c inside
  simpa using List.all_eq_true.mp (List.all_eq_true.mp checked name member) c inside

/-- The binary format holds every unit as it is. -/
theorem magnitude_bytes (u : CapacityUnit) : (Binary64.ofInt u.bytes).magnitude = u.bytes := by
  have whole : (Binary64.ofInt u.bytes).ratio.1 = u.bytes * (Binary64.ofInt u.bytes).ratio.2 := by
    cases u <;> decide
  have positive : ((Binary64.ofInt u.bytes).ratio.2 : ℚ) ≠ 0 := by exact_mod_cast (Binary64.ratio_pos _).ne'
  rw [← Binary64.ratio_eq, whole, Nat.cast_mul, mul_div_cancel_right₀ _ positive]

theorem one_le_magnitude_bytes (u : CapacityUnit) : 1 ≤ (Binary64.ofInt u.bytes).magnitude := by
  rw [magnitude_bytes]
  exact_mod_cast u.bytes_pos

end CapacityUnit

/-- Digits alone are read as the number they write, rounded to the binary format. -/
theorem Binary64.readDecimal?_digits {digits : List Char} (all : ∀ c ∈ digits, c.isDigit)
    (nonempty : digits ≠ []) : readDecimal? digits = some (ofDecimal? false (Integer.decimal digits) 0) := by
  have unsigned : ∀ {sign : Char} {rest : List Char}, sign.isDigit = false → digits ≠ sign :: rest := by
    rintro sign rest notDigit rfl
    exact absurd (all sign List.mem_cons_self) (by simp [notDigit])
  have taken : digits.takeWhile Char.isDigit = digits := List.takeWhile_eq_self_iff.mpr all
  have dropped : digits.dropWhile Char.isDigit = [] := List.dropWhile_eq_nil_iff.mpr all
  rw [Integer.decimal_eq_ofDigitChars, Nat.ofDigitChars_eq_foldl]
  unfold readDecimal?
  split
  next neg body signed =>
    have plain : neg = false ∧ body = digits := by
      split at signed
      · exact absurd rfl (unsigned (by decide))
      · exact absurd rfl (unsigned (by decide))
      · cases signed
        exact ⟨rfl, rfl⟩
    obtain ⟨rfl, rfl⟩ := plain
    simp [taken, dropped, nonempty]

namespace Value

/-- A capacity as texts write it: digits, perhaps white space, and a name of the unit in any case. -/
structure WrittenCapacity where
  digits : List Char
  gap : List Char
  unit : CapacityUnit
  name : String
  all_digits : ∀ c ∈ digits, c.isDigit
  counted : digits ≠ []
  gap_blank : ∀ c ∈ gap, Text.isBlank c
  named : Text.toLower name ∈ unit.spellings

namespace WrittenCapacity

def text (c : WrittenCapacity) : String :=
  String.ofList (c.digits ++ c.gap ++ c.name.toList)

def count (c : WrittenCapacity) : Nat :=
  Integer.decimal c.digits

def bytes (c : WrittenCapacity) : Nat :=
  c.count * c.unit.bytes

/-- A number as a capacity without a unit. -/
def ofNat (n : Nat) : WrittenCapacity where
  digits := Nat.toDigits 10 n
  gap := []
  unit := .byte
  name := ""
  all_digits := toDigits_digits n
  counted := Nat.toDigits_ne_nil
  gap_blank := List.forall_mem_nil _
  named := List.mem_cons_self

theorem count_ofNat (n : Nat) : (ofNat n).count = n :=
  Integer.decimal_toDigits n

theorem bytes_ofNat (n : Nat) : (ofNat n).bytes = n := by
  rw [bytes, count_ofNat]
  exact Nat.mul_one n

end WrittenCapacity

theorem isCapacityDigit_of_isBlank {c : Char} (blank : Text.isBlank c) : isCapacityDigit c = false := by
  refine Bool.eq_false_iff.mpr fun digit => ?_
  rcases Bool.or_eq_true_iff.mp digit with digit | point
  · simp [Text.isBlank_of_isDigit digit] at blank
  · obtain rfl := eq_of_beq point
    exact absurd blank (by decide)

theorem isNumeral_of_isCapacityDigit {c : Char} (digit : isCapacityDigit c) : isNumeral c := by
  rcases Bool.or_eq_true_iff.mp digit with digit | point
  · exact isNumeral_of_isDigit digit
  · rw [eq_of_beq point]
    decide

/-- Of a padded capacity its digits are left after trimming, and behind them is its unit, if it is spelled
at all. -/
theorem exists_rest {digits gap : List Char} {u : CapacityUnit} {name s : String}
    (counted : ∀ x ∈ digits, isCapacityDigit x) (nonempty : digits ≠ []) (blank : ∀ x ∈ gap, Text.isBlank x)
    (named : Text.toLower name ∈ u.spellings)
    (padded : Text.Padded (String.ofList (digits ++ gap ++ name.toList)) s) :
    ∃ rest, (Text.toLower (Text.trim s)).toList = digits ++ rest ∧
      (∀ x ∈ rest.head?, isCapacityDigit x = false) ∧
      Text.trim (String.ofList rest) = Text.toLower name := by
  obtain ⟨lead, trail, before, after, spelled⟩ := padded
  have lower {blanks : List Char} (all : ∀ x ∈ blanks, Text.isBlank x) :
      ∀ x ∈ blanks.map Char.toLower, Text.isBlank x := by
    simpa [Text.isBlank_toLower] using all
  have letters := u.spelling_chars _ named
  have numerals : ∀ x ∈ digits, isNumeral x := fun x member => isNumeral_of_isCapacityDigit (counted x member)
  rw [Text.toLower, String.toList_ofList] at letters
  rw [← Text.trim_toLower]
  simp only [Text.trim, Text.toLower, String.toList_ofList, String.ofList_inj, spelled, List.map_append,
    map_toLower_numerals numerals]
  have leads := lower before
  have trails := lower after
  have gaps := lower blank
  generalize lead.map Char.toLower = lead at leads ⊢
  generalize trail.map Char.toLower = trail at trails ⊢
  generalize gap.map Char.toLower = gap at gaps ⊢
  generalize name.toList.map Char.toLower = name at letters ⊢
  have digit : ∀ x ∈ digits, Text.isBlank x = false := fun x member => isBlank_of_isNumeral (numerals x member)
  by_cases unnamed : name = []
  · refine ⟨[], ?_, by simp, by simp [unnamed, Text.trimChars, Text.dropBlank, Text.dropBlankEnd]⟩
    rw [unnamed, List.append_nil, List.append_nil, ← List.append_assoc, List.append_assoc (lead ++ digits)]
    refine Text.trimChars_padded leads ?_ (fun x member => digit x (List.mem_of_head? member))
      (fun x member => digit x (List.mem_of_getLast? member))
    exact List.forall_mem_append.mpr ⟨gaps, trails⟩
  · have last : ∀ {front : List Char}, ∀ x ∈ (front ++ name).getLast?, Text.isBlank x = false := by
      intro front x member
      rw [List.getLast?_append_of_ne_nil _ unnamed] at member
      exact (letters x (List.mem_of_getLast? member)).2
    refine ⟨gap ++ name, ?_, ?_, ?_⟩
    · rw [← List.append_assoc digits]
      refine Text.trimChars_padded leads trails ?_ last
      intro x member
      rw [List.append_assoc, List.head?_append_of_ne_nil _ nonempty] at member
      exact digit x (List.mem_of_head? member)
    · intro x member
      rcases List.mem_append.mp (List.mem_of_head? member) with blank | letter
      · exact isCapacityDigit_of_isBlank (gaps x blank)
      · exact (letters x letter).1
    · have none : ∀ x ∈ ([] : List Char), Text.isBlank x := by simp
      have first : ∀ x ∈ name.head?, Text.isBlank x = false := fun x member =>
        (letters x (List.mem_of_head? member)).2
      have cut := Text.trimChars_padded gaps none first (@last [])
      rwa [List.append_nil] at cut

/-- What the digits of a capacity and the bytes of its unit come to. -/
def readScaled (raw : String) (digits : List Char) (scale : Nat) : Except ValueFault Nat :=
  match Integer.readNat 10 Integer.u64Max digits with
  | .ok n => if n * scale ≤ Integer.u64Max then .ok (n * scale) else .error (.capacityOverflow raw)
  | .error _ =>
    match Binary64.readDecimal? digits with
    | none => .error (.capacityText raw)
    | some x =>
      match x.bind (·.scaleMagnitude? scale) with
      | some product => .ok (product.roundClamped Integer.u64Max)
      | none => .ok Integer.u64Max

theorem readCapacityText_eq (raw : String) :
    readCapacityText raw =
      match Json.lookup (Text.trim (String.ofList (raw.toList.dropWhile isCapacityDigit))) capacityUnits with
      | none => .error (.capacityUnit (Text.trim (String.ofList (raw.toList.dropWhile isCapacityDigit))))
      | some scale => readScaled raw (raw.toList.takeWhile isCapacityDigit) scale := by
  unfold readCapacityText
  dsimp only
  cases Json.lookup (Text.trim (String.ofList (raw.toList.dropWhile isCapacityDigit))) capacityUnits with
  | none => rfl
  | some scale =>
    unfold readScaled
    generalize Integer.readNat 10 Integer.u64Max (raw.toList.takeWhile isCapacityDigit) = whole
    generalize Binary64.readDecimal? (raw.toList.takeWhile isCapacityDigit) = decimal
    cases whole with
    | ok n => rfl
    | error fault => cases decimal <;> rfl

/-- A padded capacity is read by its digits and its unit. -/
theorem readCapacity_padded {digits gap : List Char} {u : CapacityUnit} {name s : String}
    (counted : ∀ x ∈ digits, isCapacityDigit x) (nonempty : digits ≠ []) (blank : ∀ x ∈ gap, Text.isBlank x)
    (named : Text.toLower name ∈ u.spellings)
    (padded : Text.Padded (String.ofList (digits ++ gap ++ name.toList)) s) :
    readCapacity (.str s) = readScaled (Text.toLower (Text.trim s)) digits u.bytes := by
  obtain ⟨rest, text, stop, unit⟩ := exists_rest counted nonempty blank named padded
  have cut := span_append rest counted stop
  have known := CapacityUnit.lookup_eq_some_iff.mpr ⟨u, named, rfl⟩
  rw [readCapacity, readCapacityText_eq, text, cut.1, cut.2, unit, known]

/-- A count beyond 64 bits is read in the binary format. There it keeps the highest bit that it has
reached, and so the clamp is what is left of it, whatever the unit. -/
theorem clamped_of_count_ge {digits : List Char} (all : ∀ c ∈ digits, c.isDigit) (nonempty : digits ≠ [])
    (wide : 2 ^ 64 ≤ Integer.decimal digits) (u : CapacityUnit) :
    ∃ read : Option Binary64, Binary64.readDecimal? digits = some read ∧
      ∀ product, read.bind (·.scaleMagnitude? u.bytes) = some product →
        product.roundClamped Integer.u64Max = Integer.u64Max := by
  refine ⟨_, Binary64.readDecimal?_digits all nonempty, fun product scaled => ?_⟩
  obtain ⟨x, read, grown⟩ := Option.bind_eq_some_iff.mp scaled
  have reached := Binary64.two_pow_le_of_scaleMagnitude? (Binary64.two_pow_le_of_ofDecimal? wide read)
    u.one_le_magnitude_bytes grown
  have bound : (Integer.u64Max : ℚ) ≤ 2 ^ 64 := by norm_num [Integer.u64Max]
  exact Binary64.roundClamped_of_le (bound.trans reached)

/-- A count beyond 64 bits is taken for the most bytes that 64 bits can hold. Any other is read exactly, or
refused for its bytes. -/
theorem readCapacity_written (c : WrittenCapacity) {s : String} (padded : Text.Padded c.text s) :
    readCapacity (.str s) =
      if 2 ^ 64 ≤ c.count then .ok (2 ^ 64 - 1)
      else if c.bytes < 2 ^ 64 then .ok c.bytes
      else .error (.capacityOverflow (Text.toLower (Text.trim s))) := by
  have limit : Integer.u64Max = 2 ^ 64 - 1 := rfl
  have all : ∀ x ∈ c.digits, isCapacityDigit x := fun x member => by
    simp [isCapacityDigit, c.all_digits x member]
  have counted : Integer.readNat 10 Integer.u64Max c.digits =
      if c.count ≤ Integer.u64Max then .ok c.count else .error .tooLarge :=
    Integer.readNat_digits c.all_digits c.counted
  rw [readCapacity_padded all c.counted c.gap_blank c.named padded, readScaled, counted]
  by_cases wide : 2 ^ 64 ≤ c.count
  · obtain ⟨binary, known, clamped⟩ := clamped_of_count_ge c.all_digits c.counted wide c.unit
    rw [if_neg (by omega), if_pos wide, ← limit, known]
    cases product : binary.bind (·.scaleMagnitude? c.unit.bytes) with
    | none => simp only [product]
    | some x => simp only [product, clamped x product]
  · rw [if_pos (by omega), if_neg wide]
    have same : c.count * c.unit.bytes ≤ Integer.u64Max ↔ c.bytes < 2 ^ 64 := by
      rw [WrittenCapacity.bytes]
      omega
    exact if_congr same rfl rfl

/-- What a capacity should be read as: its bytes where 64 bits hold them, and an error where they do not. -/
def CountedExactly (c : WrittenCapacity) (read : Except ValueFault Nat) : Prop :=
  (c.bytes < 2 ^ 64 → read = .ok c.bytes) ∧ (2 ^ 64 ≤ c.bytes → ∃ fault, read = .error fault)

/-- The capacities that are read as they should be are those whose count alone has 64 bits, before it is
multiplied. A larger count saturates instead of being refused. -/
theorem countedExactly_iff (c : WrittenCapacity) {s : String} (padded : Text.Padded c.text s) :
    (CountedExactly c (readCapacity (.str s)) ↔ c.count < 2 ^ 64) ∧
      (2 ^ 64 ≤ c.count → readCapacity (.str s) = .ok (2 ^ 64 - 1)) := by
  have read := readCapacity_written c padded
  have saturated (wide : 2 ^ 64 ≤ c.count) : readCapacity (.str s) = .ok (2 ^ 64 - 1) := by
    rw [read, if_pos wide]
  refine ⟨⟨fun exactly => ?_, fun narrow => ⟨fun fits => ?_, fun large =>
    ⟨.capacityOverflow (Text.toLower (Text.trim s)), ?_⟩⟩⟩, saturated⟩
  · by_contra wide
    have bytes : 2 ^ 64 ≤ c.bytes := (Nat.le_of_not_lt wide).trans (Nat.le_mul_of_pos_right _ c.unit.bytes_pos)
    obtain ⟨fault, refused⟩ := exactly.2 bytes
    cases (saturated (Nat.le_of_not_lt wide)).symm.trans refused
  · rw [read, if_neg (by omega), if_pos fits]
  · rw [read, if_neg (by omega), if_neg (by omega)]

/-- A capacity of sixteen kibibytes, with white space wherever it may stand. -/
def sixteenKibibytes : WrittenCapacity where
  digits := ['1', '6']
  gap := [' ']
  unit := .kibibyte
  name := "KiB"
  all_digits := by simp
  counted := by decide
  gap_blank := by simp [Text.isBlank]
  named := by decide

theorem readCapacity_sixteenKibibytes :
    readCapacity (.str " 16 KiB\t") = .ok 16384 ∧ Text.Padded sixteenKibibytes.text " 16 KiB\t" := by
  have padded : Text.Padded sixteenKibibytes.text " 16 KiB\t" :=
    ⟨[' '], ['\t'], by simp [Text.isBlank], by simp [Text.isBlank], by decide⟩
  have exactly := (countedExactly_iff sixteenKibibytes padded).1.mpr (by decide)
  exact ⟨exactly.1 (by decide), padded⟩

/-- The least count beyond 64 bits is taken for a byte less. -/
theorem not_countedExactly_two_pow :
    readCapacity (.str "18446744073709551616") = .ok 18446744073709551615 ∧
      (WrittenCapacity.ofNat (2 ^ 64)).bytes = 2 ^ 64 ∧
      Text.Padded (WrittenCapacity.ofNat (2 ^ 64)).text "18446744073709551616" ∧
      ¬ CountedExactly (WrittenCapacity.ofNat (2 ^ 64)) (readCapacity (.str "18446744073709551616")) := by
  have padded : Text.Padded (WrittenCapacity.ofNat (2 ^ 64)).text "18446744073709551616" :=
    ⟨[], [], List.forall_mem_nil _, List.forall_mem_nil _, by decide⟩
  have count : (WrittenCapacity.ofNat (2 ^ 64)).count = 2 ^ 64 := WrittenCapacity.count_ofNat _
  have bytes : (WrittenCapacity.ofNat (2 ^ 64)).bytes = 2 ^ 64 := WrittenCapacity.bytes_ofNat _
  have saturated : readCapacity (.str "18446744073709551616") = .ok 18446744073709551615 :=
    (readCapacity_written _ padded).trans (if_pos count.ge)
  refine ⟨saturated, bytes, padded, fun exactly => ?_⟩
  obtain ⟨fault, refused⟩ := exactly.2 bytes.ge
  cases saturated.symm.trans refused

end Value

end ServiceKit
