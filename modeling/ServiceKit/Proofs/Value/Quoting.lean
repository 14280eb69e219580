import ServiceKit.Proofs.Json.Fields
import ServiceKit.Proofs.Number.Numerals
import ServiceKit.Proofs.Value.Capacity

namespace ServiceKit

/-- The numbers below zero. A zero with a sign is none of them. -/
def Number.Negative : Number → Prop
  | .int i => i < 0
  | .float x => x.neg ∧ ¬ x.isZero

namespace Value

/-- No unit of time is spelled like a number. -/
theorem spelling_not_numeral (u : TimeUnit) :
    ∀ name ∈ u.spellings, ∀ c ∈ name.toList, isNumeral c = false := by
  have checked : (u.spellings.all fun name => name.toList.all fun c => !isNumeral c) = true := by
    cases u <;> decide
  intro name member c inside
  simpa using List.all_eq_true.mp (List.all_eq_true.mp checked name member) c inside

/-- A text of numbers alone has no unit, so that it writes a span of time only if it is a lone zero. -/
theorem writes_numerals {body : List Char} {n : Nat} (written : Writes body n)
    (all : ∀ c ∈ body, isNumeral c) : body = ['0'] := by
  cases written with
  | zero => rfl
  | counts cs nonempty =>
    obtain ⟨c, later, rfl⟩ := List.exists_cons_of_ne_nil nonempty
    obtain ⟨letter, member⟩ := List.exists_mem_of_ne_nil _ (c.unit.spelling_chars c.name c.named).1
    have numeral : isNumeral letter := all letter (by simp [WrittenCount.text, member])
    cases numeral.symm.trans (spelling_not_numeral c.unit c.name c.named letter member)

/-- A text of numbers that is no number of seconds is no span of time either. -/
theorem readDurationText_numerals {s : String} {fault : IntegerFault} (all : ∀ c ∈ s.toList, isNumeral c)
    (refused : Integer.readU64 s = .error fault) : ∃ f, readDurationText s = .error (.error f) := by
  rcases writes_or_refused s (dropPlus s.toList) with ⟨n, written⟩ | refusedText
  · obtain ⟨body, spelled, counted⟩ := writesDuration_iff.mpr written
    have numerals : ∀ c ∈ body, isNumeral c := by
      rcases spelled with same | plus
      · exact same ▸ all
      · rw [plus] at all
        exact (List.forall_mem_cons.mp all).2
    obtain rfl := writes_numerals counted numerals
    rw [Integer.readU64] at refused
    rcases spelled with same | plus
    · rw [same] at refused
      cases refused
    · rw [plus] at refused
      cases refused
  · exact refusedText

/-- The text of a number, whatever white space is around it, is taken for a number of seconds, or it is
refused. -/
theorem readDuration_padded {n : Number} {s : String} (padded : Text.Padded n.render s) :
    (∃ secs, Integer.readU64 n.render = .ok secs ∧ readDuration (.str s) = .ok (.ofSecs secs)) ∨
      (∃ fault, Integer.readU64 n.render = .error fault) ∧ ∃ f, readDuration (.str s) = .error (.error f) := by
  simp only [readDuration, n.trim_padded padded, if_neg n.render_ne_empty]
  cases read : Integer.readU64 n.render with
  | ok secs => exact Or.inl ⟨secs, rfl, rfl⟩
  | error fault => exact Or.inr ⟨⟨fault, rfl⟩, readDurationText_numerals n.render_numeral read⟩

theorem readDuration_int (i : Int) :
    readDuration (.num (.int i)) =
      if Integer.isU64 i then .ok (.ofSecs i.toNat) else .error (.error (.negativeDuration (.int i))) := by
  rw [readDuration, Number.toU64?]
  split_ifs <;> rfl

theorem readDuration_padded_int {i : Int} {s : String} (padded : Text.Padded (toString i) s) :
    ∃ fault, readDuration (.str s) =
      if Integer.isU64 i then .ok (.ofSecs i.toNat) else .error (.error fault) := by
  obtain ⟨fault, text⟩ := Integer.readU64_toString i
  rcases readDuration_padded (n := .int i) padded with ⟨secs, read, quoted⟩ | ⟨⟨_, refused⟩, quoted⟩
  · split_ifs at text with inRange
    · obtain rfl := Except.ok.inj (text.symm.trans read)
      exact ⟨.durationText s, by rw [quoted, if_pos inRange]⟩
    · cases text.symm.trans read
  · split_ifs at text with inRange
    · cases text.symm.trans refused
    · obtain ⟨f, quoted⟩ := quoted
      exact ⟨f, by rw [quoted, if_neg inRange]⟩

/-- A number of the binary format is written with a point or an exponent, and neither is read. -/
theorem readDuration_padded_float {x : Binary64} {s : String}
    (padded : Text.Padded (Number.float x).render s) :
    ∃ fault, readDuration (.str s) = .error (.error fault) := by
  rcases readDuration_padded padded with ⟨secs, read, -⟩ | ⟨-, refused⟩
  · have digits := Integer.isDigit_of_readNat read
    rcases x.render_pointed (l := Number.layout) rfl with point | exponent
    · exact absurd (digits '.' point) (by decide)
    · exact absurd (digits 'e' exponent) (by decide)
  · exact refused

/-- Quoting a number of seconds changes nothing for whole numbers. A number of the binary format is refused
with quotes around it, even where it is read without them. Negative numbers are refused either way, and
quoted numbers never crash. -/
theorem readDuration_number_quoted (n : Number) {s : String} (padded : Text.Padded n.render s) :
    ((∀ d, readDuration (.num n) = .ok d → readDuration (.str s) = .ok d) ↔
      ∀ x d, n = .float x → readDuration (.num n) ≠ .ok d) ∧
    ((∃ d, readDuration (.str s) = .ok d) ∨ ∃ fault, readDuration (.str s) = .error (.error fault)) ∧
    (n.Negative →
      (∃ fault, readDuration (.num n) = .error (.error fault)) ∧
        ∃ fault, readDuration (.str s) = .error (.error fault)) := by
  cases n with
  | int i =>
    obtain ⟨fault, quoted⟩ := readDuration_padded_int padded
    rw [quoted, readDuration_int]
    refine ⟨⟨fun _ x d float => (by cases float), fun _ d read => ?_⟩, ?_, fun negative => ?_⟩
    · split_ifs at read ⊢
      exact read
    · split_ifs
      · exact Or.inl ⟨_, rfl⟩
      · exact Or.inr ⟨_, rfl⟩
    · have outside : ¬ Integer.isU64 i = true := by
        have below : i < 0 := negative
        simp [Integer.isU64, below]
      rw [if_neg outside, if_neg outside]
      exact ⟨⟨_, rfl⟩, ⟨_, rfl⟩⟩
  | float x =>
    obtain ⟨fault, quoted⟩ := readDuration_padded_float padded
    rw [quoted]
    refine ⟨⟨fun same y d _ read => ?_, fun unread d read => absurd read (unread x d rfl)⟩, Or.inr ⟨_, rfl⟩,
      fun negative => ⟨⟨.negativeDuration (.float x), ?_⟩, ⟨_, rfl⟩⟩⟩
    · cases same d read
    · have below : x.neg ∧ ¬ x.isZero := negative
      simp [readDuration, Number.toU64?, below]

/-- An hour of seconds, with white space wherever it may stand. -/
theorem readDuration_hour_quoted :
    Text.Padded (Number.int 3600).render " 3600\n" ∧ readDuration (.str " 3600\n") = .ok (.ofSecs 3600) := by
  have padded : Text.Padded (Number.int 3600).render " 3600\n" :=
    ⟨[' '], ['\n'], by simp [Text.isBlank], by simp [Text.isBlank], by decide⟩
  have same := (readDuration_number_quoted (.int 3600) padded).1.mpr fun x d float => by cases float
  exact ⟨padded, same _ rfl⟩

theorem readDuration_half_not_quoted :
    readDuration (.num (.float ⟨false, 2 ^ 52, -53⟩)) = .ok ⟨500000000⟩ ∧
      Text.Padded (Number.float ⟨false, 2 ^ 52, -53⟩).render "0.5" ∧
      ∃ fault, readDuration (.str "0.5") = .error (.error fault) := by
  have padded : Text.Padded (Number.float ⟨false, 2 ^ 52, -53⟩).render "0.5" :=
    ⟨[], [], by simp, by simp, by decide +kernel⟩
  exact ⟨by rfl, padded, readDuration_padded_float padded⟩

end Value

/-- A truth value or an integer in quotes. Every other value stays as it is. -/
def Json.quoted : Json → Json
  | .bool b => .str (Json.bool b).render
  | .num (.int i) => .str (toString i)
  | v => v

namespace Value

theorem plainText_quoted (v : Json) : plainText v.quoted = plainText v := by
  unfold Json.quoted
  split <;> rfl

theorem isNull_quoted (v : Json) : v.quoted.isNull = v.isNull := by
  unfold Json.quoted
  split <;> rfl

theorem trim_toString (i : Int) : Text.trim (toString i) = toString i :=
  (Number.int i).trim_padded (.refl _)

theorem toLower_toString (i : Int) : Text.toLower (toString i) = toString i := by
  rw [Text.toLower, map_toLower_numerals (Integer.isNumeral_of_mem_toString i), String.ofList_toList]

/-- Words are no texts of integers, apart from the one that is a number. -/
theorem eq_of_toString_mem {i : Int} {words : List String} {n : Nat} (word : toString i ∈ words)
    (others : ∀ w ∈ words, w = toString n ∨ ∃ c ∈ w.toList, isNumeral c = false) : i = n := by
  rcases others _ word with same | ⟨c, member, letter⟩
  · exact Integer.eq_of_toString_eq same
  · cases (Integer.isNumeral_of_mem_toString i c member).symm.trans letter

theorem toString_notMem_words {i : Int} (notZero : i ≠ 0) (notOne : i ≠ 1) :
    toString i ∉ trueWords ∧ toString i ∉ falseWords := by
  refine ⟨fun word => notOne (eq_of_toString_mem (n := 1) word ?_),
    fun word => notZero (eq_of_toString_mem (n := 0) word ?_)⟩
  · simp [trueWords, isNumeral, show Nat.repr 1 = "1" from rfl]
  · simp [falseWords, isNumeral, show Nat.repr 0 = "0" from rfl]

theorem readBool_quoted (v : Json) : Outcome.Agree (readBool v) (readBool v.quoted) := by
  cases v with
  | bool b => cases b <;> rfl
  | num n =>
    cases n with
    | float x => rfl
    | int i =>
      by_cases zero : i = 0
      · rw [zero]
        rfl
      by_cases one : i = 1
      · rw [one]
        rfl
      obtain ⟨notTrue, notFalse⟩ := toString_notMem_words zero one
      have number : readBool (.num (.int i)) = .error (.boolean (.num (.int i))) := by
        rw [readBool, Number.toI64?]
        split_ifs <;> simp [zero, one]
      have text : readBool (Json.quoted (.num (.int i))) = .error (.booleanText (toString i)) := by
        simp only [Json.quoted, readBool, trim_toString, toLower_toString, List.contains_iff_mem, if_neg notTrue,
          if_neg notFalse]
      rw [number, text]
      rfl
  | _ => rfl

theorem readInt_quoted (v : Json) : Outcome.Agree (readInt v) (readInt v.quoted) := by
  cases v with
  | bool b => cases b <;> rfl
  | num n =>
    cases n with
    | float x => rfl
    | int i =>
      obtain ⟨fault, read⟩ := Integer.readI64_toString i
      simp only [Json.quoted, readInt, Number.toI64?, trim_toString, read]
      split_ifs <;> rfl
  | _ => rfl

theorem readDuration_refused {s : String} {fault : IntegerFault} (trimmed : Text.trim s = s) (nonempty : s ≠ "")
    (unread : Integer.readU64 s = .error fault)
    (starts : ∀ first more, dropPlus s.toList = first :: more → isUnitEnd first = false) :
    ∃ f, readDuration (.str s) = .error (.error f) := by
  simp only [readDuration, trimmed, if_neg nonempty, unread]
  rcases writes_or_refused s (dropPlus s.toList) with ⟨n, written⟩ | refused
  · obtain ⟨first, more, body, isEnd⟩ := writes_head written
    cases isEnd.symm.trans (starts first more body)
  · exact refused

theorem readDuration_quoted_bool (b : Bool) :
    ∃ fault, readDuration (Json.quoted (.bool b)) = .error (.error fault) := by
  cases b with
  | true =>
    refine readDuration_refused (s := "true") (by decide) (by decide) rfl ?_
    rintro first more ⟨⟩
    decide
  | false =>
    refine readDuration_refused (s := "false") (by decide) (by decide) rfl ?_
    rintro first more ⟨⟩
    decide

theorem readDuration_quoted (v : Json) :
    Outcome.Alike (fun _ _ => True) (readDuration v) (readDuration v.quoted) := by
  cases v with
  | bool b =>
    obtain ⟨fault, refused⟩ := readDuration_quoted_bool b
    rw [refused]
    exact .refused trivial
  | num n =>
    cases n with
    | float x => exact .same _
    | int i =>
      obtain ⟨fault, quoted⟩ := readDuration_padded_int (.refl (toString i))
      rw [readDuration_int, Json.quoted, quoted]
      split_ifs
      · exact .same _
      · exact .refused trivial
  | _ => exact .same _

theorem readCapacity_toString_ofNat (n : Nat) :
    readCapacity (.str (toString (Int.ofNat n))) = .ok (if 2 ^ 64 ≤ n then 2 ^ 64 - 1 else n) := by
  have padded : Text.Padded (WrittenCapacity.ofNat n).text (toString (Int.ofNat n)) := by
    refine ⟨[], [], List.forall_mem_nil _, List.forall_mem_nil _, ?_⟩
    rw [Integer.toList_toString_ofNat]
    simp [WrittenCapacity.text, WrittenCapacity.ofNat]
  rw [readCapacity_written _ padded, WrittenCapacity.count_ofNat, WrittenCapacity.bytes_ofNat]
  split_ifs
  · rfl
  · rfl
  · omega

/-- A minus is taken for the start of a unit, and there is none of that name. -/
theorem readCapacity_toString_negSucc (n : Nat) :
    ∃ fault, readCapacity (.str (toString (Int.negSucc n))) = .error fault := by
  have chars := Integer.toList_toString_negSucc n
  have minus : isCapacityDigit '-' = false := by decide
  have unknown : Json.lookup (toString (Int.negSucc n)) capacityUnits = none := by
    rw [Json.lookup_eq_none_iff]
    intro named
    have plain : ∀ name ∈ capacityUnits.map Prod.fst, '-' ∉ name.toList := by decide
    exact plain _ named (chars ▸ List.mem_cons_self)
  rw [readCapacity, trim_toString, toLower_toString, readCapacityText, chars,
    List.takeWhile_cons_of_neg (by simp [minus]), List.dropWhile_cons_of_neg (by simp [minus]), ← chars,
    String.ofList_toList, trim_toString, unknown]
  exact ⟨_, rfl⟩

/-- As a capacity an integer beyond 64 bits is refused, or it is beyond them still, quoted or not. -/
theorem lt_of_readCapacity_int {i : Int} (outside : ¬ Integer.isI64 i = true) :
    (∀ n, readCapacity (.num (.int i)) = .ok n → Integer.i64Max < n) ∧
      ∀ n, readCapacity (Json.quoted (.num (.int i))) = .ok n → Integer.i64Max < n := by
  simp only [Integer.isI64, Bool.and_eq_true, decide_eq_true_eq, not_and_or, not_le] at outside
  constructor
  · intro n read
    rw [readCapacity, Number.toU64?] at read
    split_ifs at read with unsigned
    · cases read
      simp only [Integer.isU64, Bool.and_eq_true, decide_eq_true_eq] at unsigned
      omega
  · intro n read
    rw [Json.quoted] at read
    cases i with
    | ofNat m =>
      have limit : Integer.i64Max = 2 ^ 63 - 1 := rfl
      have large : Integer.i64Max < m := by
        rw [Int.ofNat_eq_natCast] at outside
        omega
      rw [readCapacity_toString_ofNat] at read
      cases read
      split_ifs <;> omega
    | negSucc m =>
      obtain ⟨fault, refused⟩ := readCapacity_toString_negSucc m
      cases refused.symm.trans read

theorem readCapacity_quoted_bool (b : Bool) : ∃ fault, readCapacity (Json.quoted (.bool b)) = .error fault := by
  cases b <;> exact ⟨_, rfl⟩

end Value

end ServiceKit
