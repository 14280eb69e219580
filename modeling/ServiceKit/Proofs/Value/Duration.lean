import Mathlib.Data.List.TakeWhile
import ServiceKit.Proofs.Json.Fields
import ServiceKit.Proofs.Value.Integer
import ServiceKit.Value.Duration

namespace ServiceKit

inductive TimeUnit where
  | nanosecond
  | microsecond
  | millisecond
  | second
  | minute
  | hour
deriving DecidableEq, Repr

namespace TimeUnit

def nanos : TimeUnit → Nat
  | nanosecond => 1
  | microsecond => 10 ^ 3
  | millisecond => 10 ^ 6
  | second => 10 ^ 9
  | minute => 60 * 10 ^ 9
  | hour => 60 * 60 * 10 ^ 9

def spellings : TimeUnit → List String
  | nanosecond => ["ns"]
  | microsecond => ["us", "\u00b5s", "\u03bcs"]
  | millisecond => ["ms"]
  | second => ["s"]
  | minute => ["m"]
  | hour => ["h"]

theorem nanos_pos (u : TimeUnit) : 0 < u.nanos := by
  cases u <;> decide

theorem nanos_le (u : TimeUnit) : u.nanos ≤ 60 * 60 * 10 ^ 9 := by
  cases u <;> decide

/-- A unit is never spelled with a character that starts the next count. -/
theorem spelling_chars (u : TimeUnit) :
    ∀ name ∈ u.spellings, name.toList ≠ [] ∧ ∀ c ∈ name.toList, Value.isUnitEnd c = false := by
  have checked : (u.spellings.all fun name =>
      decide (name.toList ≠ []) && name.toList.all fun c => !Value.isUnitEnd c) = true := by
    cases u <;> decide
  intro name member
  obtain ⟨nonempty, outside⟩ := Bool.and_eq_true_iff.mp (List.all_eq_true.mp checked name member)
  exact ⟨of_decide_eq_true nonempty, fun c inside => by simpa using List.all_eq_true.mp outside c inside⟩

theorem lookup_spelling (u : TimeUnit) :
    ∀ name ∈ u.spellings, Json.lookup name Value.durationUnits = some u.nanos := by
  cases u <;> decide

theorem exists_of_lookup {name : String} {scale : Nat}
    (found : Json.lookup name Value.durationUnits = some scale) :
    ∃ u : TimeUnit, name ∈ u.spellings ∧ u.nanos = scale := by
  simp only [Value.durationUnits, Json.lookup_cons] at found
  split_ifs at found with ns us micro mu ms s m h
  · exact ⟨nanosecond, by simp [spellings, ns], Option.some.inj found⟩
  · exact ⟨microsecond, by simp [spellings, us], Option.some.inj found⟩
  · exact ⟨microsecond, by simp [spellings, micro], Option.some.inj found⟩
  · exact ⟨microsecond, by simp [spellings, mu], Option.some.inj found⟩
  · exact ⟨millisecond, by simp [spellings, ms], Option.some.inj found⟩
  · exact ⟨second, by simp [spellings, s], Option.some.inj found⟩
  · exact ⟨minute, by simp [spellings, m], Option.some.inj found⟩
  · exact ⟨hour, by simp [spellings, h], Option.some.inj found⟩
  · cases found

end TimeUnit

namespace Value

/-- A count with its unit as texts write it: digits, perhaps a point with more digits, and a name of the
unit. There is a digit before the point or behind it. -/
structure WrittenCount where
  whole : List Char
  frac : Option (List Char)
  unit : TimeUnit
  name : String
  whole_digits : ∀ c ∈ whole, c.isDigit
  frac_digits : ∀ c ∈ frac.getD [], c.isDigit
  counted : whole ≠ [] ∨ frac.getD [] ≠ []
  named : name ∈ unit.spellings

namespace WrittenCount

def fracText : Option (List Char) → List Char
  | none => []
  | some digits => '.' :: digits

def text (c : WrittenCount) : List Char :=
  c.whole ++ fracText c.frac ++ c.name.toList

/-- The nanoseconds of a count. Of its fraction the first eighteen digits count, and what is below a
nanosecond is cut off. -/
def nanos (c : WrittenCount) : Nat :=
  let digits := (c.frac.getD []).take 18
  Integer.decimal c.whole * c.unit.nanos + Integer.decimal digits * c.unit.nanos / 10 ^ digits.length

end WrittenCount

/-- A text that writes a span of time, and its nanoseconds: a lone zero, or counts one after another. -/
inductive Writes : List Char → Nat → Prop where
  | zero : Writes ['0'] 0
  | counts (cs : List WrittenCount) (nonempty : cs ≠ []) :
      Writes (cs.flatMap WrittenCount.text) (cs.map WrittenCount.nanos).sum

/-- One plus may stand before a span of time. -/
def WritesDuration (s : String) (nanos : Nat) : Prop :=
  ∃ body, (s.toList = body ∨ s.toList = '+' :: body) ∧ Writes body nanos

/-! ### Cutting -/

/-- A cut before the first character that is of no kind finds the end of a run of that kind. -/
theorem span_append {p : Char → Bool} {run : List Char} (rest : List Char) (all : ∀ c ∈ run, p c)
    (stop : ∀ c ∈ rest.head?, p c = false) :
    (run ++ rest).takeWhile p = run ∧ (run ++ rest).dropWhile p = rest := by
  rw [List.takeWhile_append_of_pos all, List.dropWhile_append_of_pos all]
  cases rest with
  | nil => simp
  | cons c rest =>
    have stopped : p c = false := stop c rfl
    simp [stopped]

theorem digit_of_mem_takeWhile {s : List Char} : ∀ c ∈ s.takeWhile Char.isDigit, c.isDigit := by
  exact fun c member => List.mem_takeWhile_imp member

/-- What a count is cut into, whatever follows it that cannot belong to its unit. -/
theorem pieceOf_text (c : WrittenCount) {rest : List Char} (stop : ∀ x ∈ rest.head?, isUnitEnd x) :
    pieceOf (c.text ++ rest) = ⟨c.whole, c.frac.getD [], c.name.toList, rest⟩ := by
  obtain ⟨nonempty, plain⟩ := c.unit.spelling_chars c.name c.named
  obtain ⟨first, more, letters⟩ := List.exists_cons_of_ne_nil nonempty
  have notEnd : isUnitEnd first = false := plain first (letters ▸ List.mem_cons_self)
  have notDigit : first.isDigit = false := (Bool.or_eq_false_iff.mp notEnd).1
  have notPoint : first ≠ '.' := by simpa using (Bool.or_eq_false_iff.mp notEnd).2
  have unit : (c.name.toList ++ rest).takeWhile (!isUnitEnd ·) = c.name.toList ∧
      (c.name.toList ++ rest).dropWhile (!isUnitEnd ·) = rest :=
    span_append rest (fun x member => by simp [plain x member]) (fun x member => by simp [stop x member])
  have frac : splitFraction (WrittenCount.fracText c.frac ++ (c.name.toList ++ rest)) =
      (c.frac.getD [], c.name.toList ++ rest) := by
    cases written : c.frac with
    | none => simp [WrittenCount.fracText, letters, splitFraction, notPoint]
    | some digits =>
      have all : ∀ x ∈ digits, x.isDigit := by simpa [written] using c.frac_digits
      have cut := span_append (c.name.toList ++ rest) all (by simp [letters, notDigit])
      simp only [WrittenCount.fracText, List.cons_append, splitFraction, cut, Option.getD_some]
  have whole : (c.text ++ rest).takeWhile Char.isDigit = c.whole ∧
      (c.text ++ rest).dropWhile Char.isDigit =
        WrittenCount.fracText c.frac ++ (c.name.toList ++ rest) := by
    rw [WrittenCount.text, List.append_assoc, List.append_assoc]
    refine span_append _ c.whole_digits ?_
    cases c.frac <;> simp [WrittenCount.fracText, letters, notDigit]
  simp only [pieceOf, whole, frac, unit]

theorem fracText_of_splitFraction (s : List Char) : ∃ frac : Option (List Char),
    s = WrittenCount.fracText frac ++ (splitFraction s).2 ∧ frac.getD [] = (splitFraction s).1 := by
  unfold splitFraction
  split
  · exact ⟨some _, by simp [WrittenCount.fracText], rfl⟩
  · exact ⟨none, rfl, rfl⟩

theorem splitFraction_digits (s : List Char) : ∀ c ∈ (splitFraction s).1, c.isDigit := by
  unfold splitFraction
  split
  · exact digit_of_mem_takeWhile
  · simp

/-- A piece with a digit and a known unit is a count, written where the piece was cut. -/
theorem exists_written {s : List Char} {scale : Nat}
    (counted : ¬ ((pieceOf s).whole = [] ∧ (pieceOf s).frac = []))
    (known : Json.lookup (String.ofList (pieceOf s).unit) durationUnits = some scale) :
    ∃ c : WrittenCount, s = c.text ++ (pieceOf s).rest ∧ c.whole = (pieceOf s).whole ∧
      c.frac.getD [] = (pieceOf s).frac ∧ c.unit.nanos = scale := by
  obtain ⟨u, named, scaled⟩ := TimeUnit.exists_of_lookup known
  obtain ⟨frac, written, digits⟩ := fracText_of_splitFraction (s.dropWhile Char.isDigit)
  have fracDigits := splitFraction_digits (s.dropWhile Char.isDigit)
  refine ⟨⟨(pieceOf s).whole, frac, u, String.ofList (pieceOf s).unit, digit_of_mem_takeWhile,
    digits ▸ fracDigits, ?_, named⟩, ?_, rfl, digits, scaled⟩
  · rw [digits]
    exact not_and_or.mp counted
  · calc s = s.takeWhile Char.isDigit ++ s.dropWhile Char.isDigit := List.takeWhile_append_dropWhile.symm
      _ = s.takeWhile Char.isDigit ++ (WrittenCount.fracText frac ++
            (splitFraction (s.dropWhile Char.isDigit)).2) := by rw [← written]
      _ = _ := by simp [WrittenCount.text, pieceOf, List.takeWhile_append_dropWhile]

/-! ### Counting -/

theorem byteLength_digits {digits : List Char} (all : ∀ c ∈ digits, c.isDigit) :
    Text.byteLength digits = digits.length := by
  induction digits with
  | nil => rfl
  | cons c rest ih =>
    obtain ⟨digit, later⟩ := List.forall_mem_cons.mp all
    have small : c.toNat ≤ 127 := by
      have range : c.toNat ≤ 57 := (Integer.isDigit_range digit).2
      omega
    have one : c.utf8Size = 1 := Char.utf8Size_eq_one_iff.mpr (UInt32.le_iff_toNat_le.mpr small)
    rw [Text.byteLength, one, ih later, List.length_cons, Nat.add_comm]

/-- Digits may be cut anywhere. -/
theorem cutAt_digits {digits : List Char} (all : ∀ c ∈ digits, c.isDigit) (index : Nat) {n : Nat}
    (within : n ≤ digits.length) : Text.cutAt index n digits = .ok (digits.take n, digits.drop n) := by
  induction digits generalizing n with
  | nil =>
    obtain rfl := Nat.le_zero.mp within
    rfl
  | cons c rest ih =>
    cases n with
    | zero => rfl
    | succ n =>
      obtain ⟨digit, later⟩ := List.forall_mem_cons.mp all
      have one : c.utf8Size = 1 := by
        have length : Text.byteLength [c] = 1 := byteLength_digits (by simp [digit])
        simpa [Text.byteLength] using length
      have cut := Text.cutAt_cons index n c rest
      rw [one, Nat.add_comm, ih later (Nat.le_of_succ_le_succ within)] at cut
      exact cut

theorem readCount_digits (text : String) {digits : List Char} (all : ∀ c ∈ digits, c.isDigit) :
    readCount text digits = wide text (Integer.decimal digits) := by
  by_cases empty : digits = []
  · rw [readCount, if_pos empty, empty]
    rfl
  · rw [readCount, if_neg empty, Integer.readNat_digits all empty, wide]
    split_ifs <;> rfl

/-- The part that a fraction adds never goes out of range on the way. -/
theorem fractionNanos_digits (text : String) {frac : List Char} (all : ∀ c ∈ frac, c.isDigit)
    (u : TimeUnit) :
    fractionNanos text frac u.nanos =
      .ok (Integer.decimal (frac.take 18) * u.nanos / 10 ^ (frac.take 18).length) := by
  have taken : frac.take (min frac.length 18) = frac.take 18 :=
    List.take_eq_take_iff.mpr (by omega)
  have digits : ∀ c ∈ frac.take 18, c.isDigit := fun c member => all c (List.mem_of_mem_take member)
  have short : (frac.take 18).length ≤ 18 := List.length_take_le 18 frac
  have below := (Integer.decimal_lt digits).trans_le (Nat.pow_le_pow_right (by decide) short)
  have product := Nat.mul_le_mul below.le u.nanos_le
  have wideCount : Integer.decimal (frac.take 18) ≤ Integer.u128Max := below.le.trans (by decide)
  have wideProduct : Integer.decimal (frac.take 18) * u.nanos ≤ Integer.u128Max := product.trans (by decide)
  simp only [fractionNanos, byteLength_digits all, cutAt_digits all _ (Nat.min_le_left _ 18), taken,
    readCount_digits text digits, byteLength_digits digits, wide, if_pos wideCount,
    if_pos wideProduct, Except.mapError, bind, Except.bind, pure, Except.pure]
  rfl

/-- A check on the way to a larger number adds nothing to the check of that number. -/
theorem wide_bind {text : String} {n m : Nat} {f : Nat → Except (Stop ValueFault) Nat} (le : n ≤ m)
    (goesOn : n ≤ Integer.u128Max → f n = wide text m) : wide text n >>= f = wide text m := by
  by_cases fits : n ≤ Integer.u128Max
  · rw [← goesOn fits, wide, if_pos fits]
    rfl
  · rw [wide, wide, if_neg fits, if_neg (by omega)]
    rfl

/-- The checks on the way to the nanoseconds of a count say one thing together: whether they fit. -/
theorem componentNanos_written (text : String) (c : WrittenCount) :
    componentNanos text c.whole (c.frac.getD []) c.unit.nanos = wide text c.nanos := by
  have whole : Integer.decimal c.whole * c.unit.nanos ≤ c.nanos := Nat.le_add_right _ _
  have digits : Integer.decimal c.whole ≤ c.nanos := (Nat.le_mul_of_pos_right _ c.unit.nanos_pos).trans whole
  rw [componentNanos, readCount_digits text c.whole_digits]
  refine wide_bind digits fun _ => wide_bind whole fun inRange => ?_
  by_cases empty : c.frac.getD [] = []
  · have same : c.nanos = Integer.decimal c.whole * c.unit.nanos := by
      simp [WrittenCount.nanos, empty, Integer.decimal]
    rw [if_pos empty, same, wide, if_pos inRange]
    rfl
  · rw [if_neg empty, fractionNanos_digits text c.frac_digits]
    rfl

/-! ### Adding up -/

/-- A count starts with a digit or a point. -/
theorem text_head (c : WrittenCount) : ∃ first more, c.text = first :: more ∧ isUnitEnd first := by
  cases whole : c.whole with
  | cons first more =>
    have digit : first.isDigit := c.whole_digits first (whole ▸ List.mem_cons_self)
    refine ⟨first, more ++ WrittenCount.fracText c.frac ++ c.name.toList, ?_, by simp [isUnitEnd, digit]⟩
    simp [WrittenCount.text, whole]
  | nil =>
    cases frac : c.frac with
    | none => exact absurd c.counted (by simp [whole, frac])
    | some digits =>
      refine ⟨'.', digits ++ c.name.toList, ?_, by decide⟩
      simp [WrittenCount.text, WrittenCount.fracText, whole, frac]

theorem texts_head (cs : List WrittenCount) : ∀ x ∈ (cs.flatMap WrittenCount.text).head?, isUnitEnd x := by
  cases cs with
  | nil => simp
  | cons c cs =>
    obtain ⟨first, more, text, starts⟩ := text_head c
    simp [text, starts]

/-- Counts one after another are added up, as long as the sum fits. -/
theorem sumPieces_written (text : String) (cs : List WrittenCount) {total : Nat}
    (start : total ≤ Integer.u128Max) :
    sumPieces text total (cs.flatMap WrittenCount.text) =
      wide text (total + (cs.map WrittenCount.nanos).sum) := by
  induction cs generalizing total with
  | nil =>
    rw [List.flatMap_nil, sumPieces, if_pos rfl]
    simp [wide, start]
  | cons c cs ih =>
    obtain ⟨first, more, text_eq, -⟩ := text_head c
    have cut := (cutPiece_eq _).trans (congrArg Except.ok (pieceOf_text c (texts_head cs)))
    have known := c.unit.lookup_spelling c.name c.named
    have named := (c.unit.spelling_chars c.name c.named).1
    have nonempty : c.text ++ cs.flatMap WrittenCount.text ≠ [] := by simp [text_eq]
    have counted : ¬ (c.whole = [] ∧ c.frac.getD [] = []) := not_and_or.mpr c.counted
    have later : (total + c.nanos) + (cs.map WrittenCount.nanos).sum =
        total + ((c :: cs).map WrittenCount.nanos).sum := by
      rw [List.map_cons, List.sum_cons, Nat.add_assoc]
    rw [List.flatMap_cons, sumPieces, if_neg nonempty]
    split
    · rename_i crash wrong
      cases cut.symm.trans wrong
    · rename_i p found
      obtain rfl := Except.ok.inj (cut.symm.trans found)
      dsimp only
      rw [if_neg counted, if_neg named, String.ofList_toList, known]
      dsimp only
      rw [componentNanos_written]
      refine wide_bind (by omega) fun _ => wide_bind (by omega) fun inRange => ?_
      rw [ih inRange, later]

/-- A text is counts one after another, or it is refused. -/
theorem written_or_refused (text : String) (total : Nat) (s : List Char) :
    (∃ cs : List WrittenCount, s = cs.flatMap WrittenCount.text) ∨
      ∃ fault, sumPieces text total s = .error (.error fault) := by
  fun_induction sumPieces text total s with
  | case1 => exact Or.inl ⟨[], rfl⟩
  | case2 total s nonempty crash wrong => cases (cutPiece_eq s).symm.trans wrong
  | case3 => exact Or.inr ⟨_, rfl⟩
  | case4 => exact Or.inr ⟨_, rfl⟩
  | case5 => exact Or.inr ⟨_, rfl⟩
  | case6 total s nonempty p cut counted named scale known ih =>
    obtain rfl := Except.ok.inj ((cutPiece_eq s).symm.trans cut)
    obtain ⟨c, written, whole, frac, scaled⟩ := exists_written counted known
    rw [← whole, ← frac, ← scaled, componentNanos_written, wide]
    split_ifs
    · change _ ∨ ∃ fault, (wide text (total + c.nanos) >>= _) = _
      rw [wide]
      split_ifs
      · rcases ih (total + c.nanos) with ⟨cs, later⟩ | refused
        · refine Or.inl ⟨c :: cs, ?_⟩
          rw [List.flatMap_cons, ← later, ← written]
        · exact Or.inr refused
      · exact Or.inr ⟨_, rfl⟩
    · exact Or.inr ⟨_, rfl⟩

/-! ### Reading -/

theorem writes_head {body : List Char} {n : Nat} (written : Writes body n) :
    ∃ first more, body = first :: more ∧ isUnitEnd first := by
  cases written with
  | zero => exact ⟨'0', [], rfl, by decide⟩
  | counts cs nonempty =>
    obtain ⟨c, later, rfl⟩ := List.exists_cons_of_ne_nil nonempty
    obtain ⟨first, more, text, starts⟩ := text_head c
    exact ⟨first, more ++ later.flatMap WrittenCount.text, by simp [text], starts⟩

/-- A count has a unit, so that a lone zero is none. -/
theorem texts_ne_zero (cs : List WrittenCount) : cs.flatMap WrittenCount.text ≠ ['0'] := by
  intro same
  cases cs with
  | nil => cases same
  | cons c cs =>
    obtain ⟨nonempty, plain⟩ := c.unit.spelling_chars c.name c.named
    obtain ⟨letter, member⟩ := List.exists_mem_of_ne_nil _ nonempty
    have inText : letter ∈ (c :: cs).flatMap WrittenCount.text := by simp [WrittenCount.text, member]
    rw [same, List.mem_singleton] at inText
    exact absurd (plain letter member) (by rw [inText]; decide)

theorem writesDuration_iff {s : String} {n : Nat} :
    WritesDuration s n ↔ Writes (dropPlus s.toList) n := by
  constructor
  · rintro ⟨body, same | plus, written⟩
    · obtain ⟨first, more, rfl, starts⟩ := writes_head written
      have notPlus : first ≠ '+' := by
        rintro rfl
        exact absurd starts (by decide)
      rw [same, dropPlus]
      · exact written
      · rintro r rest
        exact notPlus (List.cons.inj rest).1
    · rw [plus]
      exact written
  · intro written
    refine ⟨dropPlus s.toList, ?_, written⟩
    unfold dropPlus
    split
    · exact Or.inr (by assumption)
    · exact Or.inl rfl

/-- A span that is written is read, if a duration can hold it. -/
theorem readSpan_written (text : String) {body : List Char} {n : Nat} (written : Writes body n) :
    readSpan text body =
      if n < Duration.limit then .ok ⟨n⟩ else .error (.error (.durationOverflow text)) := by
  obtain ⟨first, more, starts, isEnd⟩ := writes_head written
  cases written with
  | zero => rfl
  | counts cs nonempty =>
    unfold readSpan
    split
    · rename_i r minus
      obtain rfl := (List.cons.inj (starts.symm.trans minus)).1
      exact absurd isEnd (by decide)
    · rename_i empty
      cases starts.symm.trans empty
    · rename_i lone
      exact absurd lone (texts_ne_zero cs)
    · rw [sumPieces_written text cs (Nat.zero_le _), Nat.zero_add, wide]
      have small : Duration.limit ≤ Integer.u128Max := by decide
      split_ifs with inRange fits
      · simp [bind, Except.bind, Duration.ofTotal?, fits]
      · simp [bind, Except.bind, Duration.ofTotal?, fits]
      · omega
      · rfl

theorem writes_or_refused (text : String) (body : List Char) :
    (∃ n, Writes body n) ∨ ∃ fault, readSpan text body = .error (.error fault) := by
  unfold readSpan
  split
  · exact Or.inr ⟨_, rfl⟩
  · exact Or.inr ⟨_, rfl⟩
  · exact Or.inl ⟨0, .zero⟩
  · rename_i notEmpty _
    rcases written_or_refused text 0 body with ⟨cs, rfl⟩ | ⟨fault, refused⟩
    · refine Or.inl ⟨_, .counts cs ?_⟩
      rintro rfl
      exact notEmpty rfl
    · exact Or.inr ⟨fault, by rw [refused]; rfl⟩

/-- Of all texts those are read that write a span which a duration can hold, and the span is what they
write. All others are refused with an error: there is no text on which reading crashes. -/
theorem readDurationText_eq_ok_iff (s : String) :
    (∀ d, readDurationText s = .ok d ↔ WritesDuration s d.total ∧ d.total < 2 ^ 64 * 10 ^ 9) ∧
      ((∃ d, readDurationText s = .ok d) ∨ ∃ fault, readDurationText s = .error (.error fault)) := by
  have limit : Duration.limit = 2 ^ 64 * 10 ^ 9 := by decide
  simp only [writesDuration_iff, readDurationText, ← limit]
  refine ⟨fun d => ⟨fun read => ?_, fun ⟨written, fits⟩ => ?_⟩, ?_⟩
  · rcases writes_or_refused s (dropPlus s.toList) with ⟨n, written⟩ | ⟨fault, refused⟩
    · rw [readSpan_written s written] at read
      split_ifs at read with fits
      cases read
      exact ⟨written, fits⟩
    · cases refused.symm.trans read
  · rw [readSpan_written s written, if_pos fits]
  · rcases writes_or_refused s (dropPlus s.toList) with ⟨n, written⟩ | refused
    · rw [readSpan_written s written]
      split_ifs
      · exact Or.inl ⟨_, rfl⟩
      · exact Or.inr ⟨_, rfl⟩
    · exact Or.inr refused

end Value

end ServiceKit
