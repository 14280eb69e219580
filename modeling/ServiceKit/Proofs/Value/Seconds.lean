import ServiceKit.Proofs.Number.Rounding
import ServiceKit.Proofs.Value.Duration

namespace ServiceKit

namespace Binary64

/-- More seconds than a duration can hold, to the nearest nanosecond. -/
def Overlong (x : Binary64) : Prop :=
  x.neg = false ∧ (2 * Duration.limit - 1) * x.ratio.2 ≤ 2 * (x.ratio.1 * Duration.nanosPerSecond)

instance (x : Binary64) : Decidable x.Overlong :=
  inferInstanceAs (Decidable (_ ∧ _))

/-- The first overlong number, and the one before it. -/
example : Overlong ⟨false, 2 ^ 52, 12⟩ ∧ ¬Overlong ⟨false, 2 ^ 53 - 1, 11⟩ := by
  decide

end Binary64

namespace Duration

theorem ofSeconds?_eq_none_iff {x : Binary64} (nonneg : x.neg = false) : ofSeconds? x = none ↔ x.Overlong := by
  have even : limit % 2 = 0 := by decide
  have nonzero : 0 < limit := by decide
  unfold Binary64.Overlong
  rw [← Binary64.le_roundHalfEven_iff x.ratio_pos even nonzero]
  simp [ofSeconds?, ofTotal?, nonneg]

/-- No seconds are too many if there are none. -/
theorem isSome_ofSeconds? {x : Binary64} (zero : x.isZero) : (ofSeconds? x).isSome := by
  have none : x.mant = 0 := by simpa [Binary64.isZero] using zero
  have noSeconds : x.ratio.1 = 0 := by
    unfold Binary64.ratio
    split_ifs <;> simp [none]
  have rounded : Binary64.roundHalfEven 0 x.ratio.2 = 0 := by
    simp [Binary64.roundHalfEven, x.ratio_pos]
  simp [ofSeconds?, noSeconds, rounded, ofTotal?, limit, nanosPerSecond]

end Duration

/-- A number of seconds that no duration can hold. -/
def Json.Overlong : Json → Prop
  | .num (.float x) => x.Overlong
  | _ => False

namespace Value

/-- Every text is read or refused. -/
theorem readDurationText_answers (s : String) : Outcome.Answers (readDurationText s) := by
  rcases writes_or_refused s (dropPlus s.toList) with ⟨n, written⟩ | ⟨fault, refused⟩
  · rw [readDurationText, readSpan_written s written]
    split_ifs
    · exact .ok _
    · exact .error _
  · rw [readDurationText, refused]
    exact .error fault

theorem readDuration_str_answers (s : String) : Outcome.Answers (readDuration (.str s)) := by
  unfold readDuration
  dsimp only
  split_ifs
  · exact .ok _
  · cases Integer.readU64 (Text.trim s) with
    | ok secs => exact .ok _
    | error fault => exact readDurationText_answers _

theorem readDuration_int_answers (n : Int) : Outcome.Answers (readDuration (.num (.int n))) := by
  unfold readDuration
  dsimp only
  cases (Number.int n).toU64? with
  | some secs => exact .ok _
  | none => exact .error _

/-- A negative number is refused, and a negative zero read, however it is written. -/
theorem readDuration_neg_answers {x : Binary64} (negative : x.neg) :
    Outcome.Answers (readDuration (.num (.float x))) := by
  change Outcome.Answers (if x.neg && !x.isZero then _ else _)
  split_ifs with refused
  · exact .error _
  · have zero : x.isZero := by simpa [negative] using refused
    obtain ⟨d, read⟩ := Option.isSome_iff_exists.mp (Duration.isSome_ofSeconds? zero)
    rw [read]
    exact .ok d

/-- Reading a duration crashes at an overlong number of seconds and nowhere else. -/
theorem readDuration_eq_crash_iff (v : Json) (c : Crash) :
    readDuration v = .error (.crash c) ↔ c = .secondsOutOfRange ∧ v.Overlong := by
  cases v with
  | null => simp [readDuration, Json.Overlong]
  | bool b => simp [readDuration, Json.Overlong]
  | arr items => simp [readDuration, Json.Overlong]
  | obj fields => simp [readDuration, Json.Overlong]
  | str s => exact iff_of_false (readDuration_str_answers s c) fun overlong => overlong.2
  | num n =>
    cases n with
    | int n => exact iff_of_false (readDuration_int_answers n c) fun overlong => overlong.2
    | float x =>
      cases sign : x.neg with
      | true =>
        refine iff_of_false (readDuration_neg_answers sign c) fun ⟨_, nonneg, _⟩ => ?_
        exact absurd nonneg (by simp [sign])
      | false =>
        change (if x.neg && !x.isZero then _ else _) = _ ↔ c = .secondsOutOfRange ∧ x.Overlong
        rw [sign, ← Duration.ofSeconds?_eq_none_iff sign]
        cases Duration.ofSeconds? x <;> simp [eq_comm]

end Value

end ServiceKit
