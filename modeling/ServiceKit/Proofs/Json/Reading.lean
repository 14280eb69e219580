import Mathlib.Data.List.TakeWhile
import ServiceKit.Json.Reader
import ServiceKit.Proofs.Settled

namespace ServiceKit.Json
variable {s r : List Char} {fuel : Nat}

theorem skipSpace_length (s : List Char) : (skipSpace s).length ≤ s.length :=
  List.length_dropWhile_le _ s

theorem readChars_length {done : List Char} {text : String} (read : readChars done s = some (text, r)) :
    r.length < s.length := by
  fun_induction readChars done s
  case case5 ih =>
    have shorter := ih read
    simp only [List.length_cons]
    omega
  all_goals grind

theorem keyword?_length {word : String} (read : keyword? word s = some r) : r.length ≤ s.length := by
  unfold keyword? at read
  dsimp only at read
  split_ifs at read
  cases read
  exact (List.drop_suffix _ s).length_le

theorem readFraction?_length {x : Option (List Char)} (read : readFraction? s = some (x, r)) :
    r.length ≤ s.length := by
  unfold readFraction? at read
  split at read
  · rename_i t
    have digits := List.length_dropWhile_le Char.isDigit t
    grind
  · grind

theorem readPower?_length {x : Option Int} (read : readPower? s = some (x, r)) : r.length ≤ s.length := by
  unfold readPower? at read
  have digits (t : List Char) := List.length_dropWhile_le Char.isDigit t
  grind

theorem readMinus_length (s : List Char) : (readMinus s).2.length ≤ s.length := by
  unfold readMinus
  grind

theorem readNumber_length {n : Number} (read : readNumber s = some (n, r)) : r.length ≤ s.length := by
  unfold readNumber at read
  dsimp only at read
  split at read
  · cases read
  · cases read
  · obtain ⟨⟨frac, t⟩, atPoint, read⟩ := Option.bind_eq_some_iff.mp read
    obtain ⟨⟨power, u⟩, atExponent, read⟩ := Option.bind_eq_some_iff.mp read
    obtain ⟨n, _, read⟩ := Option.bind_eq_some_iff.mp read
    cases read
    calc
      _ ≤ t.length := readPower?_length atExponent
      _ ≤ ((readMinus s).2.dropWhile Char.isDigit).length := readFraction?_length atPoint
      _ ≤ (readMinus s).2.length := List.length_dropWhile_le Char.isDigit _
      _ ≤ s.length := readMinus_length s

/-- With so many steps, one more changes no answer of the readers of values. -/
structure Steady (fuel : Nat) : Prop where
  value : ∀ s, 2 * s.length + 1 ≤ fuel →
    Settled Prod.snd (s.length + 1) (readValue fuel s) (readValue (fuel + 1) s)
  items : ∀ s, 2 * s.length + 2 ≤ fuel →
    Settled Prod.snd (s.length + 1) (readItems fuel s) (readItems (fuel + 1) s)
  fields : ∀ s, 2 * s.length + 2 ≤ fuel →
    Settled Prod.snd (s.length + 1) (readFields fuel s) (readFields (fuel + 1) s)

theorem Steady.readValue (steady : Steady fuel) (bound : 2 * s.length + 1 ≤ fuel + 1) :
    Settled Prod.snd (s.length + 1) (readValue (fuel + 1) s) (readValue (fuel + 2) s) := by
  have skipped := skipSpace_length s
  unfold Json.readValue
  generalize skipSpace s = t at skipped
  split
  · exact .map (.same fun _ => readChars_length) (by grind)
  · rename_i rest
    have trimmed := skipSpace_length rest
    split
    · exact .some (by grind)
    · exact (steady.items rest (by grind)).map (by grind)
  · rename_i rest
    have trimmed := skipSpace_length rest
    split
    · exact .some (by grind)
    · exact (steady.fields rest (by grind)).map (by grind)
  · exact .map (.same fun _ read => Nat.lt_succ_of_le (keyword?_length read)) fun _ _ => by grind
  · exact .map (.same fun _ read => Nat.lt_succ_of_le (keyword?_length read)) fun _ _ => by grind
  · exact .map (.same fun _ read => Nat.lt_succ_of_le (keyword?_length read)) fun _ _ => by grind
  · exact .map (.same fun _ read => Nat.lt_succ_of_le (readNumber_length read)) fun _ _ => by grind

theorem Steady.readItems (steady : Steady fuel) (bound : 2 * s.length + 2 ≤ fuel + 1) :
    Settled Prod.snd (s.length + 1) (readItems (fuel + 1) s) (readItems (fuel + 2) s) := by
  unfold Json.readItems
  obtain ⟨same, left⟩ := steady.value s (by omega)
  rw [← same]
  split
  · exact .none
  · rename_i v r read
    have shorter := left _ read
    have trimmed := skipSpace_length r
    split
    · exact (steady.items _ (by grind)).map (by grind)
    · exact .some (by grind)
    · exact .none

theorem Steady.readFields (steady : Steady fuel) (bound : 2 * s.length + 2 ≤ fuel + 1) :
    Settled Prod.snd (s.length + 1) (readFields (fuel + 1) s) (readFields (fuel + 2) s) := by
  have skipped := skipSpace_length s
  unfold Json.readFields
  split
  · split
    · exact .none
    · rename_i name r read
      have named := readChars_length read
      have trimmed := skipSpace_length r
      split
      · rename_i t _
        obtain ⟨same, left⟩ := steady.value t (by grind)
        rw [← same]
        split
        · exact .none
        · rename_i v r read
          have shorter := left _ read
          have trimmed := skipSpace_length r
          split
          · exact (steady.fields _ (by grind)).map (by grind)
          · exact .some (by grind)
          · exact .none
      · exact .none
  · exact .none

theorem steady : ∀ fuel, Steady fuel
  | 0 => by constructor <;> intros <;> omega
  | fuel + 1 =>
    have before := steady fuel
    { value := fun _ => before.readValue
      items := fun _ => before.readItems
      fields := fun _ => before.readFields }

/-- The steps that a value is read with are enough: with any more it is read the same. -/
theorem readValue_eq_of_le (enough : 2 * s.length + 2 ≤ fuel) : readValue fuel s = readValue (2 * s.length + 2) s :=
  Settled.eq_of_le (fun fuel more => (steady fuel).value s (by omega)) enough

end ServiceKit.Json
