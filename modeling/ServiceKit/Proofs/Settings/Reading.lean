import Mathlib.Data.List.TakeWhile
import ServiceKit.Proofs.Settled
import ServiceKit.Settings.Toml

namespace ServiceKit.Toml
variable {many : Bool} {s r : List Char} {text : String} {fuel : Nat}

theorem skipSpaces_length (s : List Char) : (skipSpaces s).length ≤ s.length :=
  List.length_dropWhile_le _ s

theorem skipComment?_length (read : skipComment? s = some r) : r.length ≤ s.length := by
  have trimmed := skipSpaces_length s
  unfold skipComment? at read
  split at read
  · rename_i rest _
    have comment := List.length_dropWhile_le (· != '\n') rest
    dsimp only at read
    grind
  · grind

/-- The steps that gaps between lines are skipped with are enough. -/
theorem skipLines?_settled (enough : s.length + 1 ≤ fuel) :
    Settled id (s.length + 1) (skipLines? fuel s) (skipLines? (fuel + 1) s) := by
  induction fuel generalizing s with
  | zero => omega
  | succ fuel ih =>
    unfold skipLines?
    split
    · rename_i rest comment
      have shorter := skipComment?_length comment
      exact (ih (by grind)).mono (by grind)
    · rename_i rest comment
      have shorter := skipComment?_length comment
      exact (ih (by grind)).mono (by grind)
    · exact .same fun r read => Nat.lt_succ_of_le (skipComment?_length read)

theorem skipLines?_length (read : skipLines? (s.length + 1) s = some r) : r.length ≤ s.length :=
  Nat.le_of_lt_succ ((skipLines?_settled (Nat.le_refl _)).2 r read)

theorem endLine?_length (read : endLine? s = some r) : r.length ≤ s.length := by
  unfold endLine? at read
  split at read
  · grind
  · rename_i comment
    have shorter := skipComment?_length comment
    grind
  · rename_i comment
    have shorter := skipComment?_length comment
    grind
  · cases read

theorem readBasic_settled {done : List Char} (enough : s.length + 1 ≤ fuel) :
    Settled Prod.snd s.length (readBasic many fuel done s) (readBasic many (fuel + 1) done s) := by
  induction fuel generalizing done s with
  | zero => omega
  | succ fuel ih =>
    have later {done t : List Char} (shorter : t.length < s.length) :
        Settled Prod.snd s.length (readBasic many fuel done t) (readBasic many (fuel + 1) done t) :=
      (ih (by omega)).mono (by omega)
    unfold readBasic
    split
    · exact .none
    · split_ifs
      · exact .some (by simp)
      · split
        · exact .some (by simp only [List.length_cons]; omega)
        · exact .some (by simp only [List.length_cons]; omega)
        · exact .some (by simp only [List.length_cons]; omega)
        · exact later (by simp)
    · split
      · exact later (by simp only [List.length_cons]; omega)
      · exact .none
    · split
      · exact later (by simp only [List.length_cons]; omega)
      · exact .none
    · split
      · exact later (by simp only [List.length_cons]; omega)
      · dsimp only
        split_ifs
        · exact later (Nat.lt_succ_of_le (List.length_dropWhile_le _ _))
        · exact .none
    · split_ifs
      · exact later (by simp only [List.length_cons]; omega)
      · exact .none
    · split_ifs
      · exact later (by simp)
      · exact .none

theorem readBasic_length {done : List Char} (read : readBasic many (s.length + 1) done s = some (text, r)) :
    r.length < s.length :=
  (readBasic_settled (Nat.le_refl _)).2 _ read

theorem readLiteral_length {done : List Char} (read : readLiteral many done s = some (text, r)) :
    r.length < s.length := by
  fun_induction readLiteral many done s <;> grind

theorem dropLineEnd_length (s : List Char) : (dropLineEnd s).length ≤ s.length := by
  unfold dropLineEnd
  split <;> grind

theorem readString?_length (read : readString? s = some (text, r)) : r.length < s.length := by
  unfold readString? at read
  split at read
  · rename_i rest
    have enough : (dropLineEnd rest).length + 1 ≤ rest.length + 1 := Nat.succ_le_succ (dropLineEnd_length rest)
    have shorter := (readBasic_settled enough).2 _ read
    have trimmed := dropLineEnd_length rest
    grind
  · have shorter := readBasic_length read
    grind
  · rename_i rest
    have shorter := readLiteral_length read
    have trimmed := dropLineEnd_length rest
    grind
  · have shorter := readLiteral_length read
    grind
  · cases read

theorem readName?_length (read : readName? s = some (text, r)) : r.length ≤ s.length := by
  unfold readName? at read
  split at read
  · have shorter := readBasic_length read
    grind
  · have shorter := readLiteral_length read
    grind
  · dsimp only at read
    split_ifs at read
    cases read
    exact List.length_dropWhile_le isBare s

/-- The steps that a key is read with are enough. -/
theorem readKey?_settled (enough : s.length + 1 ≤ fuel) :
    Settled Prod.snd (s.length + 1) (readKey? fuel s) (readKey? (fuel + 1) s) := by
  induction fuel generalizing s with
  | zero => omega
  | succ fuel ih =>
    have trimmed := skipSpaces_length s
    unfold readKey?
    split
    · exact .none
    · rename_i name t read
      have named := readName?_length read
      have trimmed := skipSpaces_length t
      split
      · exact (ih (by grind)).map (by grind)
      · exact .some (by grind)

theorem readKey?_length {names : List String} (read : readKey? (s.length + 1) s = some (names, r)) :
    r.length ≤ s.length :=
  Nat.le_of_lt_succ ((readKey?_settled (Nat.le_refl _)).2 _ read)

theorem takeWord_length (s : List Char) : (takeWord s).2.length ≤ s.length := by
  have word := List.length_dropWhile_le isWord s
  unfold takeWord
  dsimp only
  split
  · rename_i t _
    have time := List.length_dropWhile_le isWord t
    split_ifs <;> grind
  · grind

/-- With so many steps, one more changes no answer of the readers of values. -/
structure Steady (fuel : Nat) : Prop where
  value : ∀ s, 2 * s.length + 1 ≤ fuel →
    Settled Prod.snd (s.length + 1) (readValue fuel s) (readValue (fuel + 1) s)
  items : ∀ done s, 2 * s.length + 2 ≤ fuel →
    Settled Prod.snd (s.length + 1) (readItems fuel done s) (readItems (fuel + 1) done s)
  entries : ∀ t s, 2 * s.length + 2 ≤ fuel →
    Settled Prod.snd (s.length + 1) (readEntries fuel t s) (readEntries (fuel + 1) t s)

theorem Steady.readValue (steady : Steady fuel) (bound : 2 * s.length + 1 ≤ fuel + 1) :
    Settled Prod.snd (s.length + 1) (readValue (fuel + 1) s) (readValue (fuel + 2) s) := by
  unfold Toml.readValue
  split
  · exact (steady.items [] _ (by grind)).map (by grind)
  · rename_i rest
    have trimmed := skipSpaces_length rest
    split
    · exact .some (by grind)
    · exact (steady.entries [] rest (by grind)).map (by grind)
  · exact .map (.same fun _ => readString?_length) (by grind)
  · exact .map (.same fun _ => readString?_length) (by grind)
  · refine .same fun x read => ?_
    have word := takeWord_length s
    obtain ⟨v, -, rfl⟩ := Option.map_eq_some_iff.mp read
    exact Nat.lt_succ_of_le word

theorem Steady.readItems (steady : Steady fuel) (done : List Toml) (bound : 2 * s.length + 2 ≤ fuel + 1) :
    Settled Prod.snd (s.length + 1) (readItems (fuel + 1) done s) (readItems (fuel + 2) done s) := by
  unfold Toml.readItems
  split
  · rename_i rest begins
    have skipped := skipLines?_length begins
    exact .some (by grind)
  · rename_i t _ begins
    have skipped := skipLines?_length begins
    obtain ⟨same, left⟩ := steady.value t (by grind)
    rw [← same]
    split
    · exact .none
    · rename_i v u read
      have shorter := left _ read
      split
      · rename_i r ends
        have skipped := skipLines?_length ends
        exact (steady.items _ r (by grind)).mono (by grind)
      · rename_i r ends
        have skipped := skipLines?_length ends
        exact .some (by grind)
      · exact .none
  · exact .none

theorem Steady.readEntries (steady : Steady fuel) (t : Table) (bound : 2 * s.length + 2 ≤ fuel + 1) :
    Settled Prod.snd (s.length + 1) (readEntries (fuel + 1) t s) (readEntries (fuel + 2) t s) := by
  unfold Toml.readEntries
  split
  · rename_i names r key
    have named := readKey?_length key
    have trimmed := skipSpaces_length r
    obtain ⟨same, left⟩ := steady.value (skipSpaces r) (by grind)
    rw [← same]
    split
    · exact .none
    · rename_i v u read
      have shorter := left _ read
      have trimmed := skipSpaces_length u
      split
      · exact .none
      · split
        · exact (steady.entries _ _ (by grind)).mono (by grind)
        · exact .some (by grind)
        · exact .none
  · exact .none

theorem steady : ∀ fuel, Steady fuel
  | 0 => by constructor <;> intros <;> omega
  | fuel + 1 =>
    have before := steady fuel
    { value := fun _ => before.readValue
      items := fun done _ => before.readItems done
      entries := fun t _ => before.readEntries t }

theorem readValue_length {v : Toml} (enough : 2 * s.length + 1 ≤ fuel) (read : readValue fuel s = some (v, r)) :
    r.length ≤ s.length :=
  Nat.le_of_lt_succ (((steady fuel).value s enough).2 _ read)

theorem readLines_succ {header : List String} {t : Table} (enough : s.length + 1 ≤ fuel) :
    readLines fuel header t s = readLines (fuel + 1) header t s := by
  induction fuel generalizing header t s with
  | zero => omega
  | succ fuel ih =>
    unfold readLines
    split
    · rfl
    · rfl
    · rename_i rest begins
      have skipped := skipLines?_length begins
      split
      · rename_i names r key
        have named := readKey?_length key
        split
        · rename_i u t' ends opened
          have after := endLine?_length ends
          exact ih (by grind)
        · rfl
      · rfl
    · rename_i rest _ begins
      have skipped := skipLines?_length begins
      split
      · rename_i names r key
        have named := readKey?_length key
        split
        · rename_i u t' ends opened
          have after := endLine?_length ends
          exact ih (by grind)
        · rfl
      · rfl
    · rename_i rest _ _ _ begins
      have skipped := skipLines?_length begins
      split
      · rename_i names r key
        have named := readKey?_length key
        have trimmed := skipSpaces_length r
        split
        · rfl
        · rename_i v w read
          have valued := readValue_length (by omega) read
          split
          · rename_i u t' ends assigned
            have after := endLine?_length ends
            exact ih (by grind)
          · rfl
      · rfl

/-- The steps that a document is read with are enough: with any more it is read the same. -/
theorem parse?_eq_of_le (enough : text.toList.length + 1 ≤ fuel) :
    (readLines fuel [] [] text.toList).map fieldValues = parse? text := by
  refine congrArg (Option.map fieldValues) ?_
  induction fuel, enough using Nat.le_induction with
  | base => rfl
  | succ fuel more ih => rw [← ih, readLines_succ more]

end ServiceKit.Toml
