import Mathlib.Data.List.TakeWhile
import ServiceKit.Hcl.Reader
import ServiceKit.Proofs.Text.Splitting

namespace ServiceKit.Hcl

variable {lines : Bool} {g : Gap} {s r : List Char}

theorem skip_length (read : skip lines g s = some r) : r.length ≤ s.length := by
  fun_induction skip lines g s <;> grind

theorem gap_length (read : gap lines s = some r) : r.length ≤ s.length :=
  skip_length read

theorem isIdentRest_of_isIdentStart {c : Char} (start : isIdentStart c = true) : isIdentRest c = true := by
  simp only [isIdentStart, isIdentRest, Text.isNameStart, Text.isNameChar, Char.isAlphanum, Bool.or_eq_true] at *
  tauto

theorem readIdent_length {word : String} (read : readIdent s = some (word, r)) : r.length < s.length := by
  unfold readIdent at read
  split at read
  · rename_i c rest
    split_ifs at read with start
    cases read
    rw [List.dropWhile_cons_of_pos (isIdentRest_of_isIdentStart start)]
    exact Nat.lt_succ_of_le (List.length_dropWhile_le _ _)
  · cases read

theorem dropComment_length (s : List Char) : (dropComment s).length ≤ s.length := by
  have comment := List.length_dropWhile_le (· ≠ '\n') s
  unfold dropComment
  split
  · exact comment
  · exact comment
  · exact Nat.le_refl _

theorem endLine_length (read : endLine s = some r) : r.length ≤ s.length := by
  obtain ⟨t, atGap, read⟩ := Option.bind_eq_some_iff.mp read
  have before := gap_length atGap
  have comment := dropComment_length t
  split at read <;> grind

theorem readOperator_length {op : String} (read : readOperator s = some (op, r)) : r.length < s.length := by
  unfold readOperator at read
  split at read
  · cases read
  · obtain ⟨op, member, read⟩ := List.exists_of_findSome?_eq_some read
    dsimp only at read
    split_ifs at read with leads
    cases read
    have nonempty : ∀ op ∈ operators, 0 < op.toList.length := by decide
    have within := (List.isPrefixOf_iff_prefix.mp leads).length_le
    have some := nonempty op member
    rw [List.length_drop]
    omega

theorem readHex_length {n : Nat} {c : Char} (read : readHex n s = some (c, r)) : r.length ≤ s.length := by
  unfold readHex at read
  dsimp only at read
  split_ifs at read
  cases read
  exact (List.drop_suffix n s).length_le

theorem readEscape_length {c : Char} (read : readEscape s = some (c, r)) : r.length ≤ s.length := by
  unfold readEscape at read
  split at read <;> grind [→ readHex_length]

theorem readFraction_length (s : List Char) : (readFraction s).2.length ≤ s.length := by
  unfold readFraction
  grind [List.length_dropWhile_le]

theorem readPower_length (s : List Char) : (readPower s).2.length ≤ s.length := by
  unfold readPower
  grind [List.length_dropWhile_le]

theorem readNumber_length {n : Number} (read : readNumber s = some (n, r)) : r.length ≤ s.length := by
  have left : (readPower (readFraction (s.dropWhile Char.isDigit)).2).2.length ≤ s.length :=
    calc
      _ ≤ _ := readPower_length _
      _ ≤ _ := readFraction_length _
      _ ≤ s.length := List.length_dropWhile_le _ s
  unfold readNumber at read
  dsimp only at read
  split_ifs at read
  · cases read
    exact left
  · obtain ⟨x, -, read⟩ := Option.map_eq_some_iff.mp read
    cases read
    exact left

/-- The characters of lines, each with its end. -/
def span : List (List Char) → Nat
  | [] => 0
  | l :: ls => l.length + 1 + span ls

theorem span_cons (l : List Char) (ls : List (List Char)) : span (l :: ls) = l.length + 1 + span ls :=
  rfl

theorem length_joinLines {ls : List (List Char)} (some : ls ≠ []) : (joinLines ls).length + 1 = span ls := by
  induction ls with
  | nil => exact absurd rfl some
  | cons l ls ih =>
    cases ls with
    | nil => simp [joinLines, span]
    | cons m ls =>
      have later := ih (List.cons_ne_nil m ls)
      rw [span_cons, ← later, joinLines, joinLines, List.intercalate_cons_cons, List.length_append,
        List.length_append, List.length_singleton]
      omega

theorem span_splitChars (s : List Char) : span (Text.splitChars '\n' s) = s.length + 1 := by
  rw [Text.splitChars_eq_splitOn, ← length_joinLines (List.splitOn_ne_nil '\n' s), joinLines,
    List.intercalate_splitOn]

theorem span_readHeredocLines {marker : List Char} {ls body rest : List (List Char)}
    (read : readHeredocLines marker ls = some (body, rest)) : span body + span rest < span ls := by
  induction ls generalizing body with
  | nil => cases read
  | cons l ls ih =>
    unfold readHeredocLines at read
    dsimp only at read
    split_ifs at read
    · cases read
      simp [span]
    · obtain ⟨⟨body, rest⟩, later, read⟩ := Option.map_eq_some_iff.mp read
      cases read
      have later := ih later
      simp only [span_cons] at *
      omega

theorem span_dedent (ls : List (List Char)) : span (dedent ls) ≤ span ls := by
  have drops (n : Nat) : span (ls.map (List.drop n)) ≤ span ls := by
    induction ls with
    | nil => exact Nat.le_refl _
    | cons l ls ih =>
      rw [List.map_cons, span_cons, span_cons, List.length_drop]
      omega
  unfold dedent
  dsimp only
  split
  · exact drops _
  · exact Nat.le_refl _

theorem length_flatMap_end (ls : List (List Char)) : (ls.flatMap (· ++ ['\n'])).length = span ls := by
  induction ls with
  | nil => rfl
  | cons l ls ih =>
    rw [List.flatMap_cons, List.length_append, List.length_append, List.length_singleton, ih, span_cons]

theorem readSign_length (sign s : List Char) : (readSign sign s).2.length ≤ s.length := by
  have dropped {sign s r : List Char} (found : Text.dropLead? sign s = some r) : r.length ≤ s.length := by
    fun_induction Text.dropLead? sign s <;> grind
  unfold readSign
  split
  · rename_i found
    exact dropped found
  · exact Nat.le_refl _

theorem readNewline_length (read : readNewline s = some r) : r.length < s.length := by
  unfold readNewline at read
  split at read <;> grind

/-- The text of a heredoc, and what follows its end marker, are no longer than what both are read from. -/
theorem readHeredoc_length {text : List Char} (read : readHeredoc s = some (text, r)) :
    text.length ≤ s.length ∧ r.length ≤ s.length := by
  unfold readHeredoc at read
  dsimp only at read
  obtain ⟨⟨marker, t⟩, atMarker, read⟩ := Option.bind_eq_some_iff.mp read
  obtain ⟨u, atNewline, read⟩ := Option.bind_eq_some_iff.mp read
  obtain ⟨⟨body, rest⟩, atLines, read⟩ := Option.bind_eq_some_iff.mp read
  have before : u.length ≤ s.length := by
    have unsigned := readSign_length ['-'] s
    have afterMarker := readIdent_length atMarker
    have afterLine := readNewline_length atNewline
    dsimp only at *
    omega
  have both := span_readHeredocLines atLines
  rw [span_splitChars] at both
  cases read
  dsimp only
  constructor
  · have dedented := span_dedent body
    rw [length_flatMap_end]
    split_ifs <;> omega
  · split_ifs with last
    · exact Nat.zero_le _
    · have written := length_joinLines (List.isEmpty_eq_false_iff.mp (Bool.eq_false_iff.mpr last))
      rw [List.length_cons]
      omega

theorem readAssign_length (read : readAssign s = some r) : r.length < s.length := by
  unfold readAssign at read
  split at read <;> grind

theorem readItemEnd_length (read : readItemEnd s = some r) : r.length ≤ s.length := by
  obtain ⟨t, atGap, read⟩ := Option.bind_eq_some_iff.mp read
  have before := gap_length atGap
  split at read
  · have afterComma := gap_length read
    grind
  · cases read
    exact before
  · obtain ⟨u, atEnd, read⟩ := Option.bind_eq_some_iff.mp read
    have afterLine := endLine_length atEnd
    have afterGap := gap_length read
    omega

theorem readSecondName_length {second : Option String} (read : readSecondName s = some (second, r)) :
    r.length ≤ s.length := by
  unfold readSecondName at read
  split at read
  · obtain ⟨t, atGap, read⟩ := Option.bind_eq_some_iff.mp read
    obtain ⟨⟨name, u⟩, atName, read⟩ := Option.bind_eq_some_iff.mp read
    have afterComma := gap_length atGap
    have afterName := readIdent_length atName
    grind
  · cases read
    exact Nat.le_refl _

theorem readForNames_length {key : Option String} {value : String}
    (read : readForNames s = some (key, value, r)) : r.length < s.length := by
  obtain ⟨t, atGap, read⟩ := Option.bind_eq_some_iff.mp read
  obtain ⟨⟨first, u⟩, atFirst, read⟩ := Option.bind_eq_some_iff.mp read
  obtain ⟨v, afterFirst, read⟩ := Option.bind_eq_some_iff.mp read
  obtain ⟨⟨second, w⟩, atSecond, read⟩ := Option.bind_eq_some_iff.mp read
  obtain ⟨x, afterSecond, read⟩ := Option.bind_eq_some_iff.mp read
  obtain ⟨⟨word, y⟩, atWord, read⟩ := Option.bind_eq_some_iff.mp read
  dsimp only at read
  split_ifs at read
  cases read
  have beforeNames := gap_length atGap
  have afterName := readIdent_length atFirst
  have beforeComma := gap_length afterFirst
  have afterSecondName := readSecondName_length atSecond
  have beforeWord := gap_length afterSecond
  have afterWord := readIdent_length atWord
  omega

theorem readMarkupEnd_length (read : readMarkupEnd s = some r) : r.length < s.length := by
  obtain ⟨t, atGap, read⟩ := Option.bind_eq_some_iff.mp read
  have afterGap := gap_length atGap
  have unsigned := readSign_length ['~'] t
  split at read <;> grind

end ServiceKit.Hcl
