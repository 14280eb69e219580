import Mathlib.Data.List.Basic
import ServiceKit.Text.Blank

namespace ServiceKit.Text
variable {α β : Type} [DecidableEq α] [DecidableEq β] {sep x : α} {piece xs : List α}

/-- The pieces of a text are those of the list of its characters. -/
theorem splitChars_eq_splitOn (sep : Char) (s : List Char) : splitChars sep s = s.splitOn sep := by
  induction s with
  | nil => rfl
  | cons c rest ih =>
    rw [splitChars, List.splitOn_cons_eq_if_modifyHead, ih]
    obtain ⟨piece, pieces, split⟩ := List.exists_cons_of_ne_nil (List.splitOn_ne_nil sep rest)
    by_cases same : c = sep <;> simp [same, split]

theorem mem_of_mem_splitOn (member : piece ∈ xs.splitOn sep) (inPiece : x ∈ piece) : x ∈ xs := by
  induction xs generalizing piece with
  | nil =>
    simp only [List.splitOn_nil, List.mem_singleton] at member
    simp [member] at inPiece
  | cons c rest ih =>
    rw [List.splitOn_cons_eq_if_modifyHead] at member
    obtain ⟨first, more, split⟩ := List.exists_cons_of_ne_nil (List.splitOn_ne_nil sep rest)
    split_ifs at member with same
    · rcases List.mem_cons.mp member with rfl | later
      · simp at inPiece
      · exact List.mem_cons_of_mem c (ih later inPiece)
    · rw [split, List.modifyHead_cons, List.mem_cons] at member
      rcases member with rfl | later
      · rcases List.mem_cons.mp inPiece with rfl | inFirst
        · exact List.mem_cons_self
        · exact List.mem_cons_of_mem c (ih (by simp [split]) inFirst)
      · exact List.mem_cons_of_mem c (ih (by simp [split, later]) inPiece)

/-- No piece holds a separator. -/
theorem sep_notMem_of_mem_splitOn (member : piece ∈ xs.splitOn sep) : sep ∉ piece := by
  induction xs generalizing piece with
  | nil =>
    simp only [List.splitOn_nil, List.mem_singleton] at member
    simp [member]
  | cons c rest ih =>
    rw [List.splitOn_cons_eq_if_modifyHead] at member
    obtain ⟨first, more, split⟩ := List.exists_cons_of_ne_nil (List.splitOn_ne_nil sep rest)
    split_ifs at member with same
    · rcases List.mem_cons.mp member with rfl | later
      · exact List.not_mem_nil
      · exact ih later
    · rw [split, List.modifyHead_cons, List.mem_cons] at member
      rcases member with rfl | later
      · have other : sep ≠ c := fun sepIs => same (by simp [sepIs])
        exact List.not_mem_cons_of_ne_of_not_mem other (ih (by simp [split]))
      · exact ih (by simp [split, later])

/-- Whatever a separator does not account for stands in one of the pieces. -/
theorem eq_or_mem_splitOn (member : x ∈ xs) : x = sep ∨ ∃ piece ∈ xs.splitOn sep, x ∈ piece := by
  induction xs with
  | nil => simp at member
  | cons c rest ih =>
    rw [List.splitOn_cons_eq_if_modifyHead]
    obtain ⟨first, more, split⟩ := List.exists_cons_of_ne_nil (List.splitOn_ne_nil sep rest)
    by_cases same : c = sep
    · rcases List.mem_cons.mp member with rfl | later
      · exact Or.inl same
      · obtain atSep | ⟨piece, inPieces, inPiece⟩ := ih later
        · exact Or.inl atSep
        · exact Or.inr ⟨piece, by simp [same, inPieces], inPiece⟩
    · simp only [beq_iff_eq, same, if_false, split, List.modifyHead_cons]
      rcases List.mem_cons.mp member with rfl | later
      · exact Or.inr ⟨x :: first, by simp, by simp⟩
      · obtain atSep | ⟨piece, inPieces, inPiece⟩ := ih later
        · exact Or.inl atSep
        · rw [split, List.mem_cons] at inPieces
          rcases inPieces with rfl | inMore
          · exact Or.inr ⟨c :: piece, by simp, List.mem_cons_of_mem c inPiece⟩
          · exact Or.inr ⟨piece, by simp [inMore], inPiece⟩

/-- The pieces of a joined text are those of its parts, whether or not the parts hold separators. -/
theorem splitOn_intercalate_eq_flatMap {parts : List (List α)} (nonempty : parts ≠ []) :
    ([sep].intercalate parts).splitOn sep = parts.flatMap (List.splitOn sep) := by
  induction parts with
  | nil => exact absurd rfl nonempty
  | cons part rest ih =>
    cases rest with
    | nil => simp
    | cons next more =>
      rw [List.intercalate_cons_cons, List.append_assoc, List.singleton_append,
        List.splitOn_append_cons_self, ih (by simp)]
      exact List.flatMap_cons.symm

omit [DecidableEq α] in
theorem intercalate_concat {parts : List (List α)} (nonempty : parts ≠ []) (part : List α) :
    [sep].intercalate (parts ++ [part]) = [sep].intercalate parts ++ sep :: part := by
  induction parts with
  | nil => exact absurd rfl nonempty
  | cons first rest ih =>
    cases rest with
    | nil => simp
    | cons next more =>
      have later := ih (List.cons_ne_nil next more)
      simp only [List.cons_append, List.intercalate_cons_cons] at later ⊢
      simp only [later, List.append_assoc]

/-- In front of the last piece stands a separator, unless it is the only one. -/
theorem eq_append_of_splitOn {pieces : List (List α)} (parts : xs.splitOn sep = pieces ++ [piece])
    (nonempty : pieces ≠ []) : ∃ front, xs = front ++ sep :: piece := by
  have joined : [sep].intercalate (xs.splitOn sep) = xs := List.intercalate_splitOn sep
  rw [parts, intercalate_concat nonempty] at joined
  exact ⟨_, joined.symm⟩

theorem splitOn_map {f : α → β} (inj : Function.Injective f) (sep : α) (xs : List α) :
    (xs.map f).splitOn (f sep) = (xs.splitOn sep).map (List.map f) := by
  induction xs with
  | nil => simp
  | cons c rest ih =>
    obtain ⟨first, more, split⟩ := List.exists_cons_of_ne_nil (List.splitOn_ne_nil sep rest)
    rw [List.map_cons, List.splitOn_cons_eq_if_modifyHead, List.splitOn_cons_eq_if_modifyHead, ih, split]
    by_cases same : c = sep
    · simp [same]
    · simp [same, inj.ne same]

/-! ### Texts -/

theorem split_append (sep : Char) (s t : String) :
    split sep (s ++ sep.toString ++ t) = split sep s ++ split sep t := by
  simp [split, splitChars_eq_splitOn, List.splitOn_append_cons_self]

theorem split_ne_nil (sep : Char) (s : String) : split sep s ≠ [] := by
  simp [split, splitChars_ne_nil]

theorem split_of_notMem {sep : Char} {s : String} (plain : sep ∉ s.toList) : split sep s = [s] := by
  simp [split, splitChars_eq_splitOn, List.splitOn_eq_singleton plain]

theorem eq_of_split_singleton {sep : Char} {s piece : String} (parts : split sep s = [piece]) : s = piece := by
  obtain ⟨chars, whole, rfl⟩ := List.map_eq_singleton_iff.mp parts
  rw [splitChars_eq_splitOn] at whole
  have joined : [sep].intercalate (s.toList.splitOn sep) = s.toList := List.intercalate_splitOn sep
  rw [whole, List.intercalate_singleton] at joined
  rw [← String.toList_inj, String.toList_ofList, joined]

theorem eq_append_of_split {sep : Char} {s last : String} {front : List String}
    (parts : split sep s = front ++ [last]) (nonempty : front ≠ []) : ∃ stem, s = stem ++ sep.toString ++ last := by
  obtain ⟨pieces, ends, whole, inFront, atEnd⟩ := List.map_eq_append_iff.mp parts
  obtain ⟨piece, rfl, rfl⟩ := List.map_eq_singleton_iff.mp atEnd
  rw [splitChars_eq_splitOn] at whole
  have morePieces : pieces ≠ [] := by
    rintro rfl
    exact nonempty inFront.symm
  obtain ⟨stem, joined⟩ := eq_append_of_splitOn whole morePieces
  refine ⟨String.ofList stem, ?_⟩
  rw [← String.toList_inj, joined]
  simp

theorem notMem_of_mem_split {sep : Char} {s piece : String} (member : piece ∈ split sep s) :
    sep ∉ piece.toList := by
  obtain ⟨chars, inPieces, rfl⟩ := List.mem_map.mp member
  rw [splitChars_eq_splitOn] at inPieces
  rw [String.toList_ofList]
  exact sep_notMem_of_mem_splitOn inPieces

/-- Parts without separators are what a joined text is split into, if there are any. -/
theorem split_intercalate {sep : Char} {parts : List String} (nonempty : parts ≠ [])
    (plain : ∀ part ∈ parts, sep ∉ part.toList) : split sep (sep.toString.intercalate parts) = parts := by
  have pieces : ([sep].intercalate (parts.map String.toList)).splitOn sep = parts.map String.toList :=
    List.splitOn_intercalate sep (by simpa using plain) (by simpa using nonempty)
  rw [split, splitChars_eq_splitOn, String.toList_intercalate, Char.toString_eq_singleton, String.toList_singleton,
    pieces, List.map_map]
  simp

end ServiceKit.Text
