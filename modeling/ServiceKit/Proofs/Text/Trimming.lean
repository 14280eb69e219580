import Mathlib
import ServiceKit.Text.Blank

namespace ServiceKit.Text

theorem trimChars_eq (s : List Char) : trimChars s = (s.dropWhile isBlank).rdropWhile isBlank :=
  rfl

/-- What is left of a trimmed text at either end is no white space. -/
theorem trimChars_trimChars (s : List Char) : trimChars (trimChars s) = trimChars s := by
  rw [trimChars_eq s, trimChars_eq]
  have front : ((s.dropWhile isBlank).rdropWhile isBlank).dropWhile isBlank =
      (s.dropWhile isBlank).rdropWhile isBlank := by
    rw [List.dropWhile_eq_self_iff]
    intro some
    have atFront := (List.rdropWhile_prefix isBlank (s.dropWhile isBlank)).getElem some
    rw [atFront]
    have rest : s.dropWhile isBlank ≠ [] := by
      intro none
      simp [none] at some
    have first := List.head_dropWhile_not isBlank rest
    rw [List.head_eq_getElem] at first
    simp [first]
  rw [front, List.rdropWhile_idempotent]

theorem trim_trim (s : String) : trim (trim s) = trim s := by
  rw [trim, trim, String.toList_ofList, trimChars_trimChars]

/-- A text with white space before and after it. -/
def Padded (text s : String) : Prop :=
  ∃ lead trail : List Char, (∀ c ∈ lead, isBlank c) ∧ (∀ c ∈ trail, isBlank c) ∧
    s.toList = lead ++ text.toList ++ trail

theorem Padded.refl (text : String) : Padded text text :=
  ⟨[], [], by simp, by simp, by simp⟩

/-- Any text is its trimmed self with white space around it. -/
theorem padded_trim (s : String) : Padded (trim s) s := by
  refine ⟨s.toList.takeWhile isBlank, (s.toList.dropWhile isBlank).rtakeWhile isBlank,
    fun c member => List.mem_takeWhile_imp member, fun c member => List.mem_rtakeWhile_imp member, ?_⟩
  rw [trim, String.toList_ofList, trimChars_eq, List.append_assoc, List.rdropWhile_append_rtakeWhile,
    List.takeWhile_append_dropWhile]

theorem mem_trim {c : Char} {s : String} (member : c ∈ s.toList) (notBlank : isBlank c = false) :
    c ∈ (trim s).toList := by
  obtain ⟨lead, trail, before, after, spelled⟩ := padded_trim s
  have none {blanks : List Char} (all : ∀ x ∈ blanks, isBlank x) : c ∉ blanks := fun inside =>
    Bool.false_ne_true (notBlank.symm.trans (all c inside))
  simpa [spelled, none before, none after] using member

/-- Of a padded text that neither begins nor ends with white space just the padding is trimmed away. -/
theorem trimChars_padded {lead text trail : List Char} (before : ∀ c ∈ lead, isBlank c)
    (after : ∀ c ∈ trail, isBlank c) (head : ∀ c ∈ text.head?, isBlank c = false)
    (last : ∀ c ∈ text.getLast?, isBlank c = false) : trimChars (lead ++ text ++ trail) = text := by
  rw [trimChars_eq, List.append_assoc, List.dropWhile_append_of_pos before]
  cases text with
  | nil => simpa [List.rdropWhile_eq_nil_iff] using fun c member => after c (List.dropWhile_subset _ member)
  | cons first rest =>
    have kept : ((first :: rest) ++ trail).dropWhile isBlank = (first :: rest) ++ trail := by
      simp [head first rfl]
    have ends : ∀ nonempty, ¬ isBlank ((first :: rest).getLast nonempty) = true := by
      intro nonempty
      rw [last _ (List.getLast_mem_getLast? nonempty)]
      exact Bool.false_ne_true
    rw [kept, List.rdropWhile, List.reverse_append,
      List.dropWhile_append_of_pos (by simpa using after), ← List.rdropWhile,
      List.rdropWhile_eq_self_iff.mpr ends]

theorem Padded.trim {text s : String} (padded : Padded text s)
    (head : ∀ c ∈ text.toList.head?, isBlank c = false)
    (last : ∀ c ∈ text.toList.getLast?, isBlank c = false) : trim s = text := by
  obtain ⟨lead, trail, before, after, spelled⟩ := padded
  rw [Text.trim, spelled, trimChars_padded before after head last, String.ofList_toList]

theorem isBlank_of_isDigit {c : Char} (digit : c.isDigit) : isBlank c = false := by
  have range : 48 ≤ c.toNat ∧ c.toNat ≤ 57 := by
    simpa [Char.isDigit, UInt32.le_iff_toNat_le] using digit
  unfold isBlank
  grind

/-- Where the capital letters are, and the small ones above them. -/
theorem isUpper_range {c : Char} (upper : c.isUpper) :
    65 ≤ c.toNat ∧ c.toNat ≤ 90 ∧ c.toLower.toNat = c.toNat + 32 := by
  have range : 65 ≤ c.toNat ∧ c.toNat ≤ 90 := by
    simpa [Char.isUpper, UInt32.le_iff_toNat_le] using upper
  refine ⟨range.1, range.2, ?_⟩
  rw [Char.toLower_eq_of_isUpper upper, Char.toNat_ofNat, if_pos (Or.inl (by omega))]

/-- Neither a capital letter nor its small one is white space. -/
theorem isBlank_toLower (c : Char) : isBlank c.toLower = isBlank c := by
  by_cases upper : c.isUpper
  · obtain ⟨low, high, moved⟩ := isUpper_range upper
    unfold isBlank
    rw [moved]
    grind
  · rw [Char.toLower_eq_of_not_isUpper upper]

theorem trim_toLower (s : String) : trim (toLower s) = toLower (trim s) := by
  have blank : isBlank ∘ Char.toLower = isBlank := funext isBlank_toLower
  simp only [trim, toLower, trimChars, dropBlank, dropBlankEnd, String.toList_ofList, List.dropWhile_map, blank,
    ← List.map_reverse]

theorem not_isUpper_of_mem_toLower {s : String} {c : Char} (member : c ∈ (toLower s).toList) :
    c.isUpper = false := by
  rw [toLower, String.toList_ofList] at member
  obtain ⟨a, -, rfl⟩ := List.mem_map.mp member
  exact Char.isUpper_toLower_eq_false a

theorem toLower_eq_empty {s : String} : toLower s = "" ↔ s = "" := by
  rw [← String.toList_inj, toLower, String.toList_ofList, ← String.toList_inj]
  exact List.map_eq_nil_iff

end ServiceKit.Text
