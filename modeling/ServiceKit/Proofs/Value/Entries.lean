import ServiceKit.Proofs.Outcome
import ServiceKit.Proofs.Text.Splitting
import ServiceKit.Proofs.Text.Trimming
import ServiceKit.Value.Scalar

namespace ServiceKit.Value

/-- The entries of a list are trimmed, and none is empty. -/
theorem tidy_of_mem {entries : List String} {entry : String} (member : entry ∈ tidy entries) :
    entry ≠ "" ∧ Text.trim entry = entry := by
  obtain ⟨trimmed, nonempty⟩ := List.mem_filter.mp member
  obtain ⟨raw, -, rfl⟩ := List.mem_map.mp trimmed
  exact ⟨of_decide_eq_true nonempty, Text.trim_trim raw⟩

theorem tidy_tidy (entries : List String) : tidy (tidy entries) = tidy entries := by
  have trimmed : (tidy entries).map Text.trim = tidy entries := by
    rw [List.map_congr_left fun entry member => (tidy_of_mem member).2, List.map_id']
  have nonempty : ∀ entry ∈ tidy entries, decide (entry ≠ "") := fun entry member =>
    decide_eq_true (tidy_of_mem member).1
  rw [tidy, trimmed, List.filter_eq_self.mpr nonempty]

/-- No entries at all make the empty text. That is taken for one entry, which is dropped. -/
theorem tidy_split_intercalate {entries : List String} (plain : ∀ entry ∈ entries, ',' ∉ entry.toList) :
    tidy (Text.split ',' (",".intercalate entries)) = tidy entries := by
  cases entries with
  | nil => decide
  | cons first rest => exact congrArg tidy (Text.split_intercalate (List.cons_ne_nil first rest) plain)

theorem readStrings_strings (entries : List String) : readStrings (Json.strings entries) = .ok (tidy entries) := by
  have read : (entries.map Json.str).mapM listEntry = .ok entries := by
    induction entries with
    | nil => rfl
    | cons first rest ih =>
      rw [List.map_cons, List.mapM_cons, ih]
      rfl
  rw [Json.strings, readStrings, read]
  rfl

theorem readStrings_ok {v : Json} {texts : List String} (ran : readStrings v = .ok texts) :
    ∃ entries, texts = tidy entries := by
  cases v with
  | null => exact ⟨[], (Except.ok.inj ran).symm⟩
  | str s => exact ⟨_, (Except.ok.inj ran).symm⟩
  | arr items =>
    obtain ⟨entries, -, rfl⟩ := Outcome.map_ok ran
    exact ⟨entries, rfl⟩
  | bool b => cases ran
  | num n => cases ran
  | obj fields => cases ran

/-- A list of entries without commas is read as the text that has commas between them is: each entry
without the white space around it, in order, and those left out of which nothing remains. What has been
read of a value stays as it is when it is read again. -/
theorem readStrings_notations :
    (∀ entries : List String, (∀ entry ∈ entries, ',' ∉ entry.toList) →
      readStrings (Json.strings entries) = .ok ((entries.map Text.trim).filter (· ≠ "")) ∧
      readStrings (.str (",".intercalate entries)) = .ok ((entries.map Text.trim).filter (· ≠ ""))) ∧
    ∀ v texts, readStrings v = .ok texts → readStrings (Json.strings texts) = .ok texts := by
  refine ⟨fun entries plain => ⟨readStrings_strings entries, ?_⟩, fun v texts ran => ?_⟩
  · exact congrArg Except.ok (tidy_split_intercalate plain)
  · obtain ⟨entries, rfl⟩ := readStrings_ok ran
    rw [readStrings_strings, tidy_tidy]

/-- Entries that are empty, or become so, stand at either end and in between. -/
theorem readStrings_blankEntries :
    readStrings (Json.strings ["", " api\t", "\u3000", "tags b", ""]) = .ok ["api", "tags b"] ∧
      readStrings (.str ", api\t,\u3000,tags b,") = .ok ["api", "tags b"] ∧
      readStrings (Json.strings ["api", "tags b"]) = .ok ["api", "tags b"] := by
  have plain : ∀ entry ∈ ["", " api\t", "\u3000", "tags b", ""], ',' ∉ entry.toList := by decide
  obtain ⟨listed, joined⟩ := readStrings_notations.1 _ plain
  exact ⟨listed, joined, readStrings_notations.2 _ _ listed⟩

end ServiceKit.Value
