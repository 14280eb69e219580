import ServiceKit.Proofs.Forwarded.Chain
import ServiceKit.Proofs.Http.Indexing
import ServiceKit.Proofs.Value.Integer

namespace ServiceKit

namespace Headers

theorem get?_eq_lookup (h : Headers) (name : String) : h.get? name = Json.lookup name h := by
  induction h with
  | nil => rfl
  | cons f rest ih =>
    rw [Json.lookup_cons, ← ih]
    by_cases same : f.1 = name <;> simp [get?, getAll, same]

/-- A character of a legible value is written as the byte it stands for. -/
theorem utf8_glyph {b : UInt8} (visible : isVisible b = true) : String.utf8EncodeChar (glyph b) = [b] := by
  have small : b.toNat < 128 := by
    simp only [isVisible, Bool.or_eq_true, Bool.and_eq_true, decide_eq_true_eq, beq_iff_eq] at visible
    omega
  have single : (glyph b).utf8Size = 1 := by
    rw [Char.utf8Size_eq_one_iff, UInt32.le_iff_toNat_le]
    exact (toNat_glyph b).trans_le (Nat.le_of_lt_succ small)
  rw [String.utf8EncodeChar_eq_singleton single, List.singleton_inj]
  apply UInt8.toNat_inj.mp
  change (glyph b).toNat % 256 = b.toNat
  rw [toNat_glyph]
  omega

theorem ofString_glyphs {value : Bytes} (legible : Legible value) : Bytes.ofString (glyphs value) = value := by
  have encoded : Bytes.ofString (glyphs value) = (value.map glyph).flatMap String.utf8EncodeChar := by
    rw [glyphs, Bytes.ofString, String.toUTF8_eq_toByteArray, String.toByteArray_ofList, List.utf8Encode,
      List.toList_data_toByteArray]
  rw [encoded, List.flatMap_map]
  clear encoded
  induction value with
  | nil => rfl
  | cons b rest ih =>
    obtain ⟨first, later⟩ := List.forall_mem_cons.mp legible
    rw [List.flatMap_cons, utf8_glyph first, ih later, List.singleton_append]

/-- Only a legible value has a text, and the value is the text's UTF-8. -/
theorem ofString_of_text? {value : Bytes} {text : String} (read : text? value = some text) :
    Bytes.ofString text = value := by
  rw [text?_eq] at read
  split_ifs at read with legible
  exact Option.some.inj read ▸ ofString_glyphs legible

end Headers

namespace CustomHeaders
open Headers (Legible)

/-- The value of a name under a key. -/
def stored? (table : CustomHeaders) (key name : String) : Option Bytes :=
  (table.stored key name).head?

/-- The value of a name for a status: that under the code itself, or else under its class, or else under the
default. -/
def governing? (table : CustomHeaders) (status : Nat) (name : String) : Option Bytes :=
  (table.stored? (toString status) name).or
    ((table.stored? (toString (status / 100) ++ "xx") name).or (table.stored? "default" name))

variable {raw : HeaderTable} {table : CustomHeaders}

theorem stored?_eq (table : CustomHeaders) (key name : String) :
    table.stored? key name = (Json.lookup key table).bind (Headers.get? · name) := by
  unfold stored? stored
  cases Json.lookup key table <;> rfl

theorem single_of_ofTable (accepted : ofTable raw = .ok table) (key : String) :
    Headers.Single ((Json.lookup key table).getD []) := by
  cases found : Json.lookup key table with
  | none => exact List.Pairwise.nil
  | some hs =>
    obtain ⟨entry, -, indexes⟩ :=
      Outcome.exists_of_mem_right (ofTable_ok accepted).2 (Json.mem_of_lookup found)
    have made : hs = Headers.setAll [] (wire entry.2) := indexes.headers
    have empty : Headers.Single [] := List.nodup_nil
    rw [Option.getD_some, made]
    exact Headers.single_setAll empty _

/-- A key whose headers are laid over others is heard where it has a name, and only there. -/
theorem getAll_setAll_row (accepted : ofTable raw = .ok table) (h : Headers) (key name : String) :
    (h.setAll ((Json.lookup key table).getD [])).getAll name =
      (table.stored? key name).elim (h.getAll name) ([·]) := by
  have own : table.stored? key name = Json.lookup name ((Json.lookup key table).getD []) :=
    Headers.get?_eq_lookup _ name
  rw [Headers.getAll_setAll, Json.lookup_reverse name (single_of_ofTable accepted key), ← own]

/-- Laying the keys over each other, the least specific first, is searching them from the other end. -/
theorem getAll_forStatus (accepted : ofTable raw = .ok table) (status : Nat) (name : String) :
    (table.forStatus status).getAll name = (table.governing? status name).toList := by
  unfold forStatus keysOf governing?
  simp only [List.foldl_cons, List.foldl_nil, getAll_setAll_row accepted]
  cases table.stored? (toString status) name <;>
    cases table.stored? (toString (status / 100) ++ "xx") name <;>
      cases table.stored? "default" name <;> rfl

theorem fetch?_eq (table : CustomHeaders) {name n : String} (valid : Headers.name? name = some n)
    (status : Nat) : table.fetch? name status = (table.governing? status n).bind Headers.text? := by
  have searched : (keysOf status).reverse.findSome? (fun key => (Json.lookup key table).bind (·.get? n)) =
      table.governing? status n := by
    simp only [keysOf, List.reverse_cons, List.reverse_nil, List.nil_append, List.cons_append,
      List.findSome?_cons, List.findSome?_nil, ← stored?_eq, governing?]
    cases table.stored? (toString status) n <;>
      cases table.stored? (toString (status / 100) ++ "xx") n <;>
        cases table.stored? "default" n <;> rfl
  rw [← searched]
  unfold fetch?
  rw [valid]
  rfl

theorem isSome_governing?_iff {status : Nat} {name : String} :
    (table.governing? status name).isSome ↔ (table.stored? (toString status) name).isSome ∨
      (table.stored? (toString (status / 100) ++ "xx") name).isSome ∨ (table.stored? "default" name).isSome := by
  simp [governing?]

/-- In an accepted table a status has the names that its code, its class or the default has, each with the
value of the most specific of these; a search for one name finds this value, unless it is no text. -/
theorem precedence_of_accepted (accepted : ofTable raw = .ok table) (status : Nat) {name n : String}
    (valid : Headers.name? name = some n) :
    ((table.forStatus status).contains n = true ↔ (table.stored? (toString status) n).isSome ∨
      (table.stored? (toString (status / 100) ++ "xx") n).isSome ∨ (table.stored? "default" n).isSome) ∧
    (table.forStatus status).getAll n = (table.governing? status n).toList ∧
    (∀ text, table.fetch? name status = some text →
      table.governing? status n = some (Bytes.ofString text)) ∧
    (∀ value, table.governing? status n = some value → Legible value →
      ∃ text, table.fetch? name status = some text ∧ Bytes.ofString text = value) := by
  have laid := getAll_forStatus accepted status n
  refine ⟨?_, laid, fun text found => ?_, fun value governs legible => ?_⟩
  · rw [← isSome_governing?_iff]
    have held : (table.forStatus status).contains n = true ↔ (table.forStatus status).getAll n ≠ [] := by
      rw [ne_eq, Headers.getAll_eq_nil_iff, not_not]
      simp [Headers.contains]
    rw [held, laid]
    cases table.governing? status n <;> simp
  · rw [fetch?_eq table valid] at found
    obtain ⟨value, governs, read⟩ := Option.bind_eq_some_iff.mp found
    rw [governs, Headers.ofString_of_text? read]
  · refine ⟨Headers.glyphs value, ?_, Headers.ofString_glyphs legible⟩
    rw [fetch?_eq table valid, governs, Option.bind_some, Headers.text?_eq, if_pos legible]

/-- A name at all three levels, one at two, and one at the lowest alone. -/
def layeredHeaders : HeaderTable :=
  [("404", [("X-A", "code")]), ("4XX", [("X-A", "class"), ("X-B", "é")]),
    ("default", [("X-A", "rest"), ("X-B", "rest"), ("X-C", "rest")])]

theorem precedence_layeredHeaders :
    ∃ table, ofTable layeredHeaders = .ok table ∧
      (Headers.name? "X-a" = some "x-a" ∧ (table.forStatus 404).getAll "x-a" = [Bytes.ofString "code"] ∧
        table.fetch? "X-a" 404 = some "code") ∧
      (Headers.name? "X-B" = some "x-b" ∧ (table.forStatus 499).getAll "x-b" = [Bytes.ofString "é"] ∧
        table.fetch? "X-B" 499 = none) := by
  have accepted : ofTable layeredHeaders = .ok
      [("404", [("x-a", Bytes.ofString "code")]),
        ("4xx", [("x-a", Bytes.ofString "class"), ("x-b", Bytes.ofString "é")]),
        ("default", [("x-a", Bytes.ofString "rest"), ("x-b", Bytes.ofString "rest"),
          ("x-c", Bytes.ofString "rest")])] :=
    Outcome.ok_of_toOption (by decide +kernel)
  have spelled : Headers.name? "X-a" = some "x-a" := by decide +kernel
  have spelled' : Headers.name? "X-B" = some "x-b" := by decide +kernel
  obtain ⟨-, laid, -, fetched⟩ := precedence_of_accepted accepted 404 spelled
  obtain ⟨-, laid', -, -⟩ := precedence_of_accepted accepted 499 spelled'
  obtain ⟨text, atCode, same⟩ := fetched (Bytes.ofString "code") (by decide +kernel) (by decide +kernel)
  refine ⟨_, accepted, ⟨spelled, laid.trans (by decide +kernel), ?_⟩,
    spelled', laid'.trans (by decide +kernel), by decide +kernel⟩
  exact Bytes.ofString_injective same ▸ atCode

/-! ### Keys and the statuses that they are for -/

theorem digitChar_of_range {c : Char} (low : 48 ≤ c.toNat) (high : c.toNat ≤ 57) :
    (c.toNat - 48).digitChar = c := by
  rw [← Char.toNat_inj, Nat.toNat_digitChar_of_lt_ten (by omega)]
  omega

/-- A digit is the digit of a number. -/
theorem exists_digit {c : Char} (digit : c.isDigit = true) : ∃ d < 10, c = Nat.digitChar d := by
  have range := Integer.isDigit_range digit
  have low : 48 ≤ c.toNat := range.1
  have high : c.toNat ≤ 57 := range.2
  exact ⟨c.toNat - 48, by omega, (digitChar_of_range low high).symm⟩

/-- The first digit of a code is one of five. -/
theorem exists_leading {c : Char} (range : '1' ≤ c ∧ c ≤ '5') : ∃ d, 1 ≤ d ∧ d ≤ 5 ∧ c = Nat.digitChar d := by
  have low : 49 ≤ c.toNat := range.1
  have high : c.toNat ≤ 53 := range.2
  exact ⟨c.toNat - 48, by omega, by omega, (digitChar_of_range (by omega) (by omega)).symm⟩

theorem toString_digit {d : Nat} (small : d < 10) : toString d = String.ofList [d.digitChar] := by
  rw [Nat.toString_eq_ofList_toDigits, Nat.toDigits_of_lt_base small]

theorem toString_digits {x y z : Nat} (positive : 1 ≤ x) (small : x < 10) (small' : y < 10) (small'' : z < 10) :
    toString (10 * (10 * x + y) + z) = String.ofList [x.digitChar, y.digitChar, z.digitChar] := by
  rw [Nat.toString_eq_ofList_toDigits, ← Nat.toDigits_append_toDigits (by decide) (by omega) small'',
    ← Nat.toDigits_append_toDigits (by decide) positive small', Nat.toDigits_of_lt_base small,
    Nat.toDigits_of_lt_base small', Nat.toDigits_of_lt_base small'']
  rfl

/-- Every key is for some status of the range that codes have. -/
theorem exists_status {key : String} (isKey : isStatusKey key = true) :
    ∃ status, 100 ≤ status ∧ status ≤ 599 ∧ key ∈ keysOf status := by
  unfold isStatusKey at isKey
  split at isKey
  · next a b c spelled =>
    have written : key = String.ofList [a, b, c] := by rw [← spelled, String.ofList_toList]
    split_ifs at isKey with ofClass digits
    · obtain ⟨rfl, rfl⟩ := ofClass
      obtain ⟨d, low, high, rfl⟩ := exists_leading (of_decide_eq_true isKey)
      refine ⟨100 * d, by omega, by omega, ?_⟩
      have hundreds : 100 * d / 100 = d := by omega
      have named : toString d ++ "xx" = key := by
        rw [written, toString_digit (by omega), ← String.toList_inj]
        simp
      rw [keysOf, hundreds, named]
      exact List.mem_cons_of_mem _ List.mem_cons_self
    · obtain ⟨x, low, high, rfl⟩ := exists_leading (of_decide_eq_true isKey)
      obtain ⟨y, small, rfl⟩ := exists_digit digits.2.1
      obtain ⟨z, small', rfl⟩ := exists_digit digits.2.2
      refine ⟨10 * (10 * x + y) + z, by omega, by omega, ?_⟩
      rw [written, ← toString_digits low (by omega) small small']
      simp [keysOf]
  · refine ⟨100, le_rfl, by decide, ?_⟩
    rw [beq_iff_eq.mp isKey]
    exact List.mem_cons_self

theorem isSome_governing?_of_mem {status : Nat} {key name : String} (applies : key ∈ keysOf status)
    (found : (table.stored? key name).isSome) : (table.governing? status name).isSome := by
  rw [isSome_governing?_iff]
  simp only [keysOf, List.mem_cons, List.not_mem_nil, or_false] at applies
  rcases applies with rfl | rfl | rfl
  · exact Or.inr (Or.inr found)
  · exact Or.inr (Or.inl found)
  · exact Or.inl found

theorem exists_key_of_governing? {status : Nat} {name : String} {value : Bytes}
    (governs : table.governing? status name = some value) : ∃ key, table.stored? key name = some value := by
  simp only [governing?, Option.or_eq_some_iff] at governs
  rcases governs with found | ⟨-, found | ⟨-, found⟩⟩ <;> exact ⟨_, found⟩

/-- The value of a name, however it is spelled, for a status. -/
def valueFor? (table : CustomHeaders) (name : String) (status : Nat) : Option Bytes :=
  (Headers.name? name).bind (table.governing? status)

theorem has_iff (accepted : ofTable raw = .ok table) (name : String) :
    table.has name = true ↔
      ∃ status, 100 ≤ status ∧ status ≤ 599 ∧ (table.valueFor? name status).isSome := by
  unfold has valueFor?
  cases valid : Headers.name? name with
  | none => simp
  | some n =>
    obtain ⟨once, indexed⟩ := ofTable_ok accepted
    simp only [Option.bind_some, List.any_eq_true]
    constructor
    · rintro ⟨row, inTable, held⟩
      obtain ⟨entry, -, indexes⟩ := Outcome.exists_of_mem_right indexed inTable
      obtain ⟨status, low, high, applies⟩ := exists_status indexes.isKey
      refine ⟨status, low, high, isSome_governing?_of_mem applies ?_⟩
      rw [stored?_eq, Json.lookup_of_mem once inTable, Option.bind_some, Headers.get?_eq_lookup,
        Json.isSome_lookup_iff]
      simpa [Headers.contains] using held
    · rintro ⟨status, -, -, governed⟩
      obtain ⟨value, governs⟩ := Option.isSome_iff_exists.mp governed
      obtain ⟨key, found⟩ := exists_key_of_governing? governs
      rw [stored?_eq] at found
      obtain ⟨hs, atKey, inRow⟩ := Option.bind_eq_some_iff.mp found
      rw [Headers.get?_eq_lookup] at inRow
      have member := Json.mem_of_lookup inRow
      exact ⟨(key, hs), Json.mem_of_lookup atKey, List.any_eq_true.mpr ⟨_, member, beq_self_eq_true n⟩⟩

theorem isSome_fetch?_iff (table : CustomHeaders) (name : String) (status : Nat) :
    (table.fetch? name status).isSome ↔ ∃ value, table.valueFor? name status = some value ∧ Legible value := by
  unfold valueFor?
  cases valid : Headers.name? name with
  | none =>
    unfold fetch?
    rw [valid]
    simp
  | some n =>
    rw [fetch?_eq table valid, Option.bind_some]
    cases table.governing? status n with
    | none => simp
    | some value =>
      rw [Option.bind_some, Headers.text?_eq]
      split_ifs with legible <;> simp [legible]

/-- A name is in an accepted table exactly if some status has a value for it. A search finds the value for a
status exactly if it is legible; so the names that are there are those that a search finds for some status,
unless there is one whose value is legible for no status. -/
theorem has_iff_fetched_iff (accepted : ofTable raw = .ok table) (name : String) :
    (table.has name = true ↔
      ∃ status, 100 ≤ status ∧ status ≤ 599 ∧ (table.valueFor? name status).isSome) ∧
    (∀ status, (table.fetch? name status).isSome ↔
      ∃ value, table.valueFor? name status = some value ∧ Legible value) ∧
    ((table.has name = true ↔ ∃ status, 100 ≤ status ∧ status ≤ 599 ∧ (table.fetch? name status).isSome) ↔
      (table.has name = true → ∃ status value, 100 ≤ status ∧ status ≤ 599 ∧
        table.valueFor? name status = some value ∧ Legible value)) := by
  have found := isSome_fetch?_iff table name
  refine ⟨has_iff accepted name, found, ?_⟩
  simp only [found]
  constructor
  · intro agree present
    obtain ⟨status, low, high, value, governs, legible⟩ := agree.mp present
    exact ⟨status, value, low, high, governs, legible⟩
  · intro reached
    refine ⟨fun present => ?_, ?_⟩
    · obtain ⟨status, value, low, high, governs, legible⟩ := reached present
      exact ⟨status, low, high, value, governs, legible⟩
    · rintro ⟨status, low, high, value, governs, -⟩
      exact (has_iff accepted name).mpr ⟨status, low, high, Option.isSome_of_eq_some governs⟩

/-- A value that is no text, alone under its name, and one beside a value that is one. -/
def accentedHeaders : HeaderTable :=
  [("404", [("X-V", "é"), ("X-W", "é")]), ("default", [("X-W", "plain")])]

def accentedTable : CustomHeaders :=
  [("404", [("x-v", Bytes.ofString "é"), ("x-w", Bytes.ofString "é")]),
    ("default", [("x-w", Bytes.ofString "plain")])]

theorem ofTable_accentedHeaders : ofTable accentedHeaders = .ok accentedTable :=
  Outcome.ok_of_toOption (by decide +kernel)

theorem fetched_accentedHeaders :
    ofTable accentedHeaders = .ok accentedTable ∧ accentedTable.has "X-W" = true ∧
      accentedTable.fetch? "X-W" 404 = none ∧
      ∃ status, 100 ≤ status ∧ status ≤ 599 ∧ (accentedTable.fetch? "X-W" status).isSome := by
  obtain ⟨present, -, agree⟩ := has_iff_fetched_iff ofTable_accentedHeaders "X-W"
  have held : accentedTable.has "X-W" = true :=
    present.mpr ⟨404, by decide, by decide, by decide +kernel⟩
  refine ⟨ofTable_accentedHeaders, held, by decide +kernel, (agree.mpr fun _ => ?_).mp held⟩
  exact ⟨200, Bytes.ofString "plain", by decide, by decide, by decide +kernel, by decide +kernel⟩

/-- A name that is in the table, and that no search finds for any status. -/
theorem accented_unfetched :
    ofTable accentedHeaders = .ok accentedTable ∧ accentedTable.has "X-V" = true ∧
      ∀ status, accentedTable.fetch? "X-V" status = none := by
  refine ⟨ofTable_accentedHeaders, by decide +kernel, fun status => ?_⟩
  have spelled : Headers.name? "X-V" = some "x-v" := by decide +kernel
  have atKey : ∀ key, accentedTable.stored? key "x-v" = none ∨
      accentedTable.stored? key "x-v" = some (Bytes.ofString "é") := by
    intro key
    rw [stored?_eq, accentedTable, Json.lookup_cons, Json.lookup_cons]
    split_ifs
    · exact Or.inr (by decide +kernel)
    · exact Or.inl (by decide +kernel)
    · exact Or.inl rfl
  have illegible : Headers.text? (Bytes.ofString "é") = none := by decide +kernel
  rw [fetch?_eq accentedTable spelled, Option.bind_eq_none_iff]
  intro value governs
  obtain ⟨key, found⟩ := exists_key_of_governing? governs
  rcases atKey key with absent | accented
  · cases absent.symm.trans found
  · exact Option.some.inj (accented.symm.trans found) ▸ illegible

end CustomHeaders

end ServiceKit
