import ServiceKit.Proofs.Http.Headers
import ServiceKit.Proofs.Json.Fields
import ServiceKit.Proofs.Outcome

namespace ServiceKit

theorem Bytes.ofString_injective : Function.Injective ofString := by
  intro s t same
  have arrays : s.toUTF8.data = t.toUTF8.data := Array.toList_inj.mp same
  exact String.toByteArray_inj.mp (ByteArray.ext arrays)

namespace Headers

theorem name?_eq_some {s name : String} (valid : name? s = some name) : name = Text.toLower s := by
  unfold name? at valid
  dsimp only at valid
  split_ifs at valid
  exact (Option.some.inj valid).symm

theorem value?_eq_some {s : String} {value : Bytes} (valid : value? s = some value) :
    value = Bytes.ofString s := by
  unfold value? at valid
  dsimp only at valid
  split_ifs at valid
  exact (Option.some.inj valid).symm

/-- Of headers that are set one after the other, the last of a name counts. -/
theorem getAll_setAll (h extra : Headers) (name : String) :
    (h.setAll extra).getAll name = (Json.lookup name extra.reverse).elim (h.getAll name) ([·]) := by
  induction extra generalizing h with
  | nil => rfl
  | cons f rest ih =>
    have next : h.setAll (f :: rest) = (h.set f.1 f.2).setAll rest := rfl
    rw [next, ih, List.reverse_cons, Json.lookup_append, Json.lookup_cons]
    cases Json.lookup name rest.reverse with
    | some value => rfl
    | none =>
      rw [Option.none_or]
      split_ifs with here
      · exact here ▸ getAll_set_self h f.1 f.2
      · exact getAll_set_of_ne (Ne.symm here)

end Headers

namespace CustomHeaders

/-- What tells keys and names apart: neither their case nor the blanks around them. -/
def folded (text : String) : String :=
  Text.toLower (Text.trim text)

/-- The headers of a row as they stand on the wire. -/
def wire (headers : List (String × String)) : Headers :=
  headers.map fun f => (folded f.1, Bytes.ofString f.2)

/-- The values of a name under a key. -/
def stored (table : CustomHeaders) (key name : String) : List Bytes :=
  Headers.getAll ((Json.lookup key table).getD []) name

/-- A row of a table beside the one that it was made of. -/
structure Indexes (raw : String × List (String × String)) (row : String × Headers) : Prop where
  key : row.1 = folded raw.1
  isKey : isStatusKey row.1 = true
  headers : row.2 = Headers.setAll [] (wire raw.2)

variable {raw : HeaderTable} {table : CustomHeaders}

theorem statusKey_ok {text key : String} (read : statusKey text = .ok key) :
    key = folded text ∧ isStatusKey key = true := by
  rw [statusKey, ← folded] at read
  cases isKey : isStatusKey (folded text) with
  | false =>
    rw [isKey] at read
    cases read
  | true =>
    rw [isKey, if_pos rfl] at read
    obtain rfl := Except.ok.inj read
    exact ⟨rfl, isKey⟩

theorem readHeaders_ok {key : String} {entries : List (String × String)} {h headers : Headers}
    (read : readHeaders key h entries = .ok headers) : headers = h.setAll (wire entries) := by
  induction entries generalizing h with
  | nil => exact (Except.ok.inj read).symm
  | cons entry rest ih =>
    obtain ⟨name, value⟩ := entry
    unfold readHeaders at read
    split_ifs at read
    split at read
    · cases read
    · next n validName =>
      split at read
      · cases read
      · next v validValue =>
        rw [Headers.name?_eq_some validName, Headers.value?_eq_some validValue] at read
        exact ih read

/-- Rows are added as long as their keys are new. -/
theorem readRows_ok {before : CustomHeaders} (once : (before.map Prod.fst).Nodup)
    (read : readRows before raw = .ok table) :
    (table.map Prod.fst).Nodup ∧ ∃ rows, table = before ++ rows ∧ List.Forall₂ Indexes raw rows := by
  induction raw generalizing before with
  | nil =>
    cases read
    exact ⟨once, [], (List.append_nil table).symm, .nil⟩
  | cons entry rest ih =>
    obtain ⟨status, headers⟩ := entry
    unfold readRows at read
    split at read
    · cases read
    · next key atKey =>
      split at read
      · cases read
      · next hs atHeaders =>
        split_ifs at read with repeated
        have fresh : key ∉ before.map Prod.fst := by
          intro member
          obtain ⟨row, inTable, rfl⟩ := List.mem_map.mp member
          exact repeated (List.any_eq_true.mpr ⟨row, inTable, beq_self_eq_true row.1⟩)
        have wider : ((before ++ [(key, hs)]).map Prod.fst).Nodup := by
          rw [List.map_append, List.map_singleton, ← List.concat_eq_append]
          exact once.concat fresh
        obtain ⟨onceAll, rows, rfl, indexed⟩ := ih wider read
        obtain ⟨same, isKey⟩ := statusKey_ok atKey
        refine ⟨onceAll, (key, hs) :: rows, List.append_assoc .., .cons ?_ indexed⟩
        exact ⟨same, isKey, readHeaders_ok atHeaders⟩

/-- An accepted table has a row for each of its source, in order, and no two of them have one key. -/
theorem ofTable_ok (accepted : ofTable raw = .ok table) :
    (table.map Prod.fst).Nodup ∧ List.Forall₂ Indexes raw table := by
  have empty : (([] : CustomHeaders).map Prod.fst).Nodup := List.Pairwise.nil
  obtain ⟨once, rows, rfl, indexed⟩ := readRows_ok empty accepted
  exact ⟨once, indexed⟩

/-- Under the key of a row stands, for each name, the last value that the row has for it. -/
theorem stored_of_mem (accepted : ofTable raw = .ok table) {row : String × List (String × String)}
    (member : row ∈ raw) (name : String) :
    table.stored (folded row.1) name = (Json.lookup name (wire row.2).reverse).toList := by
  obtain ⟨once, indexed⟩ := ofTable_ok accepted
  obtain ⟨made, inTable, indexes⟩ := Outcome.exists_of_mem_right indexed.flip member
  rw [stored, ← indexes.key, Json.lookup_of_mem once inTable, Option.getD_some, indexes.headers,
    Headers.getAll_setAll]
  cases Json.lookup name (wire row.2).reverse <;> rfl

/-- Every header of the source is held by the table. -/
def Keeps (table : CustomHeaders) (raw : HeaderTable) : Prop :=
  ∀ row ∈ raw, ∀ f ∈ row.2, Bytes.ofString f.2 ∈ table.stored (folded row.1) (folded f.1)

/-- An accepted table holds for each status key and name the last value given; so none is lost exactly if no
two values of one status key are given to names that differ in case and blanks alone. -/
theorem keeps_iff_unambiguous (accepted : ofTable raw = .ok table) :
    (∀ row ∈ raw, ∀ name,
      table.stored (folded row.1) name = (Json.lookup name (wire row.2).reverse).toList) ∧
    (table.Keeps raw ↔ ∀ row ∈ raw, ∀ f ∈ row.2, ∀ g ∈ row.2, folded f.1 = folded g.1 → f.2 = g.2) := by
  refine ⟨fun row member name => stored_of_mem accepted member name, ?_⟩
  refine forall₂_congr fun row member => ?_
  calc (∀ f ∈ row.2, Bytes.ofString f.2 ∈ table.stored (folded row.1) (folded f.1))
      ↔ ∀ f ∈ wire row.2, Json.lookup f.1 (wire row.2).reverse = some f.2 := by
        simp only [wire, List.forall_mem_map, stored_of_mem accepted member, Option.mem_toList]
    _ ↔ ∀ f ∈ wire row.2, ∀ g ∈ wire row.2, f.1 = g.1 → f.2 = g.2 := Json.all_found_iff
    _ ↔ ∀ f ∈ row.2, ∀ g ∈ row.2, folded f.1 = folded g.1 → f.2 = g.2 := by
        simp only [wire, List.forall_mem_map, Bytes.ofString_injective.eq_iff]

/-- Keys and names in all kinds of spelling, no two of them for the same header. -/
def spelledHeaders : HeaderTable :=
  [(" 4XX\t", [(" X-B", "2"), ("X-A ", "1")]), ("404", [("x-a", "3")]), ("Default", [("X-A", "4")])]

theorem keeps_spelledHeaders :
    ∃ table, ofTable spelledHeaders = .ok table ∧ table.Keeps spelledHeaders ∧
      table.stored "4xx" "x-a" = [Bytes.ofString "1"] ∧ table.stored "404" "x-a" = [Bytes.ofString "3"] := by
  have isAccepted : (ofTable spelledHeaders).toOption.isSome := by decide +kernel
  obtain ⟨table, found⟩ := Option.isSome_iff_exists.mp isAccepted
  have accepted := Outcome.ok_of_toOption found
  obtain ⟨holds, kept⟩ := keeps_iff_unambiguous accepted
  have first := holds (" 4XX\t", [(" X-B", "2"), ("X-A ", "1")]) List.mem_cons_self "x-a"
  have second := holds ("404", [("x-a", "3")]) (List.mem_cons_of_mem _ List.mem_cons_self) "x-a"
  exact ⟨table, accepted, kept.mpr (by decide +kernel), first.trans (by decide +kernel),
    second.trans (by decide +kernel)⟩

/-- Two names that differ in case alone. -/
def twinHeaders : HeaderTable :=
  [("default", [("X-A", "upper"), ("x-a", "lower")])]

/-- The table is accepted, and the first of the two headers is lost. -/
theorem twin_overwritten :
    ∃ table, ofTable twinHeaders = .ok table ∧ table.stored "default" "x-a" = [Bytes.ofString "lower"] ∧
      ¬ table.Keeps twinHeaders := by
  have accepted : ofTable twinHeaders = .ok [("default", [("x-a", Bytes.ofString "lower")])] :=
    Outcome.ok_of_toOption (by decide +kernel)
  refine ⟨_, accepted, by decide +kernel, fun keeps => ?_⟩
  have held := keeps _ List.mem_cons_self ("X-A", "upper") List.mem_cons_self
  exact absurd held (by decide +kernel)

end CustomHeaders

end ServiceKit
