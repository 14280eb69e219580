import ServiceKit.Hcl.Decode
import ServiceKit.Proofs.Json.Fields

namespace ServiceKit.Hcl

theorem entriesToJson_eq_map (es : List (String × Entry)) :
    entriesToJson es = es.map fun e => (e.1, e.2.toJson) := by
  induction es with
  | nil => rfl
  | cons e rest ih => rw [entriesToJson, ih, List.map_cons]

variable {es : List (String × Entry)} {key : String}

theorem mergeEntry_cons (key : String) (e : Entry) (first : String × Entry) (rest : List (String × Entry)) :
    mergeEntry key e (first :: rest) =
      if first.1 = key then (first.1, first.2.merge e) :: rest else first :: mergeEntry key e rest := by
  rw [mergeEntry]

theorem lookup_mergeEntry (key other : String) (e : Entry) (es : List (String × Entry)) :
    Json.lookup key (mergeEntry other e es) =
      if other = key then some ((Json.lookup key es).elim e (·.merge e)) else Json.lookup key es := by
  induction es with
  | nil =>
    rw [mergeEntry]
    exact Json.lookup_cons key (other, e) []
  | cons first rest ih =>
    rw [mergeEntry_cons]
    by_cases same : first.1 = other
    · rw [if_pos same, Json.lookup_cons, Json.lookup_cons, same]
      split_ifs <;> rfl
    · rw [if_neg same, Json.lookup_cons, Json.lookup_cons, ih]
      split_ifs with here found
      · exact absurd (here.trans found.symm) same
      all_goals rfl

theorem mem_names_mergeEntry {other : String} {e : Entry} :
    key ∈ (mergeEntry other e es).map Prod.fst ↔ other = key ∨ key ∈ es.map Prod.fst := by
  rw [← Json.isSome_lookup_iff, lookup_mergeEntry, ← Json.isSome_lookup_iff]
  split_ifs with same <;> simp [same]

theorem nodup_mergeEntry (other : String) (e : Entry) (once : (es.map Prod.fst).Nodup) :
    ((mergeEntry other e es).map Prod.fst).Nodup := by
  induction es with
  | nil =>
    rw [mergeEntry]
    exact List.pairwise_singleton _ _
  | cons first rest ih =>
    obtain ⟨fresh, later⟩ := List.nodup_cons.mp once
    rw [mergeEntry_cons]
    split_ifs with same
    · exact once
    · refine List.nodup_cons.mpr ⟨fun member => ?_, ih later⟩
      rcases mem_names_mergeEntry.mp member with here | inRest
      · exact same here.symm
      · exact fresh inRest

theorem putValue_cons (key : String) (v : Json) (e : String × Entry) (rest : List (String × Entry)) :
    putValue key v (e :: rest) = if e.1 = key then (e.1, .value v) :: rest else e :: putValue key v rest :=
  rfl

/-- A value replaces whatever a name held. -/
theorem putValue_eq_mergeEntry (key : String) (v : Json) (es : List (String × Entry)) :
    putValue key v es = mergeEntry key (.value v) es := by
  induction es with
  | nil =>
    rw [mergeEntry]
    rfl
  | cons first rest ih =>
    have replaced : first.2.merge (.value v) = .value v := by simp [Entry.merge]
    rw [putValue_cons, mergeEntry_cons, ih, replaced]

theorem lookup_putValue (name key : String) (v : Json) (es : List (String × Entry)) :
    Json.lookup name (putValue key v es) = if key = name then some (.value v) else Json.lookup name es := by
  have replaced : (Json.lookup name es).elim (.value v) (·.merge (.value v)) = .value v := by
    cases Json.lookup name es <;> simp [Entry.merge]
  rw [putValue_eq_mergeEntry, lookup_mergeEntry, replaced]

theorem nodup_putValue (key : String) (v : Json) (once : (es.map Prod.fst).Nodup) :
    ((putValue key v es).map Prod.fst).Nodup :=
  putValue_eq_mergeEntry key v es ▸ nodup_mergeEntry key (.value v) once

/-- Values that are put in one after the other. -/
def putAll (es : List (String × Entry)) (vs : List (String × Json)) : List (String × Entry) :=
  vs.foldl (fun es v => putValue v.1 v.2 es) es

theorem nodup_putAll (vs : List (String × Json)) (once : (es.map Prod.fst).Nodup) :
    ((putAll es vs).map Prod.fst).Nodup := by
  induction vs generalizing es with
  | nil => exact once
  | cons v rest ih => exact ih (nodup_putValue v.1 v.2 once)

theorem lookup_putAll (name : String) (es : List (String × Entry)) (vs : List (String × Json)) :
    Json.lookup name (putAll es vs) =
      ((Json.lookup name vs.reverse).map .value).or (Json.lookup name es) := by
  induction vs generalizing es with
  | nil => rfl
  | cons v rest ih =>
    have next : putAll es (v :: rest) = putAll (putValue v.1 v.2 es) rest := rfl
    rw [next, ih, lookup_putValue, List.reverse_cons, Json.lookup_append, Json.lookup_cons]
    cases Json.lookup name rest.reverse with
    | some w => rfl
    | none => split_ifs <;> rfl

namespace Body

/-- The values of the attributes, in order, if all of them have one. -/
def values? (b : Body) : Option (List (String × Json)) :=
  (attributes b).mapM fun a => a.2.toJson?.map (a.1, ·)

/-- What the attributes set a name to. The last one of a name counts, and null sets nothing. -/
def setting? (b : Body) (name : String) : Option Json :=
  (b.values?.bind fun vs => Json.lookup name vs.reverse).filter (!·.isNull)

theorem values?_attr (name : String) (e : Expr) (b : Body) :
    values? (.attr name e :: b) = e.toJson?.bind fun v => b.values?.map fun vs => (name, v) :: vs := by
  have step : values? (.attr name e :: b) = (e.toJson?.map (name, ·)).bind fun v =>
      b.values?.bind fun vs => some (v :: vs) := by
    unfold values?
    exact List.mapM_cons
  rw [step]
  cases e.toJson? with
  | none => rfl
  | some v => cases b.values? <;> rfl

theorem values?_append {a b : Body} {vs ws : List (String × Json)} (left : a.values? = some vs)
    (right : b.values? = some ws) : values? (a ++ b) = some (vs ++ ws) := by
  unfold values? at *
  rw [attributes_append, List.mapM_append, left, right]
  rfl

theorem names_of_values? {b : Body} {vs : List (String × Json)} (found : b.values? = some vs) :
    vs.map Prod.fst = (attributes b).map Prod.fst := by
  induction b generalizing vs with
  | nil =>
    cases found
    rfl
  | cons item b ih =>
    cases item with
    | attr name e =>
      rw [values?_attr] at found
      obtain ⟨v, -, found⟩ := Option.bind_eq_some_iff.mp found
      obtain ⟨rest, later, rfl⟩ := Option.map_eq_some_iff.mp found
      exact congrArg (name :: ·) (ih later)
    | block name labels inner => exact ih found

theorem addAll_withoutBlocks (b : Body) (es : List (String × Entry)) :
    addAll es b.withoutBlocks = b.values?.map (putAll es) := by
  induction b generalizing es with
  | nil => rfl
  | cons item b ih =>
    cases item with
    | attr name e =>
      have step : addAll es (withoutBlocks (.attr name e :: b)) =
          (e.toJson?.map fun v => putValue name v es).bind fun es => addAll es (withoutBlocks b) := rfl
      rw [step, values?_attr]
      cases e.toJson? with
      | none => rfl
      | some v =>
        change addAll (putValue name v es) (withoutBlocks b) = _
        rw [ih]
        cases values? b <;> rfl
    | block name labels inner => exact ih es

/-- Attributes are read as the fields that they set. -/
theorem fields?_withoutBlocks (b : Body) :
    fields? b.withoutBlocks =
      b.values?.map fun vs => (Json.ofFields (entriesToJson (putAll [] vs))).toFields := by
  unfold fields?
  rw [addAll_withoutBlocks, Option.map_map]
  rfl

theorem isSome_fields?_withoutBlocks (b : Body) : (fields? b.withoutBlocks).isSome = b.values?.isSome := by
  rw [fields?_withoutBlocks, Option.isSome_map]

theorem lookup_ofFields_putAll (name : String) (vs : List (String × Json)) :
    Json.lookup name (Json.ofFields (entriesToJson (putAll [] vs))).toFields =
      Json.lookup name vs.reverse := by
  have once : ((entriesToJson (putAll [] vs)).map Prod.fst).Nodup := by
    rw [entriesToJson_eq_map, List.map_map]
    exact nodup_putAll vs List.Pairwise.nil
  rw [Json.lookup_ofFields, Json.lookup_reverse name once, entriesToJson_eq_map, Json.lookup_map,
    lookup_putAll]
  cases Json.lookup name vs.reverse <;> rfl

/-- Attributes that are read hold under each name what they set it to, or null. -/
theorem filter_lookup_eq_setting? {b : Body} {fields : List (String × Json)}
    (read : fields? b.withoutBlocks = some fields) (name : String) :
    (Json.lookup name fields).filter (!·.isNull) = b.setting? name := by
  rw [fields?_withoutBlocks] at read
  obtain ⟨vs, found, rfl⟩ := Option.map_eq_some_iff.mp read
  rw [lookup_ofFields_putAll, setting?, found]
  rfl

/-- The names of the fields are those of the attributes, each once. -/
theorem names_of_fields? {b : Body} {fields : List (String × Json)}
    (read : fields? b.withoutBlocks = some fields) :
    (fields.map Prod.fst).Nodup ∧
      ∀ name, name ∈ fields.map Prod.fst ↔ name ∈ (attributes b).map Prod.fst := by
  rw [fields?_withoutBlocks] at read
  obtain ⟨vs, found, rfl⟩ := Option.map_eq_some_iff.mp read
  refine ⟨(Json.sorted_ofFields _).nodup, fun name => ?_⟩
  rw [← Json.isSome_lookup_iff, lookup_ofFields_putAll, Json.isSome_lookup_iff, List.map_reverse,
    List.mem_reverse, names_of_values? found]

/-- A name is set only by an attribute. -/
theorem mem_of_lookup_values? {b : Body} {vs : List (String × Json)} {name : String} {v : Json}
    (values : b.values? = some vs) (found : Json.lookup name vs.reverse = some v) :
    name ∈ (attributes b).map Prod.fst := by
  rw [← names_of_values? values, ← List.mem_reverse, ← List.map_reverse, ← Json.isSome_lookup_iff, found]
  rfl

theorem mem_of_setting? {b : Body} {name : String} {v : Json} (found : b.setting? name = some v) :
    name ∈ (attributes b).map Prod.fst := by
  obtain ⟨found, -⟩ := Option.filter_eq_some_iff.mp found
  obtain ⟨vs, values, found⟩ := Option.bind_eq_some_iff.mp found
  exact mem_of_lookup_values? values found

/-- Of bodies without a common name, each sets what it sets alone. -/
theorem setting?_append {a b : Body} (isRead : a.values?.isSome) (isRead' : b.values?.isSome)
    (apart : ∀ name ∈ (attributes a).map Prod.fst, name ∉ (attributes b).map Prod.fst) (name : String) :
    setting? (a ++ b) name = (b.setting? name).or (a.setting? name) := by
  obtain ⟨vs, left⟩ := Option.isSome_iff_exists.mp isRead
  obtain ⟨ws, right⟩ := Option.isSome_iff_exists.mp isRead'
  rw [setting?, setting?, setting?, values?_append left right, left, right]
  simp only [Option.bind_some, List.reverse_append, Json.lookup_append]
  cases inSecond : Json.lookup name ws.reverse with
  | none => rfl
  | some w =>
    cases inFirst : Json.lookup name vs.reverse with
    | none => exact Option.or_none.symm
    | some v =>
      exact absurd (mem_of_lookup_values? right inSecond) (apart name (mem_of_lookup_values? left inFirst))

end Body

end ServiceKit.Hcl
