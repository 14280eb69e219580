import ServiceKit.Proofs.Hcl.Settings

namespace ServiceKit.Json

/-- The fields of an object; of a list, those of its first object. -/
def firstObject? : Json → Option (List (String × Json))
  | .obj fields => some fields
  | .arr items =>
    items.findSome? fun
      | .obj fields => some fields
      | _ => none
  | _ => none

end ServiceKit.Json

namespace ServiceKit.Hcl
variable {es : List (String × Entry)} {key : String}

/-! ### What a body leaves under a name -/

namespace Item

def name : Item → String
  | attr name _ => name
  | block name _ _ => name

/-- What an item adds under its name. -/
def entry? : Item → Option Entry
  | attr _ value => value.toJson?.map .value
  | block _ labels body => (addAll [] body).map fun es => blockEntry (Json.ofFields (entriesToJson es)) labels

theorem addTo_eq (item : Item) (es : List (String × Entry)) :
    item.addTo es = item.entry?.map fun e => mergeEntry item.name e es := by
  cases item with
  | attr name value =>
    rw [addTo, entry?, Option.map_map]
    exact congrArg (value.toJson?.map ·) (funext fun v => putValue_eq_mergeEntry name v es)
  | block name labels body =>
    rw [addTo, entry?]
    cases addAll [] body <;> rfl

end Item

/-- An item more: where all before it could be decoded, it only touches what its name holds. -/
theorem addAll_cons {item : Item} {items : List Item} {es' : List (String × Entry)}
    (added : addAll es (item :: items) = some es') :
    ∃ e, item.entry? = some e ∧ addAll (mergeEntry item.name e es) items = some es' := by
  rw [addAll, Item.addTo_eq] at added
  obtain ⟨next, first, rest⟩ := Option.bind_eq_some_iff.mp added
  obtain ⟨e, entry, rfl⟩ := Option.map_eq_some_iff.mp first
  exact ⟨e, entry, rest⟩

theorem mem_names_addAll {items : List Item} {es' : List (String × Entry)} (added : addAll es items = some es') :
    key ∈ es'.map Prod.fst ↔ key ∈ es.map Prod.fst ∨ key ∈ items.map Item.name := by
  induction items generalizing es with
  | nil =>
    cases added
    simp
  | cons item rest ih =>
    obtain ⟨e, -, added⟩ := addAll_cons added
    rw [ih added, mem_names_mergeEntry, List.map_cons, List.mem_cons]
    grind

theorem nodup_addAll {items : List Item} {es' : List (String × Entry)} (once : (es.map Prod.fst).Nodup)
    (added : addAll es items = some es') : (es'.map Prod.fst).Nodup := by
  induction items generalizing es with
  | nil =>
    cases added
    exact once
  | cons item rest ih =>
    obtain ⟨e, -, added⟩ := addAll_cons added
    exact ih (nodup_mergeEntry _ e once) added

theorem sorted_fields? {b : Body} {fields : List (String × Json)} (read : b.fields? = some fields) :
    Json.Sorted fields := by
  obtain ⟨es, -, rfl⟩ := Option.map_eq_some_iff.mp read
  exact Json.sorted_ofFields _

/-- The fields of a body have the names of its items, each once. -/
theorem names_fields? {b : Body} {fields : List (String × Json)} (read : b.fields? = some fields) :
    (fields.map Prod.fst).Nodup ∧ ∀ key, key ∈ fields.map Prod.fst ↔ key ∈ b.map Item.name := by
  refine ⟨(sorted_fields? read).nodup, fun key => ?_⟩
  obtain ⟨es, added, rfl⟩ := Option.map_eq_some_iff.mp read
  rw [Json.mem_names_ofFields, entriesToJson_eq_map, List.map_map]
  have named : key ∈ es.map Prod.fst ↔ _ := mem_names_addAll added
  simpa using named

theorem lookup_fields? {b : Body} {fields : List (String × Json)} (read : b.fields? = some fields) :
    ∃ es, addAll [] b = some es ∧ ∀ key, Json.lookup key fields = (Json.lookup key es).map Entry.toJson := by
  obtain ⟨es, added, rfl⟩ := Option.map_eq_some_iff.mp read
  refine ⟨es, added, fun key => ?_⟩
  have once : ((entriesToJson es).map Prod.fst).Nodup := by
    have empty : (([] : List (String × Entry)).map Prod.fst).Nodup := List.Pairwise.nil
    rw [entriesToJson_eq_map, List.map_map]
    exact nodup_addAll empty added
  rw [Json.lookup_ofFields, Json.lookup_reverse key once, entriesToJson_eq_map, Json.lookup_map]

/-! ### What counts of the items of one name -/

/-- What a body has under a name: the value of an attribute, a block, or the labels of blocks. -/
inductive Source where
  | value (e : Expr)
  | block (b : Body)
  | labels (ls : List String)

namespace Source

/-- An item takes the place of what stands under its name, but for blocks in a row: of those without labels
the first one stays, and of the others the labels are listed. -/
def after (key : String) (held : Option Source) (item : Item) : Option Source :=
  if item.name = key then
    match item, held with
    | .attr _ e, _ => some (value e)
    | .block _ [] _, some (block first) => some (block first)
    | .block _ [] b, _ => some (block b)
    | .block _ (label :: _) _, some (labels ls) => some (labels (ls ++ [label]))
    | .block _ (label :: _) _, _ => some (labels [label])
  else held

/-- The names that a stanza read from there has. -/
def names : Source → List String
  | value e => ((e.toJson?.bind Json.firstObject?).getD []).map Prod.fst
  | block b => b.map Item.name
  | labels ls => ls

end Source

def Body.source? (b : Body) (key : String) : Option Source :=
  b.foldl (Source.after key) none

/-- What decoding holds under a name, beside its source. -/
inductive Holds : Option Source → Option Entry → Prop where
  | nothing : Holds none none
  | value {e : Expr} {v : Json} (read : e.toJson? = some v) : Holds (some (.value e)) (some (.value v))
  | block {b : Body} {fields : List (String × Json)} (read : b.fields? = some fields) (more : List Json) :
      Holds (some (.block b)) (some (.bodies (.obj fields :: more)))
  | labels {ls : List String} {entries : List (String × Entry)}
      (same : ∀ label, label ∈ entries.map Prod.fst ↔ label ∈ ls) :
      Holds (some (.labels ls)) (some (.labelled entries))

theorem Holds.after {held : Option Source} {found : Option Entry} (holds : Holds held found) {item : Item} {e : Entry}
    (entry : item.entry? = some e) :
    Holds (Source.after item.name held item) (some (found.elim e (·.merge e))) := by
  unfold Source.after
  rw [if_pos rfl]
  cases item with
  | attr name value =>
    obtain ⟨v, read, rfl⟩ := Option.map_eq_some_iff.mp entry
    have replaced : found.elim (.value v) (·.merge (.value v)) = .value v := by
      cases found <;> simp [Entry.merge]
    rw [replaced]
    exact .value read
  | block name labels body =>
    obtain ⟨inner, added, rfl⟩ := Option.map_eq_some_iff.mp entry
    have read : Body.fields? body = some (Json.ofFields (entriesToJson inner)).toFields := by
      rw [Body.fields?, added]
      rfl
    cases labels with
    | nil =>
      cases holds with
      | nothing => exact .block read []
      | block first more =>
        simp only [Option.elim_some, blockEntry, Entry.merge, List.cons_append]
        exact .block first _
      | value _ | labels _ =>
        simp only [Option.elim_some, blockEntry, Entry.merge]
        exact .block read []
    | cons label labels =>
      have alone : ∀ x : Entry, ∀ other, other ∈ [(label, x)].map Prod.fst ↔ other ∈ [label] := by simp
      cases holds with
      | nothing => exact .labels (alone _)
      | value _ | block _ _ =>
        simp only [Option.elim_some, blockEntry, Entry.merge]
        exact .labels (alone _)
      | labels same =>
        simp only [Option.elim_some, blockEntry, Entry.merge, mergeEntries]
        refine .labels fun other => ?_
        rw [mem_names_mergeEntry, same]
        simp [or_comm, eq_comm]

/-- What decoding holds under a name comes from the source that its items leave. -/
theorem Holds.addAll {held : Option Source} {es es' : List (String × Entry)} {items : List Item}
    (holds : Holds held (Json.lookup key es)) (added : addAll es items = some es') :
    Holds (items.foldl (Source.after key) held) (Json.lookup key es') := by
  induction items generalizing held es with
  | nil =>
    cases added
    exact holds
  | cons item rest ih =>
    obtain ⟨e, entry, added⟩ := addAll_cons added
    refine ih ?_ added
    rw [lookup_mergeEntry]
    split_ifs with same
    · subst same
      exact holds.after entry
    · unfold Source.after
      rw [if_neg same]
      exact holds

theorem mem_of_valuesOf {items : List Expr} {vs : List Json} (read : valuesOf items = some vs) :
    ∀ v ∈ vs, ∃ e ∈ items, e.toJson? = some v := by
  induction items generalizing vs with
  | nil =>
    cases read
    exact fun _ => nofun
  | cons e rest ih =>
    obtain ⟨v, first, read⟩ := Option.bind_eq_some_iff.mp read
    obtain ⟨more, later, same⟩ := Option.bind_eq_some_iff.mp read
    cases same
    intro w member
    rcases List.mem_cons.mp member with rfl | member
    · exact ⟨e, List.mem_cons_self, first⟩
    · obtain ⟨e', inRest, read⟩ := ih later w member
      exact ⟨e', List.mem_cons_of_mem e inRest, read⟩

namespace Expr

/-- An object that is the value of an expression has its names in order. -/
theorem sorted_of_object {e : Expr} {fields : List (String × Json)} (read : e.toJson? = some (.obj fields)) :
    Json.Sorted fields := by
  cases e with
  | object items =>
    obtain ⟨fs, -, same⟩ := Option.map_eq_some_iff.mp read
    have sorted := Json.sorted_ofFields fs
    rw [same] at sorted
    exact sorted
  | paren inner => exact sorted_of_object (e := inner) read
  | array items =>
    obtain ⟨vs, -, same⟩ := Option.map_eq_some_iff.mp read
    cases same
  | _ => cases read

theorem sorted_of_firstObject? {e : Expr} {v : Json} {fields : List (String × Json)}
    (read : e.toJson? = some v) (first : v.firstObject? = some fields) : Json.Sorted fields := by
  cases e with
  | array items =>
    obtain ⟨vs, values, rfl⟩ := Option.map_eq_some_iff.mp read
    obtain ⟨w, member, isObject⟩ := List.exists_of_findSome?_eq_some first
    obtain ⟨e, -, read⟩ := mem_of_valuesOf values w member
    cases w with
    | obj inner =>
      cases isObject
      exact sorted_of_object read
    | _ => cases isObject
  | paren inner => exact sorted_of_firstObject? (e := inner) read first
  | object items =>
    obtain ⟨fs, -, rfl⟩ := Option.map_eq_some_iff.mp read
    cases first
    exact Json.sorted_ofFields fs
  | _ =>
    cases read
    cases first

end Expr

/-- Of listed blocks the first one is read. -/
theorem firstObject?_bodies (fields : List (String × Json)) (more : List Json) :
    (Entry.bodies (.obj fields :: more)).toJson.firstObject? = some fields := by
  cases more <;> rfl

/-- Below a name stand the names of its source, each once. -/
theorem Holds.names {held : Option Source} {found : Option Entry} {below : List (String × Json)}
    (holds : Holds held found) (read : ((found.map Entry.toJson).bind Json.firstObject?).getD [] = below) :
    (below.map Prod.fst).Nodup ∧ ∀ name, name ∈ below.map Prod.fst ↔ name ∈ held.elim [] Source.names := by
  subst read
  cases holds with
  | nothing => exact ⟨List.Pairwise.nil, fun _ => Iff.rfl⟩
  | @value e v atExpr =>
    have same : Source.names (.value e) = (v.firstObject?.getD []).map Prod.fst := by
      rw [Source.names, atExpr]
      rfl
    refine ⟨?_, fun name => by rw [Option.elim_some, same]; rfl⟩
    change ((v.firstObject?.getD []).map Prod.fst).Nodup
    cases first : v.firstObject? with
    | none => exact List.Pairwise.nil
    | some fields => exact (Expr.sorted_of_firstObject? atExpr first).nodup
  | block atBody more =>
    rw [Option.map_some, Option.bind_some, firstObject?_bodies]
    exact names_fields? atBody
  | @labels ls entries same =>
    refine ⟨(Json.sorted_ofFields (entriesToJson entries)).nodup, fun name => ?_⟩
    refine Json.mem_names_ofFields.trans ?_
    rw [entriesToJson_eq_map, List.map_map]
    exact same name

/-- The names of the stanza that a body has below a name. -/
def Body.namesBelow (b : Body) (key : String) : List String :=
  (b.source? key).elim [] Source.names

theorem names_below {b : Body} {fields below : List (String × Json)} {key : String}
    (read : b.fields? = some fields) (first : ((Json.lookup key fields).bind Json.firstObject?).getD [] = below) :
    (below.map Prod.fst).Nodup ∧ ∀ name, name ∈ below.map Prod.fst ↔ name ∈ b.namesBelow key := by
  obtain ⟨es, added, same⟩ := lookup_fields? read
  rw [same] at first
  exact (Holds.addAll Holds.nothing added).names first

end ServiceKit.Hcl
