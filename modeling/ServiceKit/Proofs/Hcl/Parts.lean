import Mathlib.Data.List.Forall2
import ServiceKit.Proofs.Hcl.Decoding

namespace ServiceKit.Json

def object? : Json → Option (List (String × Json))
  | .obj fields => some fields
  | _ => none

/-- What is found on a way down through objects; of a list its first object is taken. -/
def at? : Json → List String → Option Json
  | v, [] => some v
  | v, name :: names => (v.firstObject?.bind (lookup name)).bind (·.at? names)

theorem at?_append (v : Json) (names more : List String) :
    v.at? (names ++ more) = (v.at? names).bind (·.at? more) := by
  induction names generalizing v with
  | nil => rfl
  | cons name rest ih =>
    rw [List.cons_append, at?, at?]
    cases v.firstObject?.bind (lookup name) with
    | none => rfl
    | some w => exact ih w

end ServiceKit.Json

namespace ServiceKit.Hcl

namespace Expr

/-- The entries of an object. -/
def object? : Expr → Option (List (Expr × Expr))
  | .object items => some items
  | .paren e => e.object?
  | _ => none

/-- The entries of an object; of a list, those of its first object. -/
def entries? : Expr → Option (List (Expr × Expr))
  | .object items => some items
  | .array items => items.findSome? object?
  | .paren e => e.entries?
  | _ => none

/-- The entry of a name, the last one if there are more. -/
def entryOf (name : String) (items : List (Expr × Expr)) : Option Expr :=
  (items.reverse.find? fun i => keyName i.1 == some name).map Prod.snd

end Expr

/-- What stands at a place of a document: a value; blocks without labels, in a row; or blocks with labels, each
as a block that has its first label for a name. -/
inductive Part where
  | value (e : Expr)
  | blocks (first : Body) (more : List Body)
  | labels (items : Body)

namespace Part

/-- An item takes the place of what stands under its name, but for blocks in a row of one kind. -/
def after (key : String) (held : Option Part) (item : Item) : Option Part :=
  if item.name = key then
    match item, held with
    | .attr _ e, _ => some (value e)
    | .block _ [] b, some (blocks first more) => some (blocks first (more ++ [b]))
    | .block _ [] b, _ => some (blocks b [])
    | .block _ (label :: rest) b, some (labels items) => some (labels (items ++ [.block label rest b]))
    | .block _ (label :: rest) b, _ => some (labels [.block label rest b])
  else held

end Part

namespace Body

def part? (b : Body) (key : String) : Option Part :=
  b.foldl (Part.after key) none

def toJson? (b : Body) : Option Json :=
  b.fields?.map .obj

end Body

namespace Part

/-- What a part has under a name. Of blocks in a row the first one is read. -/
def under? : Part → String → Option Part
  | value e, name => (e.entries?.bind (Expr.entryOf name)).map value
  | blocks first _, name => first.part? name
  | labels items, name => items.part? name

def at? : Part → List String → Option Part
  | p, [] => some p
  | p, name :: names => (p.under? name).bind (·.at? names)

/-- The value of a part: blocks in a row are a list, if there are more than one. -/
def toJson? : Part → Option Json
  | value e => e.toJson?
  | blocks first [] => first.toJson?
  | blocks first more => ((first :: more).mapM Body.toJson?).map .arr
  | labels items => items.toJson?

/-- A part beside what decoding holds for it. -/
inductive Decodes : Part → Entry → Prop where
  | value {e : Expr} {v : Json} (read : e.toJson? = some v) : Decodes (.value e) (.value v)
  | blocks {first : Body} {more : List Body} {vs : List Json}
      (read : (first :: more).mapM Body.toJson? = some vs) : Decodes (.blocks first more) (.bodies vs)
  | labels {items : Body} {es : List (String × Entry)} (read : addAll [] items = some es) :
      Decodes (.labels items) (.labelled es)

/-- Something stands at a place exactly if decoding holds something there, and it decodes to that. -/
abbrev Kept : Option Part → Option Entry → Prop :=
  Option.Rel Decodes

end Part

theorem addAll_append (es : List (String × Entry)) (a b : Body) :
    addAll es (a ++ b) = (addAll es a).bind fun es => addAll es b := by
  induction a generalizing es with
  | nil => rfl
  | cons item rest ih =>
    rw [List.cons_append, addAll, addAll]
    cases item.addTo es with
    | none => rfl
    | some next => exact ih next

/-- A block that comes last is added to what the items before it hold. -/
theorem addAll_concat_block {items inner : Body} {es es' : List (String × Entry)}
    (added : addAll [] items = some es) (name : String) (labels : List String)
    (read : addAll [] inner = some es') :
    addAll [] (items ++ [.block name labels inner]) =
      some (mergeEntry name (blockEntry (Json.ofFields (entriesToJson es')) labels) es) := by
  rw [addAll_append, added, Option.bind_some, addAll, Item.addTo, read]
  rfl

theorem addAll_block {inner : Body} {es' : List (String × Entry)} (name : String) (labels : List String)
    (read : addAll [] inner = some es') :
    addAll [] [.block name labels inner] =
      some [(name, blockEntry (Json.ofFields (entriesToJson es')) labels)] := by
  have empty : addAll [] [] = some [] := rfl
  rw [← List.nil_append [Item.block _ _ _], addAll_concat_block empty name labels read, mergeEntry]

namespace Part

theorem Kept.after {held : Option Part} {found : Option Entry} (kept : Kept held found) {item : Item} {e : Entry}
    (entry : item.entry? = some e) :
    Kept (Part.after item.name held item) (some (found.elim e (·.merge e))) := by
  unfold Part.after
  rw [if_pos rfl]
  cases item with
  | attr name value =>
    obtain ⟨v, read, rfl⟩ := Option.map_eq_some_iff.mp entry
    have replaced : found.elim (.value v) (·.merge (.value v)) = .value v := by
      cases found <;> simp [Entry.merge]
    rw [replaced]
    exact .some (.value read)
  | block name names body =>
    obtain ⟨inner, added, rfl⟩ := Option.map_eq_some_iff.mp entry
    have read : Body.toJson? body = some (Json.ofFields (entriesToJson inner)) := by
      rw [Body.toJson?, Body.fields?, added]
      rfl
    cases names with
    | nil =>
      have alone : [body].mapM Body.toJson? = some [Json.ofFields (entriesToJson inner)] := by simp [read]
      rcases kept with ⟨decodes⟩ | -
      · cases decodes with
        | blocks before =>
          simp only [Option.elim_some, blockEntry, Entry.merge]
          refine .some (.blocks ?_)
          rw [← List.cons_append, List.mapM_append, before, alone]
          rfl
        | value _ | labels _ =>
          simp only [Option.elim_some, blockEntry, Entry.merge]
          exact .some (.blocks alone)
      · exact .some (.blocks alone)
    | cons label rest =>
      have alone := addAll_block label rest added
      rcases kept with ⟨decodes⟩ | -
      · cases decodes with
        | labels before =>
          simp only [Option.elim_some, blockEntry, Entry.merge, mergeEntries]
          exact .some (.labels (addAll_concat_block before label rest added))
        | value _ | blocks _ =>
          simp only [Option.elim_some, blockEntry, Entry.merge]
          exact .some (.labels alone)
      · exact .some (.labels alone)

/-- What decoding holds under a name is what the part there decodes to. -/
theorem Kept.addAll {key : String} {held : Option Part} {es es' : List (String × Entry)} {items : List Item}
    (kept : Kept held (Json.lookup key es)) (added : addAll es items = some es') :
    Kept (items.foldl (Part.after key) held) (Json.lookup key es') := by
  induction items generalizing held es with
  | nil =>
    cases added
    exact kept
  | cons item rest ih =>
    obtain ⟨e, entry, added⟩ := addAll_cons added
    refine ih ?_ added
    rw [lookup_mergeEntry]
    split_ifs with same
    · subst same
      exact kept.after entry
    · unfold Part.after
      rw [if_neg same]
      exact kept

/-- The members of a list that is decoded are decoded one after the other. -/
theorem mapM_cons_eq_some {first : Body} {more : List Body} {vs : List Json}
    (read : (first :: more).mapM Body.toJson? = some vs) :
    ∃ v ws, first.toJson? = some v ∧ more.mapM Body.toJson? = some ws ∧ vs = v :: ws := by
  rw [List.mapM_cons] at read
  obtain ⟨v, atFirst, read⟩ := Option.bind_eq_some_iff.mp read
  obtain ⟨ws, later, same⟩ := Option.bind_eq_some_iff.mp read
  exact ⟨v, ws, atFirst, later, (Option.some.inj same).symm⟩

theorem Decodes.toJson {p : Part} {e : Entry} (decodes : p.Decodes e) : p.toJson? = some e.toJson := by
  cases decodes with
  | value read => exact read
  | @blocks first more vs read =>
    obtain ⟨v, ws, atFirst, later, rfl⟩ := mapM_cons_eq_some read
    cases more with
    | nil =>
      cases later
      exact atFirst
    | cons second more =>
      obtain ⟨w, rest, -, -, rfl⟩ := mapM_cons_eq_some later
      rw [Part.toJson?, read]
      · rfl
      · nofun
  | labels read =>
    rw [Part.toJson?, Body.toJson?, Body.fields?, read]
    rfl

/-- Something stands at a place exactly if there is a value there, and this is the value it has. -/
abbrev Valued : Option Part → Option Json → Prop :=
  Option.Rel fun p v => p.toJson? = some v

theorem Kept.valued {held : Option Part} {found : Option Entry} (kept : Kept held found) :
    Valued held (found.map Entry.toJson) := by
  cases kept with
  | some decodes => exact .some decodes.toJson
  | none => exact .none

/-- Under a name of a body stands the part that has the value decoded there. -/
theorem valued_of_fields? {b : Body} {fields : List (String × Json)} (read : b.fields? = some fields)
    (name : String) : Valued (b.part? name) (Json.lookup name fields) := by
  obtain ⟨es, added, same⟩ := lookup_fields? read
  rw [same]
  exact (Kept.addAll .none added).valued

end Part

section Related
variable {α β γ δ : Type} {R : α → β → Prop} {x : Option α} {y : Option β}

/-- Where two steps find related things, so do the steps after them. -/
theorem rel_bind {S : γ → δ → Prop} {f : α → Option γ} {g : β → Option δ} (first : Option.Rel R x y)
    (rest : ∀ a b, R a b → Option.Rel S (f a) (g b)) : Option.Rel S (x.bind f) (y.bind g) := by
  cases first with
  | some related => exact rest _ _ related
  | none => exact .none

theorem rel_trans {S : β → γ → Prop} {z : Option γ} (first : Option.Rel R x y) (later : Option.Rel S y z) :
    Option.Rel (fun a c => ∃ b, R a b ∧ S b c) x z := by
  cases first with
  | some related =>
    cases later with
    | some related' => exact .some ⟨_, related, related'⟩
  | none =>
    cases later
    exact .none

theorem exists_right {a : α} (related : Option.Rel R x y) (found : x = some a) : ∃ b, y = some b ∧ R a b := by
  subst found
  cases related with
  | some related => exact ⟨_, rfl, related⟩

theorem exists_left {b : β} (related : Option.Rel R x y) (found : y = some b) : ∃ a, x = some a ∧ R a b := by
  subst found
  cases related with
  | some related => exact ⟨_, rfl, related⟩

end Related

/-! ### Objects that are written as expressions -/

/-- The fields of an object are its entries, one after the other. -/
theorem fieldsOf_forall₂ {items : List (Expr × Expr)} {fs : List (String × Json)} (read : fieldsOf items = some fs) :
    List.Forall₂ (fun i f => keyName i.1 = some f.1 ∧ i.2.toJson? = some f.2) items fs := by
  induction items generalizing fs with
  | nil =>
    cases read
    exact .nil
  | cons item rest ih =>
    obtain ⟨name, named, read⟩ := Option.bind_eq_some_iff.mp read
    obtain ⟨v, valued, read⟩ := Option.bind_eq_some_iff.mp read
    obtain ⟨more, later, same⟩ := Option.bind_eq_some_iff.mp read
    cases same
    exact .cons ⟨named, valued⟩ (ih later)

theorem valuesOf_forall₂ {items : List Expr} {vs : List Json} (read : valuesOf items = some vs) :
    List.Forall₂ (fun e v => e.toJson? = some v) items vs := by
  induction items generalizing vs with
  | nil =>
    cases read
    exact .nil
  | cons e rest ih =>
    obtain ⟨v, first, read⟩ := Option.bind_eq_some_iff.mp read
    obtain ⟨more, later, same⟩ := Option.bind_eq_some_iff.mp read
    cases same
    exact .cons first (ih later)

/-- The entry of a name has the value that the fields have there. -/
theorem valued_entryOf {items : List (Expr × Expr)} {fs : List (String × Json)} (read : fieldsOf items = some fs)
    (name : String) :
    Part.Valued ((Expr.entryOf name items).map .value) (Json.lookup name (Json.ofFields fs).toFields) := by
  rw [Json.lookup_ofFields]
  have related := List.forall₂_reverse_iff.mpr (fieldsOf_forall₂ read)
  unfold Expr.entryOf
  generalize items.reverse = items at related
  generalize fs.reverse = fs at related
  induction related with
  | nil => exact .none
  | @cons item f items fs head rest ih =>
    rw [List.find?_cons, head.1, Json.lookup_cons]
    by_cases same : f.1 = name
    · simp only [same, beq_self_eq_true, if_true]
      exact .some head.2
    · simp only [Option.some_beq_some, beq_eq_false_iff_ne.mpr same, if_neg same]
      exact ih

/-- Entries of an object beside the fields that they decode to. -/
def Entries (items : List (Expr × Expr)) (fields : List (String × Json)) : Prop :=
  ∃ fs, fieldsOf items = some fs ∧ fields = (Json.ofFields fs).toFields

namespace Expr

theorem object?_toJson {e : Expr} {v : Json} (read : e.toJson? = some v) :
    Option.Rel Entries e.object? v.object? := by
  cases e with
  | object items =>
    obtain ⟨fs, fields, rfl⟩ := Option.map_eq_some_iff.mp read
    exact .some ⟨fs, fields, rfl⟩
  | paren inner => exact object?_toJson (e := inner) read
  | array items =>
    obtain ⟨vs, -, rfl⟩ := Option.map_eq_some_iff.mp read
    exact .none
  | _ =>
    cases read
    exact .none

theorem findSome?_object? {items : List Expr} {vs : List Json} (read : valuesOf items = some vs) :
    Option.Rel Entries (items.findSome? object?) (vs.findSome? Json.object?) := by
  have related := valuesOf_forall₂ read
  clear read
  induction related with
  | nil => exact .none
  | cons head rest ih =>
    rw [List.findSome?_cons, List.findSome?_cons]
    have atHead := object?_toJson head
    revert atHead
    generalize object? _ = items
    generalize Json.object? _ = fields
    rintro (entries | -)
    · exact .some entries
    · exact ih

/-- The first object is found before decoding as it is after. -/
theorem entries?_toJson {e : Expr} {v : Json} (read : e.toJson? = some v) :
    Option.Rel Entries e.entries? v.firstObject? := by
  cases e with
  | object items =>
    obtain ⟨fs, fields, rfl⟩ := Option.map_eq_some_iff.mp read
    exact .some ⟨fs, fields, rfl⟩
  | paren inner => exact entries?_toJson (e := inner) read
  | array items =>
    obtain ⟨vs, values, rfl⟩ := Option.map_eq_some_iff.mp read
    exact findSome?_object? values
  | _ =>
    cases read
    exact .none

end Expr

namespace Part

/-- Of blocks in a row the first one is the first object. -/
theorem firstObject?_row {first : Body} {more : List Body} {v : Json}
    (read : (blocks first more).toJson? = some v) :
    ∃ fields, first.fields? = some fields ∧ v.firstObject? = some fields := by
  cases more with
  | nil =>
    obtain ⟨fields, atFirst, rfl⟩ := Option.map_eq_some_iff.mp read
    exact ⟨fields, atFirst, rfl⟩
  | cons second more =>
    rw [toJson?] at read
    · obtain ⟨vs, row, rfl⟩ := Option.map_eq_some_iff.mp read
      obtain ⟨v, ws, atFirst, -, rfl⟩ := mapM_cons_eq_some row
      obtain ⟨fields, decoded, rfl⟩ := Option.map_eq_some_iff.mp atFirst
      exact ⟨fields, decoded, rfl⟩
    · nofun

/-- What a part has under a name is what its value has there. -/
theorem valued_under? {p : Part} {v : Json} (read : p.toJson? = some v) (name : String) :
    Valued (p.under? name) (v.firstObject?.bind (Json.lookup name)) := by
  cases p with
  | value e =>
    rw [under?, Option.map_bind]
    refine rel_bind (Expr.entries?_toJson read) ?_
    rintro items - ⟨fs, decoded, rfl⟩
    exact valued_entryOf decoded name
  | blocks first more =>
    obtain ⟨fields, atFirst, isFirst⟩ := firstObject?_row read
    rw [isFirst]
    exact valued_of_fields? atFirst name
  | labels items =>
    obtain ⟨fields, decoded, rfl⟩ := Option.map_eq_some_iff.mp read
    exact valued_of_fields? decoded name

/-- The same way leads to a part and to its value. -/
theorem valued_at? {p : Part} {v : Json} (read : p.toJson? = some v) (names : List String) :
    Valued (p.at? names) (v.at? names) := by
  induction names generalizing p v with
  | nil => exact .some read
  | cons name rest ih => exact rel_bind (valued_under? read name) fun _ _ atName => ih atName

end Part

end ServiceKit.Hcl
