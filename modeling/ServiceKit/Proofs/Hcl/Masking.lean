import Mathlib.Data.List.Forall2
import ServiceKit.Hcl.Decode
import ServiceKit.Proofs.Json.Fields

namespace ServiceKit

/-- Two fields of one name whose values are related as that name asks. -/
inductive Fieldwise {α β : Type} (related : String → α → β → Prop) : String × α → String × β → Prop where
  | field {name : String} {a : α} {b : β} (values : related name a b) : Fieldwise related (name, a) (name, b)

/-- Two values under a name: if the name is shown, they are the same, or both are nested. -/
def Alike {α : Type} (shown : List String) (nested : α → Prop) (name : String) (a b : α) : Prop :=
  name ∈ shown → a = b ∨ nested a ∧ nested b

namespace Json
variable {α β : Type} {related : String → α → β → Prop} {name : String}

/-- A value that blocks leave behind: an object, or a list with an object in it. -/
inductive Nested : Json → Prop where
  | obj (fields : List (String × Json)) : Nested (.obj fields)
  | arr {items fields : List _} (inside : .obj fields ∈ items) : Nested (.arr items)

theorem insert_fieldwise {a : α} {b : β} {fs : List (String × α)} {gs : List (String × β)}
    (head : related name a b) (fields : List.Forall₂ (Fieldwise related) fs gs) :
    List.Forall₂ (Fieldwise related) (insert name a fs) (insert name b gs) := by
  induction fields with
  | nil => exact .cons ⟨head⟩ .nil
  | cons first rest ih =>
    obtain ⟨values⟩ := first
    unfold insert
    split_ifs
    · exact .cons ⟨head⟩ (.cons ⟨values⟩ rest)
    · exact .cons ⟨head⟩ rest
    · exact .cons ⟨values⟩ ih

theorem lookup_fieldwise {fs : List (String × α)} {gs : List (String × β)} (name : String)
    (fields : List.Forall₂ (Fieldwise related) fs gs) :
    Option.Rel (related name) (lookup name fs) (lookup name gs) := by
  induction fields with
  | nil => exact .none
  | cons first rest ih =>
    obtain ⟨values⟩ := first
    rw [lookup_cons, lookup_cons]
    split_ifs with found
    · exact found ▸ .some values
    · exact ih

theorem ofFields_fieldwise {related : String → Json → Json → Prop} {fs gs : List (String × Json)}
    (fields : List.Forall₂ (Fieldwise related) fs gs) :
    List.Forall₂ (Fieldwise related) (ofFields fs).toFields (ofFields gs).toFields := by
  suffices folded : ∀ acc acc', List.Forall₂ (Fieldwise related) acc acc' →
      List.Forall₂ (Fieldwise related) (fs.foldl (fun acc f => insert f.1 f.2 acc) acc)
        (gs.foldl (fun acc f => insert f.1 f.2 acc) acc') from folded [] [] .nil
  induction fields with
  | nil => exact fun _ _ built => built
  | cons first rest ih =>
    intro acc acc' built
    obtain ⟨values⟩ := first
    exact ih _ _ (insert_fieldwise values built)

end Json

namespace Hcl

namespace Entry

/-- What a block leaves under its name. -/
inductive Nested : Entry → Prop where
  | bodies {bs : List Json} {fields : List (String × Json)} (inside : .obj fields ∈ bs) : Nested (.bodies bs)
  | labelled (entries : List (String × Entry)) : Nested (.labelled entries)

/-- Whatever stood under a name, a block that is added to it leaves its mark. -/
theorem merge_nested (old : Entry) {e : Entry} (nested : e.Nested) : (old.merge e).Nested := by
  cases nested with
  | bodies inside =>
    cases old with
    | bodies before =>
      rw [Entry.merge]
      exact .bodies (List.mem_append_right before inside)
    | value | labelled => simpa [Entry.merge] using Nested.bodies inside
  | labelled entries =>
    cases old with
    | labelled before =>
      rw [Entry.merge]
      exact .labelled (mergeEntries before entries)
    | value | bodies => simpa [Entry.merge] using Nested.labelled entries

theorem nested_blockEntry (fields : List (String × Json)) (labels : List String) :
    (blockEntry (.obj fields) labels).Nested := by
  cases labels with
  | nil => exact .bodies List.mem_cons_self
  | cons label labels => exact .labelled _

theorem toJson_nested {e : Entry} (nested : e.Nested) : e.toJson.Nested := by
  cases nested with
  | @bodies bs fields inside =>
    match bs, inside with
    | [b], inside =>
      obtain rfl := List.mem_singleton.mp inside
      exact .obj fields
    | b :: c :: rest, inside => exact .arr inside
  | labelled entries => exact .obj _

end Entry

variable {shown : List String} {es fs : List (String × Entry)}

abbrev EntriesAlike (shown : List String) (es fs : List (String × Entry)) : Prop :=
  List.Forall₂ (Fieldwise (Alike shown Entry.Nested)) es fs

theorem putValue_alike {name : String} {v w : Json} (same : name ∈ shown → v = w)
    (entries : EntriesAlike shown es fs) : EntriesAlike shown (putValue name v es) (putValue name w fs) := by
  have values : Alike shown Entry.Nested name (.value v) (.value w) :=
    fun isShown => Or.inl (congrArg Entry.value (same isShown))
  induction entries with
  | nil => exact .cons ⟨values⟩ .nil
  | cons first rest ih =>
    obtain ⟨oldAlike⟩ := first
    unfold putValue
    split_ifs with found
    · exact .cons ⟨found ▸ values⟩ rest
    · exact .cons ⟨oldAlike⟩ ih

theorem mergeEntry_alike (name : String) {e e' : Entry} (nested : e.Nested) (nested' : e'.Nested)
    (entries : EntriesAlike shown es fs) :
    EntriesAlike shown (mergeEntry name e es) (mergeEntry name e' fs) := by
  induction entries with
  | nil =>
    rw [mergeEntry, mergeEntry]
    exact .cons ⟨fun _ => Or.inr ⟨nested, nested'⟩⟩ .nil
  | cons first rest ih =>
    obtain ⟨oldAlike⟩ := first
    unfold mergeEntry
    split_ifs
    · exact .cons ⟨fun _ => Or.inr ⟨Entry.merge_nested _ nested, Entry.merge_nested _ nested'⟩⟩ rest
    · exact .cons ⟨oldAlike⟩ ih

/-- An item without what only its owner should know: the values of all names but the shown ones, and
the bodies of blocks. -/
def Item.masked (shown : List String) : Item → Item
  | .attr name value => .attr name (if name ∈ shown then value else .null)
  | .block name labels _ => .block name labels []

theorem addTo_alike {i j : Item} {es' fs' : List (String × Entry)} (same : i.masked shown = j.masked shown)
    (entries : EntriesAlike shown es fs) (added : i.addTo es = some es') (added' : j.addTo fs = some fs') :
    EntriesAlike shown es' fs' := by
  cases i with
  | attr name value =>
    cases j with
    | block => cases same
    | attr other value' =>
      obtain ⟨rfl, values⟩ := Item.attr.inj same
      obtain ⟨v, atValue, rfl⟩ := Option.map_eq_some_iff.mp added
      obtain ⟨w, atValue', rfl⟩ := Option.map_eq_some_iff.mp added'
      refine putValue_alike (fun isShown => ?_) entries
      rw [if_pos isShown, if_pos isShown] at values
      exact Option.some.inj (atValue.symm.trans (values ▸ atValue'))
  | block name labels body =>
    cases j with
    | attr => cases same
    | block other labels' body' =>
      obtain ⟨rfl, rfl, -⟩ := Item.block.inj same
      obtain ⟨inner, -, added⟩ := Option.bind_eq_some_iff.mp added
      obtain ⟨inner', -, added'⟩ := Option.bind_eq_some_iff.mp added'
      cases added
      cases added'
      have nested := fun fields => Entry.nested_blockEntry fields labels
      exact mergeEntry_alike name (nested _) (nested _) entries

theorem addAll_alike {b c : Body} {es' fs' : List (String × Entry)}
    (same : b.map (Item.masked shown) = c.map (Item.masked shown))
    (entries : EntriesAlike shown es fs) (added : addAll es b = some es') (added' : addAll fs c = some fs') :
    EntriesAlike shown es' fs' := by
  induction b generalizing c es fs with
  | nil =>
    obtain rfl := List.map_eq_nil_iff.mp same.symm
    cases added
    cases added'
    exact entries
  | cons i b ih =>
    cases c with
    | nil => cases same
    | cons j c =>
      obtain ⟨items, same⟩ := List.cons.inj same
      obtain ⟨es₁, first, added⟩ := Option.bind_eq_some_iff.mp added
      obtain ⟨fs₁, first', added'⟩ := Option.bind_eq_some_iff.mp added'
      exact ih same (addTo_alike items entries first first') added added'

theorem entriesToJson_alike (entries : EntriesAlike shown es fs) :
    List.Forall₂ (Fieldwise (Alike shown Json.Nested)) (entriesToJson es) (entriesToJson fs) := by
  induction entries with
  | nil => exact .nil
  | cons first rest ih =>
    obtain ⟨alike⟩ := first
    refine .cons ⟨fun isShown => ?_⟩ ih
    rcases alike isShown with rfl | ⟨nested, nested'⟩
    · exact Or.inl rfl
    · exact Or.inr ⟨Entry.toJson_nested nested, Entry.toJson_nested nested'⟩

/-- Bodies that are the same once masked have the same fields, and under the shown names the same
values or nested ones. -/
theorem fields?_alike {b c : Body} {fields fields' : List (String × Json)}
    (same : b.map (Item.masked shown) = c.map (Item.masked shown))
    (read : Body.fields? b = some fields) (read' : Body.fields? c = some fields') :
    List.Forall₂ (Fieldwise (Alike shown Json.Nested)) fields fields' := by
  obtain ⟨es, added, rfl⟩ := Option.map_eq_some_iff.mp read
  obtain ⟨fs, added', rfl⟩ := Option.map_eq_some_iff.mp read'
  exact Json.ofFields_fieldwise (entriesToJson_alike (addAll_alike same .nil added added'))

end Hcl

end ServiceKit
