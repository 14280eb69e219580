import Mathlib.Data.String.Basic
import ServiceKit.Json.Basic

namespace ServiceKit.Json
variable {α β : Type} {fs : List (String × α)}

/-! ### Looking names up -/

theorem lookup_cons (name : String) (f : String × α) (fs : List (String × α)) :
    lookup name (f :: fs) = if f.1 = name then some f.2 else lookup name fs := by
  obtain ⟨key, v⟩ := f
  rw [lookup, List.lookup_cons]
  by_cases same : key = name
  · simp [same]
  · rw [beq_false_of_ne (Ne.symm same), if_neg same]
    rfl

theorem isSome_lookup_iff {name : String} : (lookup name fs).isSome ↔ name ∈ fs.map Prod.fst := by
  rw [lookup, List.lookup_isSome_iff, List.mem_map]
  exact exists_congr fun f => and_congr_right fun _ => beq_iff_eq.trans eq_comm

theorem lookup_eq_none_iff {name : String} : lookup name fs = none ↔ name ∉ fs.map Prod.fst := by
  rw [← isSome_lookup_iff, Option.not_isSome_iff_eq_none]

theorem lookup_append (name : String) (fs gs : List (String × α)) :
    lookup name (fs ++ gs) = (lookup name fs).or (lookup name gs) :=
  List.lookup_append

theorem lookup_map_named (f : String → α → β) (name : String) (fs : List (String × α)) :
    lookup name (fs.map fun field => (field.1, f field.1 field.2)) = (lookup name fs).map (f name) := by
  induction fs with
  | nil => rfl
  | cons field rest ih =>
    rw [List.map_cons, lookup_cons, lookup_cons]
    split_ifs with found
    · rw [found, Option.map_some]
    · exact ih

theorem lookup_map (f : α → β) (name : String) (fs : List (String × α)) :
    lookup name (fs.map fun field => (field.1, f field.2)) = (lookup name fs).map f :=
  lookup_map_named (fun _ => f) name fs

/-- Where each name stands once, the order does not matter. -/
theorem lookup_reverse (name : String) (once : (fs.map Prod.fst).Nodup) :
    lookup name fs.reverse = lookup name fs := by
  induction fs with
  | nil => rfl
  | cons f rest ih =>
    obtain ⟨fresh, once⟩ := List.nodup_cons.mp once
    rw [List.reverse_cons, lookup_append, ih once, lookup_cons, lookup_cons]
    split_ifs with same
    · rw [lookup_eq_none_iff.mpr (same ▸ fresh)]
      rfl
    · exact Option.or_none

theorem mem_of_lookup {name : String} {v : α} (found : lookup name fs = some v) : (name, v) ∈ fs := by
  obtain ⟨front, rest, rfl, -⟩ := List.lookup_eq_some_iff.mp found
  exact List.mem_append_right front List.mem_cons_self

theorem lookup_of_mem {name : String} {v : α} (once : (fs.map Prod.fst).Nodup) (member : (name, v) ∈ fs) :
    lookup name fs = some v := by
  induction fs with
  | nil => cases member
  | cons f rest ih =>
    obtain ⟨fresh, later⟩ := List.nodup_cons.mp once
    rw [lookup_cons]
    rcases List.mem_cons.mp member with rfl | inRest
    · exact if_pos rfl
    · have other : f.1 ≠ name := fun same => fresh (same ▸ List.mem_map_of_mem inRest)
      rw [if_neg other, ih later inRest]

/-- The last of a name is all that is found of it, so all fields are found exactly if those of one name agree. -/
theorem all_found_iff :
    (∀ f ∈ fs, lookup f.1 fs.reverse = some f.2) ↔ ∀ f ∈ fs, ∀ g ∈ fs, f.1 = g.1 → f.2 = g.2 := by
  constructor
  · intro found f inFields g inFields' same
    have atFirst := found f inFields
    rw [same, found g inFields'] at atFirst
    exact (Option.some.inj atFirst).symm
  · intro agree f member
    have named : f.1 ∈ fs.reverse.map Prod.fst := List.mem_map_of_mem (List.mem_reverse.mpr member)
    obtain ⟨v, found⟩ := Option.isSome_iff_exists.mp (isSome_lookup_iff.mpr named)
    rw [found, agree f member (f.1, v) (List.mem_reverse.mp (mem_of_lookup found)) rfl]

/-- A field that is left out hides no other. -/
theorem lookup_filter_ne {name key : String} (other : name ≠ key) :
    lookup name (fs.filter fun f => f.1 ≠ key) = lookup name fs := by
  induction fs with
  | nil => rfl
  | cons f rest ih =>
    rw [List.filter_cons, lookup_cons]
    split_ifs with kept same same
    · rw [lookup_cons, if_pos same]
    · rw [lookup_cons, if_neg same, ih]
    · exact absurd (by simpa [same] using other) kept
    · exact ih

theorem lookup_insert (name key : String) (v : α) (fs : List (String × α)) :
    lookup name (insert key v fs) = if key = name then some v else lookup name fs := by
  induction fs with
  | nil => exact lookup_cons name (key, v) []
  | cons f rest ih =>
    unfold insert
    by_cases before : key < f.1
    · rw [if_pos before, lookup_cons]
    · rw [if_neg before]
      by_cases same : key = f.1
      · rw [if_pos same, lookup_cons, lookup_cons, ← same]
        split_ifs <;> rfl
      · rw [if_neg same, lookup_cons, lookup_cons, ih]
        split_ifs with here found
        · exact absurd (found.trans here.symm) same
        all_goals rfl

/-- Of fields that are put in one after the other, the last of a name counts. -/
theorem lookup_foldl_insert (name : String) (fs acc : List (String × α)) :
    lookup name (fs.foldl (fun acc f => insert f.1 f.2 acc) acc) =
      (lookup name fs.reverse).or (lookup name acc) := by
  induction fs generalizing acc with
  | nil => rfl
  | cons f rest ih =>
    rw [List.foldl_cons, ih, List.reverse_cons, lookup_append, Option.or_assoc, lookup_insert, lookup_cons]
    congr 1
    split_ifs <;> rfl

theorem lookup_ofFields (name : String) (fs : List (String × Json)) :
    lookup name (ofFields fs).toFields = lookup name fs.reverse := by
  unfold ofFields toFields
  rw [lookup_foldl_insert]
  exact Option.or_none

theorem mem_names_ofFields {name : String} {fs : List (String × Json)} :
    name ∈ (ofFields fs).toFields.map Prod.fst ↔ name ∈ fs.map Prod.fst := by
  rw [← isSome_lookup_iff, lookup_ofFields, isSome_lookup_iff, List.map_reverse, List.mem_reverse]

/-! ### Order of names -/

/-- The names of an object stand in their order, each once. -/
def Sorted (fs : List (String × α)) : Prop :=
  (fs.map Prod.fst).Pairwise (· < ·)

theorem mem_names_insert {name key : String} {v : α} :
    name ∈ (insert key v fs).map Prod.fst ↔ key = name ∨ name ∈ fs.map Prod.fst := by
  rw [← isSome_lookup_iff, lookup_insert, ← isSome_lookup_iff]
  split_ifs with same <;> simp [same]

theorem sorted_insert (key : String) (v : α) (sorted : Sorted fs) : Sorted (insert key v fs) := by
  induction fs with
  | nil => exact List.pairwise_singleton _ _
  | cons f rest ih =>
    obtain ⟨n, w⟩ := f
    obtain ⟨least, later⟩ := List.pairwise_cons.mp sorted
    unfold insert
    split_ifs with before same
    · refine List.pairwise_cons.mpr ⟨fun other member => ?_, sorted⟩
      rcases List.mem_cons.mp member with rfl | member
      · exact before
      · exact before.trans (least other member)
    · exact same ▸ sorted
    · refine List.pairwise_cons.mpr ⟨fun other member => ?_, ih later⟩
      rcases mem_names_insert.mp member with rfl | member
      · exact lt_of_le_of_ne (not_lt.mp before) (Ne.symm same)
      · exact least other member

theorem sorted_ofFields (fs : List (String × Json)) : Sorted (ofFields fs).toFields := by
  suffices folded : ∀ acc, Sorted acc → Sorted (fs.foldl (fun acc f => insert f.1 f.2 acc) acc) from
    folded [] List.Pairwise.nil
  induction fs with
  | nil => exact fun _ sorted => sorted
  | cons f rest ih => exact fun acc sorted => ih _ (sorted_insert f.1 f.2 sorted)

theorem Sorted.nodup (sorted : Sorted fs) : (fs.map Prod.fst).Nodup :=
  sorted.imp fun before => before.ne

theorem Sorted.filter (keep : String × α → Bool) (sorted : Sorted fs) : Sorted (fs.filter keep) :=
  sorted.sublist (List.filter_sublist.map Prod.fst)

section Around
variable {front rest : List (String × α)} {f g : String × α}

theorem Sorted.around (sorted : Sorted (front ++ f :: rest)) :
    (∀ g ∈ front, g.1 < f.1) ∧ ∀ g ∈ rest, f.1 < g.1 := by
  rw [Sorted, List.map_append, List.map_cons, List.pairwise_append, List.pairwise_cons] at sorted
  obtain ⟨-, ⟨behind, -⟩, before⟩ := sorted
  exact ⟨fun g member => before g.1 (List.mem_map_of_mem member) f.1 List.mem_cons_self,
    fun g member => behind g.1 (List.mem_map_of_mem member)⟩

/-- Which side of a field another one is on is told by its name. -/
theorem Sorted.mem_iff_of_lt (sorted : Sorted (front ++ f :: rest)) (less : g.1 < f.1) :
    g ∈ front ++ f :: rest ↔ g ∈ front := by
  rw [List.mem_append, or_iff_left]
  intro later
  rcases List.mem_cons.mp later with rfl | inRest
  · exact less.false
  · exact (sorted.around.2 g inRest).not_gt less

theorem Sorted.mem_iff_of_le (sorted : Sorted (front ++ f :: rest)) (least : f.1 ≤ g.1) :
    g ∈ front ++ f :: rest ↔ g ∈ f :: rest := by
  rw [List.mem_append, or_iff_right]
  exact fun inFront => (sorted.around.1 g inFront).not_ge least

end Around

/-- Where each name stands once, a field dropped for its value hides no other. -/
theorem lookup_filter (keep : α → Bool) (name : String) (once : (fs.map Prod.fst).Nodup) :
    lookup name (fs.filter fun f => keep f.2) = (lookup name fs).filter keep := by
  induction fs with
  | nil => rfl
  | cons f rest ih =>
    obtain ⟨fresh, once⟩ := List.nodup_cons.mp once
    rw [lookup_cons, List.filter_cons]
    split_ifs with kept same same
    · rw [lookup_cons, if_pos same, Option.filter_some, if_pos kept]
    · rw [lookup_cons, if_neg same, ih once]
    · rw [ih once, lookup_eq_none_iff.mpr (same ▸ fresh), Option.filter_some, if_neg kept]
      rfl
    · exact ih once

end ServiceKit.Json
