import Mathlib.Data.List.Nodup
import ServiceKit.Http.CustomHeaders
import ServiceKit.Proofs.Json.Fields

namespace ServiceKit

namespace Headers
variable {h extra : Headers} {name : String} {value : Bytes}

/-- Each name stands once. -/
def Single (h : Headers) : Prop :=
  (h.map Prod.fst).Nodup

theorem mem_getAll : value ∈ h.getAll name ↔ (name, value) ∈ h := by
  simp [getAll]

theorem getAll_eq_nil_iff : h.getAll name = [] ↔ name ∉ h.map Prod.fst := by
  simp only [List.eq_nil_iff_forall_not_mem, mem_getAll, List.mem_map, not_exists, not_and, Prod.forall]
  constructor
  · rintro absent _ value member rfl
    exact absent value member
  · exact fun absent value member => absent name value member rfl

theorem contains_of_getAll (found : h.getAll name ≠ []) : h.contains name = true := by
  rw [ne_eq, getAll_eq_nil_iff, not_not] at found
  simpa [contains] using found

theorem single_set (single : h.Single) (name : String) (value : Bytes) : (h.set name value).Single := by
  unfold Single set erase
  rw [List.map_append, List.nodup_append]
  refine ⟨single.sublist (List.filter_sublist.map Prod.fst), List.nodup_singleton _, ?_⟩
  simp

theorem single_setAll (single : h.Single) (extra : Headers) : (h.setAll extra).Single := by
  induction extra generalizing h with
  | nil => exact single
  | cons f rest ih => exact ih (single_set single f.1 f.2)

/-- Headers that are set leave the values under other names alone. -/
theorem getAll_setAll_of_notMem (absent : name ∉ extra.map Prod.fst) :
    (h.setAll extra).getAll name = h.getAll name := by
  induction extra generalizing h with
  | nil => rfl
  | cons f rest ih =>
    have other : name ≠ f.1 := fun same => absent (same ▸ List.mem_cons_self)
    exact (ih fun later => absent (List.mem_cons_of_mem _ later)).trans (getAll_set_of_ne other)

/-- Headers that are set displace whatever was under their names. -/
theorem getAll_setAll_of_mem (single : extra.Single) (member : (name, value) ∈ extra) :
    (h.setAll extra).getAll name = [value] := by
  induction extra generalizing h with
  | nil => cases member
  | cons f rest ih =>
    obtain ⟨fresh, once⟩ := List.nodup_cons.mp single
    rcases List.mem_cons.mp member with rfl | later
    · exact (getAll_setAll_of_notMem fresh).trans (getAll_set_self h name value)
    · exact ih once later

end Headers

namespace CustomHeaders

theorem single_forStatus (table : CustomHeaders) (status : Nat) : (table.forStatus status).Single := by
  suffices folded : ∀ (keys : List String) (hs : Headers), hs.Single →
      (keys.foldl (fun hs key => hs.setAll ((Json.lookup key table).getD [])) hs).Single from
    folded _ [] List.nodup_nil
  intro keys
  induction keys with
  | nil => exact fun _ single => single
  | cons key rest ih => exact fun hs single => ih _ (Headers.single_setAll single _)

/-- A table without headers has none for any status. -/
theorem forStatus_of_isEmpty {table : CustomHeaders} (empty : table.isEmpty = true) (status : Nat) :
    table.forStatus status = [] := by
  have none : ∀ key, (Json.lookup key table).getD [] = [] := by
    intro key
    induction table with
    | nil => rfl
    | cons row rest ih =>
      obtain ⟨here, later⟩ : row.2 = [] ∧ CustomHeaders.isEmpty rest = true := by
        simpa [isEmpty] using empty
      rw [Json.lookup_cons]
      split_ifs
      · exact here
      · exact ih later
  unfold forStatus
  simp only [none]
  rfl

end CustomHeaders

end ServiceKit
