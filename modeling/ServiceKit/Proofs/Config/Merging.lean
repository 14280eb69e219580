import ServiceKit.Config.Shared

namespace ServiceKit.SharedConfig

/-- Keys that are new to a list and to the one behind it are new to both together, repeated or not. -/
theorem union_assoc (keys more last : List String) :
    (keys ++ more.filter fun k => !keys.contains k) ++
        last.filter (fun k => !(keys ++ more.filter fun k => !keys.contains k).contains k) =
      keys ++ (more ++ last.filter fun k => !more.contains k).filter fun k => !keys.contains k := by
  rw [List.append_assoc, List.filter_append, List.filter_filter]
  congr 2
  refine List.filter_congr fun k _ => ?_
  by_cases known : k ∈ keys <;> simp [known]

theorem merge_assoc (a b c : SharedConfig) : (a.merge b).merge c = a.merge (b.merge c) := by
  unfold merge
  rw [SharedConfig.mk.injEq]
  refine ⟨List.append_assoc _ _ _, List.append_assoc _ _ _, ?_, ?_, Bool.or_assoc _ _ _, ?_, ?_, ?_, ?_, ?_,
    union_assoc _ _ _, union_assoc _ _ _⟩
  all_goals exact Option.or_assoc.symm

theorem default_merge (a : SharedConfig) : merge {} a = a := by
  have known : ∀ keys : List String, keys.filter (fun k => !([] : List String).contains k) = keys := by simp
  simp only [merge, Option.or_none, Bool.false_or, List.nil_append, known]

theorem merge_default (a : SharedConfig) : a.merge {} = a := by
  simp [merge]

instance : Std.Associative merge :=
  ⟨merge_assoc⟩

/-- The configurations of a list on top of each other, the first one at the bottom. -/
def mergeAll (configs : List SharedConfig) : SharedConfig :=
  configs.foldl merge {}

theorem foldl_merge (c : SharedConfig) (configs : List SharedConfig) :
    configs.foldl merge c = c.merge (mergeAll configs) := by
  have shifted : configs.foldl merge (c.merge {}) = c.merge (configs.foldl merge {}) := List.foldl_assoc
  rwa [merge_default] at shifted

theorem mergeAll_cons (c : SharedConfig) (configs : List SharedConfig) :
    mergeAll (c :: configs) = c.merge (mergeAll configs) := by
  rw [← foldl_merge, mergeAll, List.foldl_cons, default_merge]

theorem mergeAll_append (configs more : List SharedConfig) :
    mergeAll (configs ++ more) = (mergeAll configs).merge (mergeAll more) := by
  rw [← foldl_merge, mergeAll, List.foldl_append]
  rfl

theorem mergeAll_flatten (groups : List (List SharedConfig)) :
    mergeAll groups.flatten = mergeAll (groups.map mergeAll) := by
  induction groups with
  | nil => rfl
  | cons group rest ih => rw [List.flatten_cons, mergeAll_append, ih, List.map_cons, mergeAll_cons]

/-- Configurations are merged in any grouping: only their order counts, and the empty one is of no account. -/
theorem merged_in_groups :
    (∀ a b c : SharedConfig, (a.merge b).merge c = a.merge (b.merge c)) ∧
      (∀ a : SharedConfig, merge {} a = a ∧ a.merge {} = a) ∧
      (∀ (c : SharedConfig) configs, configs.foldl merge c = mergeAll (c :: configs)) ∧
      ∀ groups : List (List SharedConfig), mergeAll groups.flatten = mergeAll (groups.map mergeAll) := by
  refine ⟨merge_assoc, fun a => ⟨default_merge a, merge_default a⟩, fun c configs => ?_, mergeAll_flatten⟩
  rw [foldl_merge, mergeAll_cons]

end ServiceKit.SharedConfig
