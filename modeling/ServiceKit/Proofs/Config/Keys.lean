import ServiceKit.Proofs.Config.Joining
import ServiceKit.Proofs.Config.Precedence

namespace ServiceKit.AcceptedText

open SharedConfig (names settings blockNames)

/-- Keys of a configuration of which a text gives each once, and a merge adds those that are new. -/
structure Unites (keys : SharedConfig → List String) : Prop where
  once : ∀ d : AcceptedText, (keys d.config).Nodup
  union : ∀ a b : SharedConfig, keys (a.merge b) = keys a ++ (keys b).filter fun k => !(keys a).contains k

namespace Unites
variable {keys : SharedConfig → List String}

theorem nodup_mergeOnto (unites : Unites keys) {c : SharedConfig} (once : (keys c).Nodup)
    (ds : List AcceptedText) : (keys (mergeOnto c ds)).Nodup := by
  induction ds generalizing c with
  | nil => exact once
  | cons d ds ih =>
    rw [mergeOnto_cons]
    refine ih ?_
    rw [unites.union]
    exact SharedConfig.nodup_union once (unites.once d)

theorem mem_mergeOnto (unites : Unites keys) (c : SharedConfig) (ds : List AcceptedText) (key : String) :
    key ∈ keys (mergeOnto c ds) ↔ key ∈ keys c ∨ ∃ d ∈ ds, key ∈ keys d.config := by
  induction ds generalizing c with
  | nil => simp [mergeOnto]
  | cons d ds ih =>
    rw [mergeOnto_cons, ih, unites.union, SharedConfig.mem_union]
    simp only [List.mem_cons, exists_eq_or_imp, or_assoc]

theorem nodup_merged (unites : Unites keys) (d : AcceptedText) (ds : List AcceptedText) :
    (keys (merged d ds)).Nodup :=
  unites.nodup_mergeOnto (unites.once d) ds

theorem mem_merged (unites : Unites keys) (d : AcceptedText) (ds : List AcceptedText) (key : String) :
    key ∈ keys (merged d ds) ↔ ∃ e ∈ d :: ds, key ∈ keys e.config := by
  rw [merged, unites.mem_mergeOnto]
  simp only [List.mem_cons, exists_eq_or_imp]

end Unites

/-- A name at the top of a text that nothing reads: an attribute that is no setting, or a block of another
kind. -/
def Unread (d : AcceptedText) (key : String) : Prop :=
  key ∈ (Hcl.Body.attributes d.body).map Prod.fst ∧ key ∉ settings ∨
    key ∈ (Hcl.Body.blocks d.body).map (·.name) ∧ key ∉ blockNames

theorem mem_foundKeys (d : AcceptedText) (key : String) : key ∈ d.config.foundKeys ↔ key ∈ names d.body := by
  obtain ⟨top, read, -⟩ := d.readFrom
  rw [read.foundKeys, SharedConfig.mem_addNew]
  simp

theorem mem_unusedKeys (d : AcceptedText) (key : String) : key ∈ d.config.unusedKeys ↔ d.Unread key := by
  obtain ⟨top, read, -⟩ := d.readFrom
  rw [read.unusedKeys, (SharedConfig.mem_unusedNames read.atTop).2]
  rfl

theorem unites_foundKeys : Unites SharedConfig.foundKeys where
  once d := by
    obtain ⟨top, read, -⟩ := d.readFrom
    rw [read.foundKeys]
    exact SharedConfig.nodup_addNew _ List.Pairwise.nil
  union _ _ := rfl

theorem unites_unusedKeys : Unites SharedConfig.unusedKeys where
  once d := by
    obtain ⟨top, read, -⟩ := d.readFrom
    rw [read.unusedKeys]
    exact (SharedConfig.mem_unusedNames read.atTop).1
  union _ _ := rfl

theorem Unread.mem_names {d : AcceptedText} {key : String} (unread : d.Unread key) : key ∈ names d.body := by
  rcases unread with ⟨inAttributes, -⟩ | ⟨inBlocks, -⟩
  · exact List.mem_append_left _ inAttributes
  · exact List.mem_append_right _ inBlocks

/-- No name at the top gets lost in a merge, and none is invented: the keys found are the names of all texts,
the unused keys are those of them that nothing reads in some text, and either list has each key once. -/
theorem keys_of_merged (d : AcceptedText) (ds : List AcceptedText) :
    let all := d :: ds
    (merged d ds).foundKeys.Nodup ∧
      (∀ key, key ∈ (merged d ds).foundKeys ↔ ∃ e ∈ all, key ∈ names e.body) ∧
      (merged d ds).unusedKeys.Nodup ∧
      (∀ key ∈ (merged d ds).unusedKeys, key ∈ (merged d ds).foundKeys) ∧
      ∀ key, key ∈ (merged d ds).unusedKeys ↔ ∃ e ∈ all, e.Unread key := by
  intro all
  have found : ∀ key, key ∈ (merged d ds).foundKeys ↔ ∃ e ∈ all, key ∈ names e.body := by
    intro key
    rw [unites_foundKeys.mem_merged]
    simp only [mem_foundKeys, all]
  have unused : ∀ key, key ∈ (merged d ds).unusedKeys ↔ ∃ e ∈ all, e.Unread key := by
    intro key
    rw [unites_unusedKeys.mem_merged]
    simp only [mem_unusedKeys, all]
  refine ⟨unites_foundKeys.nodup_merged d ds, found, unites_unusedKeys.nodup_merged d ds, ?_, unused⟩
  intro key member
  obtain ⟨e, inAll, unread⟩ := (unused key).mp member
  exact (found key).mpr ⟨e, inAll, unread.mem_names⟩

end ServiceKit.AcceptedText
