import ServiceKit.Proofs.Container.Sockets

namespace ServiceKit

open ServiceKit.Path (IsName components)

namespace Environment
variable {name value : String} {entries : List String}

/-- No entry assigns the variable. -/
def Unassigned (name : String) (entries : List String) : Prop :=
  ∀ entry ∈ entries, ∀ value, entry ≠ name ++ "=" ++ value

/-- The last of the entries that assign a variable gives it this value. -/
def LastAssigns (name value : String) (entries : List String) : Prop :=
  ∃ before after, entries = before ++ (name ++ "=" ++ value) :: after ∧ Unassigned name after

theorem unassigned_iff : Unassigned name entries ↔ entries.filterMap (Text.stripLead? (name ++ "=")) = [] := by
  rw [List.filterMap_eq_nil_iff]
  constructor
  · intro unassigned entry member
    rw [Option.eq_none_iff_forall_ne_some]
    exact fun value found => unassigned entry member value (Text.stripLead?_eq_some_iff.mp found)
  · intro none entry member value assigns
    have found := Text.stripLead?_eq_some_iff.mpr assigns
    rw [none entry member] at found
    cases found

theorem lastAssigns_iff : LastAssigns name value entries ↔
    (entries.filterMap (Text.stripLead? (name ++ "="))).getLast? = some value := by
  rw [List.getLast?_eq_some_iff]
  constructor
  · rintro ⟨before, after, rfl, unassigned⟩
    have found : Text.stripLead? (name ++ "=") (name ++ "=" ++ value) = some value :=
      Text.stripLead?_eq_some_iff.mpr rfl
    refine ⟨before.filterMap (Text.stripLead? (name ++ "=")), ?_⟩
    rw [List.filterMap_append, List.filterMap_cons_some found, unassigned_iff.mp unassigned]
  · rintro ⟨earlier, whole⟩
    obtain ⟨before, rest, rfl, -, last⟩ := List.filterMap_eq_append_iff.mp whole
    obtain ⟨idle, entry, after, rfl, -, found, nothing⟩ := List.filterMap_eq_cons_iff.mp last
    obtain rfl := Text.stripLead?_eq_some_iff.mp found
    exact ⟨before ++ idle, after, (List.append_assoc _ _ _).symm, unassigned_iff.mpr nothing⟩

theorem LastAssigns.or_unassigned (name : String) (entries : List String) :
    (∃ value, LastAssigns name value entries) ∨ Unassigned name entries := by
  rw [unassigned_iff, ← List.getLast?_eq_none_iff]
  cases last : (entries.filterMap (Text.stripLead? (name ++ "="))).getLast? with
  | none => exact Or.inr rfl
  | some value => exact Or.inl ⟨value, lastAssigns_iff.mpr last⟩

end Environment

namespace ContainerRunner
open Container Environment

/-- What a plugin is told last counts, and that is what its caller or its configuration says, if they say
anything. The directory that is shared with the host stays the same. -/
theorem value?_socketDir (r : ContainerRunner) : ∃ dir, r.spec.value? socketDirVariable = some dir ∧
    (LastAssigns socketDirVariable dir (r.pluginEnv ++ r.config.env) ∨
      dir = pluginSocketDir ∧ Unassigned socketDirVariable (r.pluginEnv ++ r.config.env)) := by
  have env : r.spec.env = (socketDirVariable ++ "=" ++ pluginSocketDir) :: (r.pluginEnv ++ r.config.env) := rfl
  unfold ContainerSpec.value?
  simp only [env, ← lastAssigns_iff]
  rcases LastAssigns.or_unassigned socketDirVariable (r.pluginEnv ++ r.config.env) with ⟨dir, assigns⟩ | unassigned
  · obtain ⟨before, after, whole, later⟩ := assigns
    exact ⟨dir, ⟨_ :: before, after, by rw [whole, List.cons_append], later⟩, Or.inl ⟨before, after, whole, later⟩⟩
  · exact ⟨pluginSocketDir, ⟨[], _, rfl, unassigned⟩, Or.inr ⟨rfl, unassigned⟩⟩

/-- A name in a directory is the address of a shared socket exactly if the directory is the shared one. -/
theorem toHost_join_iff (r : ContainerRunner) (dir : String) {name : String} (named : IsName name) :
    (∃ e', r.toHost ⟨"unix", Path.join dir name⟩ = .ok e') ↔ components dir = components pluginSocketDir := by
  have address : components (Path.join dir name) = components dir ++ [.name name] := Path.components_join dir named
  unfold ContainerRunner.toHost Endpoint.toHost
  constructor
  · rintro ⟨e', ran⟩
    obtain ⟨name', carried⟩ := Endpoint.translate_eq_ok_iff.mp ran
    have inside : components dir ++ [.name name] = components pluginSocketDir ++ [.name name'] :=
      address.symm.trans carried.inside
    exact (List.append_inj' inside rfl).1
  · intro same
    have inside : components (Path.join dir name) = components pluginSocketDir ++ [.name name] := by
      rw [address, same]
    exact ⟨⟨"unix", Path.join r.hostSocketDir name⟩,
      Endpoint.translate_eq_ok_iff.mpr ⟨name, named, rfl, inside, rfl, rfl⟩⟩

/-- A plugin is told to create its sockets where the last entry of its caller or its configuration says, or in
the shared directory if none does. The shared directory stays where it is, so that the host accepts the
sockets exactly if that is the place that the plugin is told. -/
theorem accepted_iff_told_shared (r : ContainerRunner) : ∃ dir, r.spec.value? socketDirVariable = some dir ∧
    (LastAssigns socketDirVariable dir (r.pluginEnv ++ r.config.env) ∨
      dir = pluginSocketDir ∧ Unassigned socketDirVariable (r.pluginEnv ++ r.config.env)) ∧
    r.spec.mounts = [⟨pluginSocketDir, r.hostSocketDir, "bind", false⟩] ∧
    ∀ name, IsName name → ((∃ e', r.toHost ⟨"unix", Path.join dir name⟩ = .ok e') ↔
      components dir = components pluginSocketDir) := by
  obtain ⟨dir, told, source⟩ := r.value?_socketDir
  exact ⟨dir, told, source, rfl, fun name named => r.toHost_join_iff dir named⟩

/-- The caller names another directory, and the configuration the shared one, with a slash at its end. -/
def contestedRunner : ContainerRunner where
  config := { image := "keel/plugin", env := ["PLUGIN_UNIX_SOCKET_DIR=/tmp/go-plugin-container/"] }
  hostSocketDir := "/run/keel/p1"
  pluginEnv := ["PLUGIN_UNIX_SOCKET_DIR=/srv/sockets"]

theorem isName_pluginSock : IsName "plugin.sock" :=
  ⟨by decide, by decide, by decide, by decide⟩

theorem accepted_contestedRunner :
    contestedRunner.spec.value? socketDirVariable = some "/tmp/go-plugin-container/" ∧ IsName "plugin.sock" ∧
      ∃ e', contestedRunner.toHost ⟨"unix", "/tmp/go-plugin-container/plugin.sock"⟩ = .ok e' := by
  have told : contestedRunner.spec.value? socketDirVariable = some "/tmp/go-plugin-container/" := by decide +kernel
  have same : components "/tmp/go-plugin-container/" = components pluginSocketDir := by decide +kernel
  obtain ⟨dir, told', -, -, accepted⟩ := accepted_iff_told_shared contestedRunner
  obtain rfl : "/tmp/go-plugin-container/" = dir := Option.some_inj.mp (told.symm.trans told')
  exact ⟨told, isName_pluginSock, (accepted "plugin.sock" isName_pluginSock).mpr same⟩

/-- The caller names another directory, and the host does not accept the sockets in it. -/
theorem refused_in_named_directory :
    let r : ContainerRunner := { contestedRunner with config := { image := "keel/plugin" } }
    r.config.validate = .ok () ∧ r.spec.value? socketDirVariable = some "/srv/sockets" ∧
      "/srv/sockets" ≠ pluginSocketDir ∧ ∀ e', r.toHost ⟨"unix", "/srv/sockets/plugin.sock"⟩ ≠ .ok e' := by
  intro r
  refine ⟨Outcome.ok_of_toOption (by decide +kernel), by decide +kernel, by decide, ?_⟩
  have apart : components "/srv/sockets" ≠ components pluginSocketDir := by decide +kernel
  exact fun e' ran => apart ((r.toHost_join_iff "/srv/sockets" isName_pluginSock).mp ⟨e', ran⟩)

end ContainerRunner

end ServiceKit
