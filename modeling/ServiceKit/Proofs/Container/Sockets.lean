import ServiceKit.Container.Runner
import ServiceKit.Proofs.Outcome
import ServiceKit.Proofs.System.Paths

namespace ServiceKit

open ServiceKit.Path (IsName components)

namespace Container.Endpoint
variable {fromDir toDir name : String} {e e' : Endpoint}

/-- An endpoint right in one directory, and the one of the same name in the other. -/
structure Carried (fromDir toDir : String) (e e' : Endpoint) (name : String) : Prop where
  named : IsName name
  network : e.network = "unix"
  inside : components e.address = components fromDir ++ [.name name]
  network' : e'.network = "unix"
  address' : e'.address = Path.join toDir name

/-- Exactly the sockets right in the one directory are mapped, to those of their names in the other. -/
theorem translate_eq_ok_iff : e.translate fromDir toDir = .ok e' ↔ ∃ name, Carried fromDir toDir e e' name := by
  unfold translate
  constructor
  · intro ran
    split_ifs at ran with unix
    split at ran
    · rename_i steps name above last
      split_ifs at ran with inDir
      cases ran
      have whole := Path.parent?_fileName?_iff.mp ⟨above, last⟩
      have named : IsName name := Path.isName_of_mem (whole ▸ List.mem_append_right _ List.mem_cons_self)
      exact ⟨name, named, not_not.mp unix, inDir ▸ whole, rfl, rfl⟩
    · cases ran
  · rintro ⟨name, named, unix, inside, unix', address'⟩
    obtain ⟨above, last⟩ := Path.parent?_fileName?_iff.mpr inside
    rw [if_neg (not_not.mpr unix), above, last]
    obtain ⟨network', address⟩ := e'
    subst unix' address'
    exact if_pos rfl

namespace Carried

theorem fileName? (carried : Carried fromDir toDir e e' name) : Path.fileName? e.address = some name :=
  (Path.parent?_fileName?_iff.mpr carried.inside).2

/-- The counterpart lies right in the other directory. -/
theorem inside' (carried : Carried fromDir toDir e e' name) :
    components e'.address = components toDir ++ [.name name] := by
  rw [carried.address', Path.components_join toDir carried.named]

/-- The counterpart of the counterpart is the first socket, whichever way its path was written. -/
theorem returns (carried : Carried fromDir toDir e e' name) :
    e'.translate toDir fromDir = .ok ⟨"unix", Path.join fromDir name⟩ ∧
      Path.same (Path.join fromDir name) e.address = true := by
  refine ⟨translate_eq_ok_iff.mpr ⟨name, carried.named, carried.network', carried.inside', rfl, rfl⟩, ?_⟩
  rw [Path.same, beq_iff_eq, Path.components_join fromDir carried.named, carried.inside]

end Carried

theorem join_pluginSocketDir (name : String) : Path.join pluginSocketDir name = pluginSocketDir ++ "/" ++ name :=
  if_neg (by decide)

end Container.Endpoint

namespace ContainerRunner
open Container

/-- Whatever the host's directory and the address look like, only sockets right in the one shared directory are
mapped, each to the socket of its file name right in the other, and from there the way back leads to where it
came from. The plugin sees its directory, a slash and the file name. -/
theorem sockets_confined (r : ContainerRunner) (e e' : Endpoint) :
    (r.toPlugin e = .ok e' → e.network = "unix" ∧ ∃ name,
      IsName name ∧ Path.fileName? e.address = some name ∧
      components e.address = components r.hostSocketDir ++ [.name name] ∧
      components e'.address = components pluginSocketDir ++ [.name name] ∧
      e' = ⟨"unix", pluginSocketDir ++ "/" ++ name⟩ ∧
      ∃ back, r.toHost e' = .ok back ∧ Path.same back.address e.address = true) ∧
    (r.toHost e = .ok e' → e.network = "unix" ∧ ∃ name,
      IsName name ∧ Path.fileName? e.address = some name ∧
      components e.address = components pluginSocketDir ++ [.name name] ∧
      components e'.address = components r.hostSocketDir ++ [.name name] ∧
      e' = ⟨"unix", Path.join r.hostSocketDir name⟩ ∧
      ∃ back, r.toPlugin e' = .ok back ∧ Path.same back.address e.address = true ∧
        back.address = pluginSocketDir ++ "/" ++ name) := by
  constructor
  · intro ran
    obtain ⟨name, carried⟩ := Endpoint.translate_eq_ok_iff.mp ran
    have address : e'.address = pluginSocketDir ++ "/" ++ name := by
      rw [carried.address', Endpoint.join_pluginSocketDir]
    obtain ⟨returned, same⟩ := carried.returns
    exact ⟨carried.network, name, carried.named, carried.fileName?, carried.inside, carried.inside',
      by rw [← carried.network', ← address], _, returned, same⟩
  · intro ran
    obtain ⟨name, carried⟩ := Endpoint.translate_eq_ok_iff.mp ran
    obtain ⟨returned, same⟩ := carried.returns
    exact ⟨carried.network, name, carried.named, carried.fileName?, carried.inside, carried.inside',
      by rw [← carried.network', ← carried.address'], _, returned, same, Endpoint.join_pluginSocketDir name⟩

/-- The host's directory is relative, with a step up and a slash at its end. -/
def crookedRunner : ContainerRunner where
  config := {}
  hostSocketDir := "run/../plugins//"
  pluginEnv := []

theorem confined_crookedRunner :
    let given : Endpoint := ⟨"unix", "run//.././plugins/abc/."⟩
    let announced : Endpoint := ⟨"unix", "/tmp//go-plugin-container/abc"⟩
    crookedRunner.toPlugin given = .ok ⟨"unix", "/tmp/go-plugin-container/abc"⟩ ∧
      crookedRunner.toHost announced = .ok ⟨"unix", "run/../plugins//abc"⟩ ∧
      (∃ back, crookedRunner.toHost ⟨"unix", "/tmp/go-plugin-container/abc"⟩ = .ok back ∧
        Path.same back.address given.address = true) ∧
      ∃ back, crookedRunner.toPlugin ⟨"unix", "run/../plugins//abc"⟩ = .ok back ∧
        Path.same back.address announced.address = true := by
  intro given announced
  have toPlugin : crookedRunner.toPlugin given = .ok ⟨"unix", "/tmp/go-plugin-container/abc"⟩ :=
    Outcome.ok_of_toOption (by decide +kernel)
  have toHost : crookedRunner.toHost announced = .ok ⟨"unix", "run/../plugins//abc"⟩ :=
    Outcome.ok_of_toOption (by decide +kernel)
  obtain ⟨-, name, -, -, -, -, -, returned⟩ := (sockets_confined crookedRunner given _).1 toPlugin
  obtain ⟨-, name', -, -, -, -, -, back, returned', same, -⟩ := (sockets_confined crookedRunner announced _).2 toHost
  exact ⟨toPlugin, toHost, returned, back, returned', same⟩

end ContainerRunner

end ServiceKit
