import Mathlib.Tactic.SplitIfs
import ServiceKit.Proofs.Outcome
import ServiceKit.Server.Build

namespace ServiceKit.Server
variable {fs : FileSystem} {now : Int} {config : SharedConfig} {server : Server} {l : Listener} {index : Nat}
  {state : Router.State} {served : Listener × Handler}

/-- A listener that is built has passed the check of its certificate, and is served by its router. -/
theorem buildListener_ok (built : buildListener fs state index l = .ok served) :
    served.1 = l ∧ checkTls fs index l = .ok () ∧ Router.ofListener state l = .ok served.2 := by
  unfold buildListener at built
  split at built
  · cases built
  · rename_i passed
    split at built
    · cases built
    · rename_i routed
      cases built
      exact ⟨rfl, passed, routed⟩

/-- A server keeps its configuration and builds each of its listeners, in order. -/
theorem build_ok (built : build fs now config = .ok server) :
    server.config = config ∧
      List.Forall₂ (fun numbered served =>
          buildListener fs (Router.State.ofConfig config now) numbered.2 numbered.1 = .ok served)
        config.listeners.zipIdx server.listeners := by
  unfold build at built
  split_ifs at built
  obtain ⟨listeners, ran, rfl⟩ := Outcome.map_ok built
  exact ⟨rfl, Outcome.mapM_ok ran⟩

theorem listeners_of_build (built : build fs now config = .ok server) :
    server.listeners.map Prod.fst = config.listeners := by
  have same : List.Forall₂ (· = ·) (config.listeners.zipIdx.map Prod.fst) (server.listeners.map Prod.fst) := by
    rw [List.forall₂_map_left_iff, List.forall₂_map_right_iff]
    exact (build_ok built).2.imp fun _ _ made => (buildListener_ok made).1.symm
  rw [List.forall₂_eq_eq_eq, List.zipIdx_map_fst] at same
  exact same.symm

theorem length_of_build (built : build fs now config = .ok server) :
    server.listeners.length = config.listeners.length := by
  rw [← listeners_of_build built, List.length_map]

theorem checked_of_build (built : build fs now config = .ok server) :
    ∀ l ∈ config.listeners, ∃ index, checkTls fs index l = .ok () := by
  intro l member
  rw [← listeners_of_build built] at member
  obtain ⟨served, served_mem, rfl⟩ := List.mem_map.mp member
  obtain ⟨numbered, -, made⟩ := Outcome.exists_of_mem_right (build_ok built).2 served_mem
  obtain ⟨same, passed, -⟩ := buildListener_ok made
  exact ⟨numbered.2, same ▸ passed⟩

end ServiceKit.Server
