import Mathlib.Order.BooleanAlgebra.Set
import ServiceKit.Proofs.Container.Starting

namespace ServiceKit

/-- The containers of an engine, with those among them that a runner has created so far, gone ones too, and
those of its own that still existed when it created another one. -/
structure Population where
  existing : Set String
  created : Set String := ∅
  superseded : Set String := ∅

namespace Population
variable {e : Engine} {spec : ContainerSpec} {calls : List EngineCall} {call : EngineCall} {p q : Population}

/-- The containers after a request of a runner. What is answered with an error has no effect. -/
def after (e : Engine) (spec : ContainerSpec) (p : Population) : EngineCall → Population
  | .create => match e.create spec with
    | .ok (id, _) =>
      ⟨insert id p.existing, insert id p.created, p.superseded ∪ (p.created ∩ p.existing) \ {id}⟩
    | .error _ => p
  | .remove id force => match e.remove id force with
    | .ok () => { p with existing := p.existing \ {id} }
    | .error _ => p
  | _ => p

def afterAll (e : Engine) (spec : ContainerSpec) (p : Population) (calls : List EngineCall) : Population :=
  calls.foldl (after e spec) p

theorem afterAll_append (p : Population) (calls more : List EngineCall) :
    p.afterAll e spec (calls ++ more) = (p.afterAll e spec calls).afterAll e spec more :=
  List.foldl_append

/-- Some containers may be gone; nothing else is different. -/
structure Shrinks (p q : Population) : Prop where
  existing : q.existing ⊆ p.existing
  created : q.created = p.created
  superseded : q.superseded = p.superseded

theorem Shrinks.refl (p : Population) : Shrinks p p :=
  ⟨subset_rfl, rfl, rfl⟩

theorem Shrinks.trans {s : Population} (first : Shrinks p q) (second : Shrinks q s) : Shrinks p s :=
  ⟨second.existing.trans first.existing, second.created.trans first.created,
    second.superseded.trans first.superseded⟩

theorem after_remove {id : String} {force : Bool} (removed : e.remove id force = .ok ()) :
    p.after e spec (.remove id force) = { p with existing := p.existing \ {id} } := by
  simp only [after, removed]

/-- Only a request to create a container that is granted makes more of them. -/
theorem shrinks_after (ungranted : call = .create → ∃ fault, e.create spec = .error fault) :
    Shrinks p (p.after e spec call) := by
  cases call with
  | create =>
    obtain ⟨fault, refused⟩ := ungranted rfl
    simp only [after, refused]
    exact .refl p
  | remove id force =>
    cases removed : e.remove id force with
    | error fault =>
      simp only [after, removed]
      exact .refl p
    | ok _ =>
      rw [after_remove removed]
      exact ⟨Set.sdiff_subset, rfl, rfl⟩
  | version | info | inspect | attach | start | wait | stop => exact .refl p

theorem shrinks_afterAll (ungranted : .create ∈ calls → ∃ fault, e.create spec = .error fault) :
    Shrinks p (p.afterAll e spec calls) := by
  induction calls generalizing p with
  | nil => exact .refl p
  | cons call rest ih =>
    have first : Shrinks p (p.after e spec call) := shrinks_after fun same => ungranted (same ▸ List.mem_cons_self)
    exact first.trans (ih fun member => ungranted (List.mem_cons_of_mem _ member))

end Population

namespace ContainerRunner
variable {e : Engine} {r r' : ContainerRunner} {p q : Population} {id : String} {step : Step}

/-- What a plugin's owner may ask of a runner. -/
inductive Action where
  | start
  | wait
  | kill

def perform (e : Engine) (r : ContainerRunner) : Action → Step
  | .start => r.start e
  | .wait => r.wait e
  | .kill => r.kill e

/-- The containers after a step of a runner. -/
def leaves (e : Engine) (r : ContainerRunner) (p : Population) (action : Action) : Population :=
  p.afterAll e r.spec (r.perform e action).calls

/-- What a runner and the containers of its engine come to, from a runner that has created nothing, whatever
is answered in each step. Containers may also go by themselves, as those do that are removed automatically. -/
inductive Reached : ContainerRunner → Population → Prop
  | fresh {r : ContainerRunner} {existing : Set String} (new : r.id = "") : Reached r { existing }
  | act {r : ContainerRunner} {p : Population} (e : Engine) (action : Action) : Reached r p →
      Reached (r.perform e action).runner (r.leaves e p action)
  | vanish {r : ContainerRunner} {p q : Population} : Reached r p → p.Shrinks q → Reached r q

/-- Of the containers that a runner has created, all that exist are superseded but for the one it knows. -/
def Tracks (r : ContainerRunner) (p : Population) : Prop :=
  ∀ id ∈ p.created, id ∈ p.existing → id ≠ r.id → id ∈ p.superseded

theorem Tracks.shrink (tracks : Tracks r p) (fewer : p.Shrinks q) (same : r'.id = r.id) : Tracks r' q := by
  intro id created existing other
  rw [fewer.created] at created
  rw [fewer.superseded]
  exact tracks id created (fewer.existing existing) (same ▸ other)

/-- With a new container all others that exist are superseded. -/
theorem tracks_create {texts : List String} (created : e.create r.spec = .ok (id, texts)) (stored : r'.id = id) :
    Tracks r' (p.after e r.spec .create) := by
  intro other made existing different
  rw [stored] at different
  simp only [Population.after, created, Set.mem_insert_iff, different, false_or] at made existing ⊢
  exact Or.inr ⟨⟨made, existing⟩, different⟩

/-- A start creates one container and takes its id, or it creates none. -/
theorem Course.created_or_not (course : Course e r step) :
    step.runner = r ∧ (.create ∈ step.calls → ∃ fault, e.create r.spec = .error fault) ∨
      ∃ id texts rest, e.create r.spec = .ok (id, texts) ∧ step.runner.id = id ∧
        step.calls = inspections r.config ++ .create :: rest ∧ .create ∉ rest := by
  cases course with
  | unverified unverified =>
    refine Or.inl ⟨rfl, fun member => ?_⟩
    cases eq_inspect_of_mem member
  | uncreated verified refused => exact Or.inl ⟨rfl, fun _ => ⟨_, refused⟩⟩
  | failed verified created holds fails =>
    refine Or.inr ⟨_, _, _, created, holds.id, List.append_assoc _ _ _, ?_⟩
    cases fails with
    | attach | start => simp
  | started verified created holds launches => exact Or.inr ⟨_, _, _, created, holds.id, rfl, by simp⟩

theorem tracks_start (tracks : Tracks r p) : Tracks (r.start e).runner (r.leaves e p .start) := by
  rcases (start_course e r).created_or_not with ⟨same, ungranted⟩ | ⟨id, texts, rest, created, stored, calls, once⟩
  · exact tracks.shrink (Population.shrinks_afterAll ungranted) (by rw [same])
  · have others : ∀ s : Population, Population.Shrinks s (s.afterAll e r.spec rest) := fun s =>
      Population.shrinks_afterAll fun member => absurd member once
    rw [leaves, perform, calls, Population.afterAll_append]
    exact (tracks_create created stored).shrink (others _) rfl

/-- How a kill goes. Without a container nothing is asked; one that cannot be stopped is not removed. -/
inductive Ending (e : Engine) (r : ContainerRunner) : Step → Prop where
  | unbegun (new : r.id = "") : Ending e r ⟨[], r, .ok (), []⟩
  | unstopped {err} : Ending e r ⟨[.stop r.id (graceSeconds r.config)], r, .error err, []⟩
  | stopped (begun : r.id ≠ "") :
      Ending e r ⟨[.stop r.id (graceSeconds r.config), .remove r.id true], r, remove e r.id, []⟩

theorem kill_ending (e : Engine) (r : ContainerRunner) : Ending e r (r.kill e) := by
  unfold kill
  split_ifs with new
  · exact .unbegun new
  · dsimp only
    split
    · exact .unstopped
    · exact .stopped new

theorem kill_runner (e : Engine) (r : ContainerRunner) : (r.kill e).runner = r := by
  have ending := kill_ending e r
  generalize r.kill e = step at ending
  cases ending with
  | unbegun | unstopped | stopped => rfl

theorem create_notMem_kill (e : Engine) (r : ContainerRunner) : .create ∉ (r.kill e).calls := by
  have ending := kill_ending e r
  generalize r.kill e = step at ending
  cases ending with
  | unbegun | unstopped | stopped => simp

theorem tracks_kill (tracks : Tracks r p) : Tracks r (r.leaves e p .kill) :=
  tracks.shrink (Population.shrinks_afterAll fun asked => absurd asked (create_notMem_kill e r)) rfl

theorem Reached.tracks (reached : Reached r p) : Tracks r p := by
  induction reached with
  | fresh new => exact fun id created => absurd created (Set.notMem_empty id)
  | @act r p e action _ ih =>
    cases action with
    | start => exact tracks_start ih
    | wait => exact ih.shrink (Population.shrinks_afterAll (by simp [perform, wait])) rfl
    | kill =>
      rw [perform, kill_runner]
      exact tracks_kill ih
  | vanish _ fewer ih => exact ih.shrink fewer rfl

theorem exists_of_isRemoved {f : EngineFault} (counts : isRemoved f = true) :
    ∃ status message, status ∈ [304, 404, 409] ∧ f = .refused status message := by
  cases f with
  | refused status message => exact ⟨status, message, by simpa [isRemoved, EngineFault.status?] using counts, rfl⟩
  | socketNotFound | unreachable | malformed => simp [isRemoved, EngineFault.status?] at counts

/-- What counts as a removal is one, or it was refused with a status that is taken for it. -/
theorem remove_eq_ok (removed : remove e id = .ok ()) : e.remove id true = .ok () ∨
    ∃ status message, status ∈ [304, 404, 409] ∧ e.remove id true = .error (.refused status message) := by
  unfold remove at removed
  cases answer : e.remove id true with
  | ok _ => exact Or.inl rfl
  | error f =>
    rw [answer] at removed
    dsimp only at removed
    split_ifs at removed with counts
    obtain ⟨status, message, listed, rfl⟩ := exists_of_isRemoved counts
    exact Or.inr ⟨status, message, listed, rfl⟩

/-- A container that a successful kill leaves in the engine is one that existed still when the runner created
another one, or it is the last one and the engine has refused to remove it with a status that the runner takes
for a removal. -/
theorem orphan_of_killed (reached : Reached r p) (killed : (r.kill e).result = .ok ()) :
    ∀ id ∈ (r.leaves e p .kill).created, id ∈ (r.leaves e p .kill).existing →
      id ≠ r.id ∧ id ∈ (r.leaves e p .kill).superseded ∨
        id = r.id ∧ (id = "" ∨ ∃ status message, status ∈ [304, 404, 409] ∧
          e.remove id true = .error (.refused status message)) := by
  intro id created existing
  by_cases last : id = r.id
  · refine Or.inr ⟨last, ?_⟩
    subst last
    rw [leaves, perform] at existing
    have ending := kill_ending e r
    generalize r.kill e = step at ending killed existing
    cases ending with
    | unbegun new => exact Or.inl new
    | unstopped => cases killed
    | stopped begun =>
      refine (remove_eq_ok killed).elim (fun removed => ?_) Or.inr
      change r.id ∈ (p.after e r.spec (.remove r.id true)).existing at existing
      rw [Population.after_remove removed] at existing
      exact absurd rfl existing.2
  · exact Or.inl ⟨last, tracks_kill reached.tracks id created existing last⟩

/-- An engine that does all that it is asked except, maybe, to remove a container. -/
def grantingEngine (id : String) (removal : Except EngineFault Unit) : Engine :=
  { Engine.unreachable with
    create := fun _ => .ok (id, [])
    attach := fun _ => .ok []
    start := fun _ => .ok ()
    stop := fun _ _ => .ok ()
    remove := fun _ _ => removal }

/-- A runner and the containers after several steps, from an engine without any. -/
def courseOf (steps : List (Engine × Action)) : ContainerRunner × Population :=
  steps.foldl (fun s step => ((s.1.perform step.1 step.2).runner, s.1.leaves step.1 s.2 step.2))
    (plainRunner, { existing := ∅ })

def restarted : ContainerRunner × Population :=
  courseOf [(grantingEngine "c1" (.ok ()), .start), (grantingEngine "c2" (.ok ()), .start)]

theorem reached_restarted : Reached restarted.1 restarted.2 :=
  .act _ .start (.act _ .start (.fresh rfl))

/-- Of two containers the second one is removed. -/
theorem second_removed_restarted :
    let e := grantingEngine "c2" (.ok ())
    Reached restarted.1 restarted.2 ∧ (restarted.1.kill e).result = .ok () ∧
      "c2" ∈ (restarted.1.leaves e restarted.2 .kill).created ∧
      "c2" ∉ (restarted.1.leaves e restarted.2 .kill).existing := by
  intro e
  have killed : (restarted.1.kill e).result = .ok () := rfl
  have created : "c2" ∈ (restarted.1.leaves e restarted.2 .kill).created := Set.mem_insert _ _
  refine ⟨reached_restarted, killed, created, fun existing => ?_⟩
  rcases orphan_of_killed reached_restarted killed "c2" created existing with
    ⟨other, -⟩ | ⟨-, nameless | ⟨status, message, -, refused⟩⟩
  · exact other rfl
  · exact absurd nameless (by decide)
  · cases refused

/-- Containers that a successful kill leaves behind: one that the engine says it is removing already, one that
was replaced by another, and one with an empty id. -/
theorem orphans_left :
    let conflict := grantingEngine "c1" (.error (.refused 409 "removal is already in progress"))
    let granting := grantingEngine "c2" (.ok ())
    let nameless := grantingEngine "" (.ok ())
    let removing := courseOf [(conflict, .start)]
    let unnamed := courseOf [(nameless, .start)]
    (Reached removing.1 removing.2 ∧ (removing.1.kill conflict).result = .ok () ∧
      "c1" ∈ (removing.1.leaves conflict removing.2 .kill).created ∧
      "c1" ∈ (removing.1.leaves conflict removing.2 .kill).existing) ∧
    (Reached restarted.1 restarted.2 ∧ (restarted.1.kill granting).result = .ok () ∧
      "c1" ∈ (restarted.1.leaves granting restarted.2 .kill).created ∧
      "c1" ∈ (restarted.1.leaves granting restarted.2 .kill).existing) ∧
    Reached unnamed.1 unnamed.2 ∧ (unnamed.1.kill nameless).result = .ok () ∧
      "" ∈ (unnamed.1.leaves nameless unnamed.2 .kill).created ∧
      "" ∈ (unnamed.1.leaves nameless unnamed.2 .kill).existing := by
  intro conflict granting nameless removing unnamed
  have other : "c1" ∉ ({"c2"} : Set String) := by simp
  refine ⟨⟨.act _ .start (.fresh rfl), rfl, Set.mem_insert _ _, Set.mem_insert _ _⟩, ⟨reached_restarted, rfl, ?_, ?_⟩,
    .act _ .start (.fresh rfl), rfl, Set.mem_insert _ _, Set.mem_insert _ _⟩
  · exact Set.mem_insert_of_mem _ (Set.mem_insert _ _)
  · exact ⟨Set.mem_insert_of_mem _ (Set.mem_insert _ _), other⟩

end ContainerRunner

end ServiceKit
