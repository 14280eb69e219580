import ServiceKit.Proofs.Container.Starting

namespace ServiceKit

/-- The life of a started container. Its plugin exits once; if the engine removes it, then afterwards. -/
structure Lifetime where
  code : Int
  exit : Nat
  removal : Nat
  exit_le_removal : exit ≤ removal

/-- What an engine reports, in the end, to one who waits for a container that exits with the given code. -/
inductive Reports (code : Int) : List ExitReport → Prop where
  | status : Reports code [.status code]
  | failure (message : String) (failed : 0 < code) : Reports code [.failure code message]

/-- The answers of an engine, over time, to those who wait for a container that was made to a specification.
While the container is there they learn how it exits, even if they have to wait for that. With automatic
removal it is removed after its exit, whatever the code, and is unknown from then on. -/
structure Follows (engine : Nat → Engine) (spec : ContainerSpec) (id : String) (life : Lifetime) : Prop where
  there : ∀ t, (spec.autoRemove = true → t < life.removal) → Reports life.code ((engine t).wait id)
  removed : spec.autoRemove = true → ∀ t, life.removal ≤ t →
    ∃ message, (engine t).wait id = [.fault (.refused 404 message)]

/-- Reports that count as a clean exit: the code zero only, up to their end or to the answer that the
container is unknown. -/
inductive Clean : List ExitReport → Prop where
  | ended : Clean []
  | unknown (message : String) (rest : List ExitReport) : Clean (.fault (.refused 404 message) :: rest)
  | zero {rest} (clean : Clean rest) : Clean (.status 0 :: rest)

namespace ContainerRunner
variable {e : Engine} {r : ContainerRunner} {id : String}

theorem outcome_eq_ok_iff {reports : List ExitReport} : outcome id reports = .ok () ↔ Clean reports := by
  constructor
  · intro ok
    induction reports with
    | nil => exact .ended
    | cons report rest ih =>
      cases report with
      | status code =>
        rw [outcome] at ok
        split_ifs at ok with zero
        subst zero
        exact .zero (ih ok)
      | failure code message => cases ok
      | fault f =>
        rw [outcome] at ok
        split_ifs at ok with gone
        cases f with
        | refused status message =>
          obtain rfl : status = 404 := Option.some.inj gone
          exact .unknown message rest
        | socketNotFound | unreachable | malformed => cases gone
  · intro clean
    induction clean with
    | ended => rfl
    | unknown => rfl
    | zero _ ih => exact ih

theorem outcome_of_reports {code : Int} {reports : List ExitReport} (reported : Reports code reports) :
    outcome id reports = if code = 0 then .ok () else .error ⟨.exited code, some id⟩ := by
  cases reported with
  | status => rfl
  | failure message failed =>
    rw [if_neg (Int.ne_of_gt failed)]
    rfl

/-- Whenever the end of a started container is waited for, the code of its exit is the outcome, unless the
engine has removed the container in the meantime: then every exit, a crash too, counts as a clean one. -/
theorem crash_reported_iff {engine : Nat → Engine} {life : Lifetime} (started : (r.start e).result = .ok ())
    (follows : ∀ id texts, e.create r.spec = .ok (id, texts) → Follows engine r.spec id life) (t : Nat) :
    (((r.start e).runner.wait (engine t)).result = .error ⟨.exited life.code, some (r.start e).runner.id⟩ ↔
      life.code ≠ 0 ∧ (r.config.debug = true ∨ t < life.removal)) ∧
    (((r.start e).runner.wait (engine t)).result = .ok () ↔
      life.code = 0 ∨ r.config.debug = false ∧ life.removal ≤ t) := by
  obtain ⟨id, texts, created, -, holds⟩ := (start_course e r).exists_created started
  have answers := follows id texts created
  have automatic : r.spec.autoRemove = !r.config.debug := rfl
  have asked : ((r.start e).runner.wait (engine t)).result = outcome id ((engine t).wait id) := by
    rw [← holds.id]
    rfl
  rw [asked, holds.id]
  by_cases gone : r.config.debug = false ∧ life.removal ≤ t
  · obtain ⟨kept, late⟩ := gone
    obtain ⟨message, unknown⟩ := answers.removed (by simp [automatic, kept]) t late
    have clean : outcome id ((engine t).wait id) = .ok () := by
      rw [unknown]
      exact outcome_eq_ok_iff.mpr (.unknown message [])
    simp [clean, kept, late]
  · have inTime : r.config.debug = true ∨ t < life.removal := by
      cases debug : r.config.debug with
      | true => exact Or.inl rfl
      | false => exact Or.inr (Nat.lt_of_not_le fun late => gone ⟨debug, late⟩)
    have reported := answers.there t fun removes =>
      inTime.resolve_left (by simpa [automatic] using removes)
    rw [outcome_of_reports reported]
    by_cases zero : life.code = 0 <;> simp [zero, inTime, gone]

/-- A plugin that exits with the code 3, in a container that is removed some time later. -/
def brokenLife : Lifetime where
  code := 3
  exit := 1
  removal := 5
  exit_le_removal := by omega

/-- An engine with this one container. -/
def brokenEngine (t : Nat) : Engine :=
  { Engine.unreachable with
    create := fun _ => .ok ("c1", [])
    attach := fun _ => .ok []
    start := fun _ => .ok ()
    wait := fun _ => if t < brokenLife.removal then [.status brokenLife.code]
      else [.fault (.refused 404 "No such container: c1")] }

theorem follows_brokenEngine : Follows brokenEngine plainRunner.spec "c1" brokenLife where
  there t early := by
    have inTime : t < brokenLife.removal := early rfl
    simp only [brokenEngine, if_pos inTime]
    exact .status
  removed _ t late := ⟨_, if_neg (Nat.not_lt.mpr late)⟩

/-- The crash is reported to one who waits before the container is removed, if only after the exit. -/
theorem reported_plainRunner :
    (plainRunner.start (brokenEngine 0)).result = .ok () ∧
      ((plainRunner.start (brokenEngine 0)).runner.wait (brokenEngine 4)).result =
        .error ⟨.exited 3, some "c1"⟩ ∧
      ((plainRunner.start (brokenEngine 0)).runner.wait (brokenEngine 5)).result = .ok () := by
  have started : (plainRunner.start (brokenEngine 0)).result = .ok () := rfl
  have follows : ∀ id texts, (brokenEngine 0).create plainRunner.spec = .ok (id, texts) →
      Follows brokenEngine plainRunner.spec id brokenLife := by
    rintro id texts ⟨⟩
    exact follows_brokenEngine
  have reported := (crash_reported_iff started follows 4).1
  have unreported := (crash_reported_iff started follows 5).2
  exact ⟨started, reported.mpr ⟨by decide, Or.inr (by decide)⟩, unreported.mpr (Or.inr ⟨rfl, Nat.le_refl _⟩)⟩

/-- A crash that is taken for a clean exit, with an engine that does what is expected of it. -/
theorem crash_unreported_of_removed :
    plainRunner.config.validate = .ok () ∧ (plainRunner.start (brokenEngine 0)).result = .ok () ∧
      (plainRunner.start (brokenEngine 0)).runner.id = "c1" ∧
      Follows brokenEngine plainRunner.spec "c1" brokenLife ∧ brokenLife.code ≠ 0 ∧
      ((plainRunner.start (brokenEngine 0)).runner.wait (brokenEngine 5)).result = .ok () :=
  ⟨rfl, rfl, rfl, follows_brokenEngine, by decide, rfl⟩

end ContainerRunner

end ServiceKit
