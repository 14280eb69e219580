import Mathlib.Tactic.SplitIfs
import ServiceKit.Container.Runner

namespace ServiceKit

namespace ContainerRunner
variable {e : Engine} {r : ContainerRunner} {id : String} {texts : List String}

/-- The image is not pinned, or the engine has it under the pinned digest. -/
def Verified (e : Engine) (c : ContainerConfig) : Prop :=
  ∀ sha ∈ c.sha256, e.inspect c.imageRef = .ok (some (ContainerConfig.digestLead ++ sha))

/-- What is asked about the image before a container is created. -/
def inspections (c : ContainerConfig) : List EngineCall :=
  if c.sha256.isSome then [.inspect c.imageRef] else []

/-- The container can be attached to and started. -/
def Launches (e : Engine) (id : String) : Prop :=
  (∃ frames, e.attach id = .ok frames) ∧ e.start id = .ok ()

/-- The request at which the launch of a container fails, with those before it and the error. -/
inductive FailsAt (e : Engine) (id : String) : List EngineCall → EngineCall → ContainerError → Prop where
  | attach {fault} (refused : e.attach id = .error fault) :
      FailsAt e id [] (.attach id) ⟨.engine fault, some "Failed to attach to plugin container"⟩
  | start {frames fault} (attached : e.attach id = .ok frames) (refused : e.start id = .error fault) :
      FailsAt e id [.attach id] (.start id) ⟨.engine fault, some "Failed to start plugin container"⟩

theorem FailsAt.not_launches {before call err} (fails : FailsAt e id before call err) : ¬ Launches e id := by
  rintro ⟨⟨frames, attached⟩, started⟩
  cases fails with
  | attach refused => simp [refused] at attached
  | start _ refused => simp [refused] at started

/-- A runner made as another one was, with the container of a given id. -/
structure Holds (r : ContainerRunner) (id : String) (r' : ContainerRunner) : Prop where
  id : r'.id = id
  spec : r'.spec = r.spec

/-- The launch of a created container failed. Its removal by force was asked for right after the request that
failed, once and nothing else removed, and the error is that of the request whatever came of the removal, of
which only a warning is given. -/
def CleansUp (e : Engine) (r : ContainerRunner) (id : String) (step : Step) : Prop :=
  ∃ launch call err, FailsAt e id launch call err ∧
    step.calls = inspections r.config ++ .create :: launch ++ [call, .remove id true] ∧
    (∀ other force, .remove other force ∉ inspections r.config ++ .create :: launch ++ [call]) ∧
    step.result = .error err ∧ ∀ failed, .cleanup id failed ∈ step.warnings ↔ remove e id = .error failed

theorem CleansUp.failed {step : Step} (cleansUp : CleansUp e r id step) :
    ¬ Launches e id ∧ ∃ err, step.result = .error err := by
  obtain ⟨launch, call, err, fails, -, -, failed, -⟩ := cleansUp
  exact ⟨fails.not_launches, err, failed⟩

theorem verifyImage_eq (e : Engine) (c : ContainerConfig) :
    (verifyImage e c).1 = inspections c ∧ ((verifyImage e c).2 = .ok () ↔ Verified e c) := by
  unfold verifyImage inspections Verified
  cases pinned : c.sha256 with
  | none => simp
  | some sha =>
    cases asked : e.inspect c.imageRef with
    | error fault => simp [asked]
    | ok found =>
      by_cases same : found = some (ContainerConfig.digestLead ++ sha)
      · simp [asked, same]
      · simp [asked, same]

theorem mem_cleanup {other : String} {failed : ContainerError} :
    .cleanup other failed ∈ cleanup e id ↔ other = id ∧ remove e id = .error failed := by
  unfold cleanup
  cases removed : remove e id with
  | ok _ => simp
  | error err => simp [eq_comm]

/-- How the launch of a created container goes. -/
inductive Launch (e : Engine) (r : ContainerRunner) : Step → Prop where
  | failed {r' before call err} (holds : Holds r r.id r') (fails : FailsAt e r.id before call err) :
      Launch e r ⟨before ++ [call], r', .error err, []⟩
  | launched {r'} (holds : Holds r r.id r') (launches : Launches e r.id) :
      Launch e r ⟨[.attach r.id, .start r.id], r', .ok (), []⟩

theorem attachAndStart_launch (e : Engine) (r : ContainerRunner) : Launch e r (attachAndStart e r) := by
  unfold attachAndStart
  cases attached : e.attach r.id with
  | error fault => exact .failed ⟨rfl, rfl⟩ (.attach attached)
  | ok frames =>
    have holds : Holds r r.id { r with
        stdout := some (PluginOutput.drained frames).stdout
        stderr := some (PluginOutput.drained frames).stderr } := ⟨rfl, rfl⟩
    dsimp only
    cases started : e.start r.id with
    | error fault => exact .failed holds (.start attached started)
    | ok _ => exact .launched holds ⟨⟨frames, attached⟩, started⟩

/-- How a start goes. Nothing but the image is asked about before the container is there. -/
inductive Course (e : Engine) (r : ContainerRunner) : Step → Prop where
  | unverified {err} (unverified : ¬ Verified e r.config) :
      Course e r ⟨inspections r.config, r, .error err, []⟩
  | uncreated {err fault} (verified : Verified e r.config) (refused : e.create r.spec = .error fault) :
      Course e r ⟨inspections r.config ++ [.create], r, .error err, []⟩
  | failed {id texts r' before call err} (verified : Verified e r.config)
      (created : e.create r.spec = .ok (id, texts)) (holds : Holds r id r')
      (fails : FailsAt e id before call err) :
      Course e r ⟨inspections r.config ++ .create :: before ++ [call, .remove id true], r', .error err,
        texts.map (.creation id) ++ cleanup e id⟩
  | started {id texts r'} (verified : Verified e r.config)
      (created : e.create r.spec = .ok (id, texts)) (holds : Holds r id r') (launches : Launches e id) :
      Course e r ⟨inspections r.config ++ [.create, .attach id, .start id], r', .ok (),
        texts.map (.creation id)⟩

theorem start_course (e : Engine) (r : ContainerRunner) : Course e r (r.start e) := by
  obtain ⟨asked, verified_iff⟩ := verifyImage_eq e r.config
  unfold start
  rcases verdict : verifyImage e r.config with ⟨calls, err | _⟩
  · rw [verdict] at asked verified_iff
    obtain rfl : calls = inspections r.config := asked
    exact .unverified (by simp [← verified_iff])
  · rw [verdict] at asked verified_iff
    obtain rfl : calls = inspections r.config := asked
    have verified : Verified e r.config := verified_iff.mp rfl
    cases created : e.create r.spec with
    | error fault => exact .uncreated verified created
    | ok made =>
      obtain ⟨id, texts⟩ := made
      have launch := attachAndStart_launch e { r with id }
      dsimp only
      generalize attachAndStart e { r with id } = step at launch
      cases launch with
      | failed holds fails =>
        have course := Course.failed verified created ⟨holds.id, holds.spec⟩ fails
        simpa using course
      | launched holds launches => exact .started verified created ⟨holds.id, holds.spec⟩ launches

theorem eq_inspect_of_mem {c : ContainerConfig} {call : EngineCall} (member : call ∈ inspections c) :
    call = .inspect c.imageRef := by
  unfold inspections at member
  split_ifs at member
  · exact List.mem_singleton.mp member
  · cases member

namespace Course
variable {step : Step}

theorem create_mem_iff (course : Course e r step) : .create ∈ step.calls ↔ Verified e r.config := by
  cases course with
  | unverified unverified =>
    refine iff_of_false (fun member => ?_) unverified
    cases eq_inspect_of_mem member
  | uncreated verified | failed verified | started verified => exact iff_of_true (by simp) verified

theorem of_not_verified (course : Course e r step) (unverified : ¬ Verified e r.config) :
    step.runner = r ∧ ∃ err, step.result = .error err := by
  cases course with
  | unverified => exact ⟨rfl, _, rfl⟩
  | uncreated verified | failed verified | started verified => exact absurd verified unverified

/-- Nothing is started that could not be attached to. -/
theorem not_started (course : Course e r step) {fault} (asked : .attach id ∈ step.calls)
    (refused : e.attach id = .error fault) (other : String) : .start other ∉ step.calls := by
  have noInspection : ∀ call ∈ inspections r.config, call ≠ .attach id ∧ call ≠ .start other := by
    intro call member
    simp [eq_inspect_of_mem member]
  have notAttach : .attach id ∉ inspections r.config := fun member => (noInspection _ member).1 rfl
  have notStart : .start other ∉ inspections r.config := fun member => (noInspection _ member).2 rfl
  cases course with
  | unverified | uncreated => simp [notAttach] at asked
  | failed verified created holds fails =>
    cases fails with
    | attach => simp [notStart]
    | start attached =>
      obtain rfl : id = _ := by simpa [notAttach] using asked
      simp [refused] at attached
  | started verified created holds launches =>
    obtain rfl : id = _ := by simpa [notAttach] using asked
    obtain ⟨⟨frames, attached⟩, -⟩ := launches
    simp [refused] at attached

/-- What follows the creation of a container: it is launched, or else removed after the failing request. -/
theorem of_created (course : Course e r step) (asked : .create ∈ step.calls)
    (created : e.create r.spec = .ok (id, texts)) :
    step.runner.id = id ∧
      (Launches e id ∧ step.result = .ok () ∧ (∀ other force, .remove other force ∉ step.calls) ∨
        CleansUp e r id step) := by
  have notRemove : ∀ other force, .remove other force ∉ inspections r.config := by
    intro other force member
    cases eq_inspect_of_mem member
  cases course with
  | unverified => cases eq_inspect_of_mem asked
  | uncreated verified refused => simp [refused] at created
  | failed verified made holds fails =>
    obtain ⟨rfl, rfl⟩ := Prod.mk.inj (Except.ok.inj (made.symm.trans created))
    refine ⟨holds.id, Or.inr ⟨_, _, _, fails, rfl, ?_, rfl, ?_⟩⟩
    · intro other force
      cases fails with
      | attach | start => simp [notRemove]
    · intro failed
      simp [mem_cleanup]
  | started verified made holds launches =>
    obtain ⟨rfl, rfl⟩ := Prod.mk.inj (Except.ok.inj (made.symm.trans created))
    exact ⟨holds.id, Or.inl ⟨launches, rfl, fun other force => by simp [notRemove]⟩⟩

/-- A start that succeeds has created a container and launched it. -/
theorem exists_created (course : Course e r step) (succeeded : step.result = .ok ()) :
    ∃ id texts, e.create r.spec = .ok (id, texts) ∧ Launches e id ∧ Holds r id step.runner := by
  cases course with
  | unverified | uncreated | failed => cases succeeded
  | started verified created holds launches => exact ⟨_, _, created, launches, holds⟩

end Course

/-- A start that cannot be sure of the image creates nothing, and none that could not attach goes on to
start. Once a container is created, the start launches it and lets it be, or it fails and cleans up. -/
theorem start_keeps_or_removes (e : Engine) (r : ContainerRunner) :
    (.create ∈ (r.start e).calls ↔ Verified e r.config) ∧
    (¬ Verified e r.config → (r.start e).runner = r ∧ ∃ err, (r.start e).result = .error err) ∧
    (∀ id fault, .attach id ∈ (r.start e).calls → e.attach id = .error fault →
      ∀ other, .start other ∉ (r.start e).calls) ∧
    ∀ id texts, .create ∈ (r.start e).calls → e.create r.spec = .ok (id, texts) →
      (r.start e).runner.id = id ∧
      ((r.start e).result = .ok () ∧ (∀ other force, .remove other force ∉ (r.start e).calls) ↔ Launches e id) ∧
      (¬ Launches e id → CleansUp e r id (r.start e)) := by
  have course := start_course e r
  refine ⟨course.create_mem_iff, course.of_not_verified, fun id fault => course.not_started, ?_⟩
  intro id texts asked created
  obtain ⟨stored, ⟨launches, succeeded, kept⟩ | removed⟩ := course.of_created asked created
  · exact ⟨stored, iff_of_true ⟨succeeded, kept⟩ launches, absurd launches⟩
  · obtain ⟨unlaunched, err, failed⟩ := removed.failed
    exact ⟨stored, iff_of_false (by simp [failed]) unlaunched, fun _ => removed⟩

def plainRunner : ContainerRunner where
  config := { image := "keel/plugin" }
  hostSocketDir := "/run/keel/p1"
  pluginEnv := []

def pinnedRunner : ContainerRunner :=
  { plainRunner with config.sha256 := some (String.ofList (List.replicate 64 'a')) }

/-- An engine with one image, which does not get rid of a container. -/
def stuckEngine (image : String) (attach : Except EngineFault (List (Except EngineFault OutputFrame)))
    (start : Except EngineFault Unit) : Engine :=
  { Engine.unreachable with
    inspect := fun _ => .ok (some image)
    create := fun _ => .ok ("c1", [])
    attach := fun _ => attach
    start := fun _ => start
    remove := fun _ _ => .error (.refused 500 "device or resource busy") }

/-- Another image than the pinned one; a container that cannot be attached to, and is not removed either;
and one that is launched. -/
theorem kept_or_removed_pinnedRunner :
    let pinned := "sha256:" ++ String.ofList (List.replicate 64 'a')
    let swapped := stuckEngine "sha256:b" (.ok []) (.ok ())
    let deaf := stuckEngine pinned (.error .unreachable) (.ok ())
    let sound := stuckEngine pinned (.ok []) (.ok ())
    (¬ Verified swapped pinnedRunner.config ∧ .create ∉ (pinnedRunner.start swapped).calls ∧
        (pinnedRunner.start swapped).runner = pinnedRunner) ∧
      (.attach "c1" ∈ (pinnedRunner.start deaf).calls ∧ .start "c1" ∉ (pinnedRunner.start deaf).calls) ∧
      (¬ Launches deaf "c1" ∧ ∃ before call err, (pinnedRunner.start deaf).calls = before ++ [call, .remove "c1" true] ∧
        (pinnedRunner.start deaf).result = .error err) ∧
      Launches sound "c1" ∧ (pinnedRunner.start sound).result = .ok () := by
  intro pinned swapped deaf sound
  have unverified : ¬ Verified swapped pinnedRunner.config := by
    intro verified
    simpa [swapped, stuckEngine, pinnedRunner, ContainerConfig.digestLead] using verified _ rfl
  have unlaunched : ¬ Launches deaf "c1" := by
    rintro ⟨⟨frames, attached⟩, -⟩
    cases attached
  have launches : Launches sound "c1" := ⟨⟨[], rfl⟩, rfl⟩
  have calls : (pinnedRunner.start deaf).calls = [.inspect "keel/plugin", .create, .attach "c1", .remove "c1" true] := rfl
  have attached : .attach "c1" ∈ (pinnedRunner.start deaf).calls := by simp [calls]
  have created : .create ∈ (pinnedRunner.start sound).calls := List.mem_cons_of_mem _ List.mem_cons_self
  obtain ⟨created_iff, unmoved, -⟩ := start_keeps_or_removes swapped pinnedRunner
  have nothing : .create ∉ (pinnedRunner.start swapped).calls := mt created_iff.mp unverified
  obtain ⟨-, -, unstarted, removal⟩ := start_keeps_or_removes deaf pinnedRunner
  obtain ⟨-, -, removes⟩ := removal "c1" [] (by simp [calls]) rfl
  obtain ⟨launch, call, err, -, asked, -, failed, -⟩ := removes unlaunched
  obtain ⟨-, kept, -⟩ := (start_keeps_or_removes sound pinnedRunner).2.2.2 "c1" [] created rfl
  exact ⟨⟨unverified, nothing, (unmoved unverified).1⟩, ⟨attached, unstarted "c1" _ attached rfl "c1"⟩,
    ⟨unlaunched, _, call, err, asked, failed⟩, launches, (kept.mpr launches).1⟩

end ContainerRunner

end ServiceKit
