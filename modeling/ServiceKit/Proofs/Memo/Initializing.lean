import Mathlib.Tactic.SplitIfs
import ServiceKit.Memo.Awaited
import ServiceKit.Memo.Once

namespace ServiceKit

/-! ### One try for all calls -/

namespace Once
variable {α β ε : Type} (init : Initializer α)

/-- What is left after the first call. -/
def settled : Once α :=
  ⟨⟨(init 0).toOption, 1⟩, true⟩

/-- What every call but the first gives. -/
def settledOutcome : Except Crash α :=
  (init 0).mapError fun _ => .initializerSpent

theorem call_first : Once.call init {} = (settled init, init 0) := by
  unfold Once.call settled Memo.getOrInit
  cases init 0 <;> simp [Memo.isInitialized, Except.toOption]

theorem call_settled : Once.call init (settled init) = (settled init, settledOutcome init) := by
  unfold Once.call settled settledOutcome Memo.getOrInit
  cases init 0 <;> simp [Memo.isInitialized, Except.toOption, Except.mapError]

theorem calls_settled (n : Nat) :
    Once.calls init n (settled init) = List.replicate n (settledOutcome init, 1) := by
  induction n with
  | zero => rfl
  | succ n ih =>
    rw [Once.calls, call_settled, List.replicate_succ]
    exact congrArg _ ih

theorem calls_first (n : Nat) :
    Once.calls init (n + 1) {} = (init 0, 1) :: List.replicate n (settledOutcome init, 1) := by
  rw [Once.calls, call_first]
  exact congrArg _ (calls_settled init n)

/-- However often a function is called, its initializer runs once. What it returned every call returns, be it an error
that is a value; if it crashed, so does the first call, and all later ones say that it is spent. Calls that overlap
wait for each other and are one after the other here. -/
theorem calls_of_one_run (fallible : Initializer (Except ε β)) (n : Nat) :
    (Once.calls init n {}).length = n ∧
    (∀ call ∈ Once.calls init n {}, call.2 = 1) ∧
    (∀ v, init 0 = .ok v → ∀ call ∈ Once.calls init n {}, call.1 = .ok v) ∧
    (∀ c, init 0 = .error c → (∀ call ∈ (Once.calls init n {}).head?, call.1 = .error c) ∧
      ∀ call ∈ (Once.calls init n {}).tail, call.1 = .error .initializerSpent) ∧
    (∀ e, fallible 0 = .ok (.error e) → ∀ call ∈ Once.calls fallible n {}, call = (.ok (.error e), 1)) := by
  cases n with
  | zero => simp [Once.calls]
  | succ n =>
    have calls := calls_first init n
    refine ⟨by simp [calls], ?_, fun v returned => ?_, fun c crashed => ?_, fun e failed => ?_⟩
    · simp [calls]
    · simp [calls, settledOutcome, returned, Except.mapError]
    · simp [calls, settledOutcome, crashed, Except.mapError]
    · simp [calls_first fallible n, settledOutcome, failed, Except.mapError]

/-- Initializers that would do better the second time are not tried again. -/
theorem calls_not_retried :
    let crashing : Initializer Nat := fun run => if run = 0 then .error (.custom "no") else .ok run
    let failing : Initializer (Except String Nat) := fun run => .ok (if run = 0 then .error "no" else .ok run)
    (∀ call ∈ (Once.calls crashing 3 {}).tail, call.1 = .error .initializerSpent) ∧
      (∀ call ∈ Once.calls crashing 3 {}, call.2 = 1) ∧
      ∀ call ∈ Once.calls failing 3 {}, call = (.ok (.error "no"), 1) := by
  intro crashing failing
  obtain ⟨-, runs, -, crashed, failed⟩ := calls_of_one_run crashing failing 3
  exact ⟨(crashed (.custom "no") rfl).2, runs, failed "no" rfl⟩

end Once

/-! ### One initializer at a time -/

namespace AwaitedMemo

section
variable {α ε : Type} {m : AwaitedMemo α} {caller : Nat} {outcome? : Option (Except ε α)}

/-- The ways in which a caller goes on: it finds the value, its initializer starts or goes on, or it waits. -/
inductive Course (caller : Nat) (outcome? : Option (Except ε α)) (m : AwaitedMemo α) :
    AwaitedMemo α × Option (Except ε α) → Prop
  | found {v : α} (value : m.value? = some v) :
      Course caller outcome? m ({ m with queue := m.queue.erase caller }, some (.ok v))
  | starts (empty : m.value? = none)
      (permitted : m.holder? = some caller ∧ m.started = false ∨ m.holder? = none ∧ caller ∉ m.queue) :
      Course caller outcome? m ((m.start caller).finish outcome?)
  | goesOn (empty : m.value? = none) (holds : m.holder? = some caller) (started : m.started = true) :
      Course caller outcome? m (m.finish outcome?)
  | waits {queue : List Nat} (empty : m.value? = none) (behind : m.holder? ≠ some caller)
      (queued : m.holder? = none → caller ∈ m.queue) : Course caller outcome? m ({ m with queue }, none)

theorem poll_course (caller : Nat) (outcome? : Option (Except ε α)) (m : AwaitedMemo α) :
    Course caller outcome? m (m.poll caller outcome?) := by
  unfold poll
  split
  · exact .found ‹_›
  · rename_i value
    split_ifs with holds started waits free
    · exact .goesOn value holds started
    · exact .starts value (Or.inl ⟨holds, by simpa using started⟩)
    · exact .waits value holds fun _ => waits
    · exact .starts value (Or.inr ⟨free, waits⟩)
    · exact .waits value holds fun none => absurd none free

theorem runs_finish (outcome? : Option (Except ε α)) (m : AwaitedMemo α) : (m.finish outcome?).1.runs = m.runs := by
  rcases outcome? with _ | _ | _
  · rfl
  · unfold finish release
    dsimp only
    split <;> rfl
  · rfl

theorem runs_lt_of_start (outcome? : Option (Except ε α)) (m : AwaitedMemo α) :
    m.runs < ((m.start caller).finish outcome?).1.runs := by
  rw [runs_finish]
  exact Nat.lt_succ_self _

/-- A caller gets the error that its own initializer comes to, and no other. -/
theorem error_of_finish {e : ε} (answer : (m.finish outcome?).2 = some (.error e)) : outcome? = some (.error e) := by
  rcases outcome? with _ | _ | _ <;> cases answer
  rfl

theorem value_of_finish {v : α} (answer : (m.finish outcome?).2 = some (.ok v)) :
    (m.finish outcome?).1.value? = some v := by
  rcases outcome? with _ | _ | _ <;> cases answer
  rfl

end

/-- A memo with what is seen of its callers' initializers: which of them are in progress, and the values of those that
succeeded, the first one first. -/
structure Watched (α : Type) where
  memo : AwaitedMemo α := {}
  inProgress : List Nat := []
  successes : List α := []

namespace Watched
variable {α ε : Type} {w : Watched α} {caller other : Nat} {outcome? : Option (Except ε α)}

/-- A caller's initializer goes on, if it is in progress, and ends if it has come to something. -/
def goOn (caller : Nat) (outcome? : Option (Except ε α)) (w : Watched α) : Watched α :=
  match outcome? with
  | none => w
  | some outcome =>
    if caller ∈ w.inProgress then
      { w with inProgress := w.inProgress.erase caller, successes := w.successes ++ outcome.toOption.toList }
    else w

/-- A caller is let go on. If this makes for one more run of an initializer, it is the caller's. -/
def poll (caller : Nat) (outcome? : Option (Except ε α)) (w : Watched α) : Watched α :=
  let after := (w.memo.poll caller outcome?).1
  let inProgress := if w.memo.runs < after.runs then caller :: w.inProgress else w.inProgress
  goOn caller outcome? { w with memo := after, inProgress }

/-- A caller goes away, and its initializer with it. -/
def cancel (caller : Nat) (w : Watched α) : Watched α :=
  { w with memo := w.memo.cancel caller, inProgress := w.inProgress.erase caller }

/-- The states that a memo comes to. Each caller may have an initializer with errors of a kind of its own, or of no
kind at all. -/
inductive Reached : Watched α → Prop
  | new : Reached {}
  | poll {ε : Type} {w : Watched α} (caller : Nat) (outcome? : Option (Except ε α)) :
      Reached w → Reached (w.poll caller outcome?)
  | cancel {w : Watched α} (caller : Nat) : Reached w → Reached (w.cancel caller)

/-- How far a memo is: nobody is there; a caller has the permit and its initializer has yet to start; it is in progress;
or one has succeeded. -/
inductive Phase : Watched α → Prop
  | free {runs : Nat} : Phase ⟨{ runs }, [], []⟩
  | permitted {runs caller : Nat} {queue : List Nat} : Phase ⟨{ runs, holder? := some caller, queue }, [], []⟩
  | running {runs caller : Nat} {queue : List Nat} :
      Phase ⟨{ runs, holder? := some caller, started := true, queue }, [caller], []⟩
  | filled {runs : Nat} {queue : List Nat} {v : α} : Phase ⟨{ value? := some v, runs, queue }, [], [v]⟩

/-- The permit goes to the next caller, if there is one. -/
theorem phase_release {runs caller : Nat} {started : Bool} {queue : List Nat} :
    Phase (⟨release { runs, holder? := some caller, started, queue }, [], []⟩ : Watched α) := by
  cases queue with
  | nil => exact .free
  | cons next rest => exact .permitted

/-- What an initializer in progress comes to. -/
theorem phase_finish {runs caller : Nat} {queue : List Nat} (outcome? : Option (Except ε α)) :
    Phase (goOn caller outcome?
      ⟨(finish outcome? { runs, holder? := some caller, started := true, queue }).1, [caller], []⟩) := by
  cases outcome? with
  | none => exact .running
  | some outcome =>
    rw [goOn, if_pos (List.mem_singleton_self caller), List.erase_cons_head]
    cases outcome with
    | ok v => exact .filled
    | error e => exact phase_release

theorem goOn_of_idle (idle : caller ∉ w.inProgress) : goOn caller outcome? w = w := by
  unfold goOn
  split
  · rfl
  · exact if_neg idle

/-- One step: the courses that are open to a caller in each phase. -/
theorem phase_poll (phase : Phase w) (caller : Nat) (outcome? : Option (Except ε α)) :
    Phase (w.poll caller outcome?) := by
  have course := poll_course caller outcome? w.memo
  unfold poll
  generalize w.memo.poll caller outcome? = polled at course ⊢
  cases course with
  | found value =>
    cases phase with
    | filled =>
      simp only [if_neg (Nat.lt_irrefl _)]
      rw [goOn_of_idle (by simp)]
      exact .filled
    | free | permitted | running => cases value
  | starts empty permitted =>
    simp only [if_pos (runs_lt_of_start outcome? w.memo)]
    cases phase with
    | free => exact phase_finish outcome?
    | permitted =>
      rcases permitted with ⟨same, -⟩ | ⟨free, -⟩
      · cases same
        exact phase_finish outcome?
      · cases free
    | running =>
      rcases permitted with ⟨-, waiting⟩ | ⟨free, -⟩
      · cases waiting
      · cases free
    | filled => cases empty
  | goesOn empty holds started =>
    have same : ¬ w.memo.runs < (w.memo.finish outcome?).1.runs := by
      rw [runs_finish]
      exact Nat.lt_irrefl _
    simp only [if_neg same]
    cases phase with
    | free | permitted => cases started
    | running =>
      cases holds
      exact phase_finish outcome?
    | filled => cases empty
  | waits empty behind queued =>
    simp only [if_neg (Nat.lt_irrefl _)]
    cases phase with
    | free => exact absurd (queued rfl) List.not_mem_nil
    | permitted =>
      rw [goOn_of_idle (by simp)]
      exact .permitted
    | running =>
      rw [goOn_of_idle (by simpa [eq_comm] using behind)]
      exact .running
    | filled => cases empty

theorem phase_cancel (phase : Phase w) (caller : Nat) : Phase (w.cancel caller) := by
  unfold cancel AwaitedMemo.cancel
  cases phase with
  | free => exact .free
  | @permitted _ holder =>
    split_ifs
    · exact phase_release
    · exact .permitted
  | @running _ holder =>
    split_ifs with same
    · cases same
      simp only [List.erase_cons_head]
      exact phase_release
    · simp only [List.erase_of_not_mem (mt List.mem_singleton.mp fun here => same (congrArg some here.symm))]
      exact .running
  | filled => exact .filled

theorem phase_of_reached (reached : Reached w) : Phase w := by
  induction reached with
  | new => exact .free
  | poll caller outcome? _ ih => exact phase_poll ih caller outcome?
  | cancel caller _ ih => exact phase_cancel ih caller

theorem Phase.value (phase : Phase w) : w.memo.value? = w.successes.head? := by
  cases phase <;> rfl

theorem memo_poll (caller : Nat) (outcome? : Option (Except ε α)) (w : Watched α) :
    (w.poll caller outcome?).memo = (w.memo.poll caller outcome?).1 := by
  unfold poll goOn
  split
  · rfl
  · dsimp only
    split_ifs <;> rfl

/-- An error that a caller gets is what its own initializer, which is in progress then, comes to. -/
theorem error_of_poll (phase : Phase w) {e : ε} (answer : (w.memo.poll caller outcome?).2 = some (.error e)) :
    outcome? = some (.error e) ∧
      (caller ∈ w.inProgress ∨ w.memo.runs < (w.memo.poll caller outcome?).1.runs) := by
  have course := poll_course caller outcome? w.memo
  generalize w.memo.poll caller outcome? = polled at course answer ⊢
  cases course with
  | found value => cases answer
  | starts empty permitted => exact ⟨error_of_finish answer, Or.inr (runs_lt_of_start outcome? w.memo)⟩
  | goesOn empty holds started =>
    refine ⟨error_of_finish answer, Or.inl ?_⟩
    cases phase with
    | free | permitted | filled => cases started
    | running =>
      cases holds
      exact List.mem_singleton_self caller
  | waits empty behind queued => cases answer

theorem value_of_poll {v : α} (answer : (w.memo.poll caller outcome?).2 = some (.ok v)) :
    (w.memo.poll caller outcome?).1.value? = some v := by
  have course := poll_course caller outcome? w.memo
  generalize w.memo.poll caller outcome? = polled at course answer ⊢
  cases course with
  | found value =>
    cases answer
    exact value
  | starts | goesOn => exact value_of_finish answer
  | waits => cases answer

theorem runs_of_filled {v : α} (value : w.memo.value? = some v) (caller : Nat) (outcome? : Option (Except ε α)) :
    (w.memo.poll caller outcome?).1.runs = w.memo.runs := by
  simp [AwaitedMemo.poll, value]

/-- However callers begin, wait, go on and go away: one initializer at a time is in progress and none starts once one
has succeeded; the memo has a value exactly if one has, which is that of the first one, and whoever gets a value gets
this one; an error goes to the caller whose own initializer came to it. -/
theorem guarded_of_reached (reached : Reached w) :
    w.inProgress.length ≤ 1 ∧
    (w.successes ≠ [] → w.inProgress = [] ∧
      ∀ {ε : Type} (caller : Nat) (outcome? : Option (Except ε α)),
        (w.memo.poll caller outcome?).1.runs = w.memo.runs) ∧
    w.memo.value? = w.successes.head? ∧
    (w.memo.isInitialized = true ↔ w.successes ≠ []) ∧
    ∀ {ε : Type} (caller : Nat) (outcome? : Option (Except ε α)),
      (∀ e, (w.memo.poll caller outcome?).2 = some (.error e) →
        outcome? = some (.error e) ∧
          (caller ∈ w.inProgress ∨ w.memo.runs < (w.memo.poll caller outcome?).1.runs)) ∧
      ∀ v, (w.memo.poll caller outcome?).2 = some (.ok v) → (w.poll caller outcome?).successes.head? = some v := by
  have phase := phase_of_reached reached
  refine ⟨?_, fun succeeded => ?_, phase.value, ?_,
    fun caller outcome? => ⟨fun e => error_of_poll phase, fun v answer => ?_⟩⟩
  · cases phase <;> simp
  · cases phase with
    | free | permitted | running => exact absurd rfl succeeded
    | filled => exact ⟨rfl, runs_of_filled rfl⟩
  · rw [isInitialized, phase.value, List.isSome_head?, List.isEmpty_eq_false_iff.symm]
  · rw [← (phase_poll phase caller outcome?).value, memo_poll]
    exact value_of_poll answer

/-- The first caller fails while two others wait; the second goes away when it is its turn, and the third succeeds. -/
def contestedMemo : Watched Nat :=
  let pending : Option (Except String Nat) := none
  let crowd := ((Watched.poll 1 pending {}).poll 2 pending).poll 3 pending
  ((crowd.poll 1 (some (Except.error "no"))).cancel 2).poll 3 (some (Except.ok 7 : Except Empty Nat))

theorem guarded_contestedMemo :
    Reached contestedMemo ∧ contestedMemo.successes = [7] ∧ contestedMemo.memo.value? = some 7 ∧
      contestedMemo.inProgress = [] ∧
      (contestedMemo.memo.poll 4 (some (.error "no") : Option (Except String Nat))).1.runs =
        contestedMemo.memo.runs := by
  have reached : Reached contestedMemo := by
    unfold contestedMemo
    exact .poll 3 _ (.cancel 2 (.poll 1 _ (.poll 3 _ (.poll 2 _ (.poll 1 _ .new)))))
  have successes : contestedMemo.successes = [7] := rfl
  obtain ⟨-, settled, value, -, -⟩ := guarded_of_reached reached
  obtain ⟨idle, runs⟩ := settled (by simp [successes])
  exact ⟨reached, successes, value.trans (by rw [successes]; rfl), idle, runs 4 _⟩

end Watched

end AwaitedMemo

end ServiceKit
