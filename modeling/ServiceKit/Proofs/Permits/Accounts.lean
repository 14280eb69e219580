import Mathlib.Data.List.Basic
import Mathlib.Tactic.SplitIfs
import ServiceKit.Permits.Pool

namespace ServiceKit

namespace PermitPool
variable {p q r : PermitPool} {task back out : Nat}

/-! ### What a pool has -/

/-- How many permits nobody holds: the free ones, and those handed to tasks that have not taken them up. -/
def unheld (p : PermitPool) : Nat :=
  p.available + p.handed.length

/-- No permit is free while a task waits. -/
def Attentive (p : PermitPool) : Prop :=
  p.queue ≠ [] → p.available = 0

/-- A step in which some permits come back to a pool and some go out. -/
structure Passes (back out : Nat) (p q : PermitPool) : Prop where
  size : q.size = p.size
  unheld : q.unheld + out = p.unheld + back
  attentive : p.Attentive → q.Attentive

theorem release_passes (p : PermitPool) : Passes 1 0 p p.release := by
  unfold release
  split
  · rename_i idle
    exact ⟨rfl, by simp [PermitPool.unheld]; omega, fun _ waits => absurd idle waits⟩
  · rename_i next rest waits
    exact ⟨rfl, by simp [PermitPool.unheld]; omega, fun attentive _ => attentive (by simp [waits])⟩

theorem tryAcquire_eq_some_iff :
    p.tryAcquire = some q ↔ 0 < p.available ∧ { p with available := p.available - 1 } = q := by
  unfold tryAcquire
  split_ifs with free <;> simp [free]

theorem tryAcquire_passes (acquired : p.tryAcquire = some q) : Passes 0 1 p q := by
  obtain ⟨free, rfl⟩ := tryAcquire_eq_some_iff.mp acquired
  refine ⟨rfl, by simp [PermitPool.unheld]; omega, fun attentive waits => ?_⟩
  have none_free := attentive waits
  omega

theorem poll_passes {got : Bool} (polled : p.poll task = (q, got)) : Passes 0 got.toNat p q := by
  unfold poll at polled
  split_ifs at polled with handed waits
  · cases polled
    have length := List.length_erase_add_one handed
    exact ⟨rfl, by simp [PermitPool.unheld]; omega, id⟩
  · cases polled
    exact ⟨rfl, rfl, id⟩
  · split at polled
    · cases polled
      exact tryAcquire_passes ‹_›
    · rename_i refused
      cases polled
      have busy : p.available = 0 := by
        unfold tryAcquire at refused
        split_ifs at refused
        omega
      exact ⟨rfl, rfl, fun _ _ => busy⟩

/-- A task that gives up gives back what it was handed. -/
theorem cancel_passes (task : Nat) (p : PermitPool) : Passes 0 0 p (p.cancel task) := by
  unfold cancel
  split_ifs with handed
  · have length := List.length_erase_add_one handed
    obtain ⟨size, unheld, attentive⟩ := release_passes { p with handed := p.handed.erase task }
    exact ⟨size, by simp [PermitPool.unheld] at unheld ⊢; omega, attentive⟩
  · refine ⟨rfl, rfl, fun attentive waits => attentive fun idle => waits ?_⟩
    simp [idle]

end PermitPool

/-- A pool in use. Its clones are all the one pool; how many permits callers hold, whichever clone they are from. -/
structure SharedPool where
  pool : PermitPool
  clones : Nat := 1
  held : Nat := 0

namespace SharedPool
variable {permits : Int} {s : SharedPool} {q : PermitPool} {total back out : Nat}

/-- Asks for a permit, and tells whether one was free. -/
def tryAcquire (s : SharedPool) : SharedPool × Bool :=
  match s.pool.tryAcquire with
  | some pool => ({ s with pool, held := s.held + 1 }, true)
  | none => (s, false)

/-- Lets a task that wants a permit go on, and tells whether it has one now. -/
def poll (task : Nat) (s : SharedPool) : SharedPool × Bool :=
  match s.pool.poll task with
  | (pool, true) => ({ s with pool, held := s.held + 1 }, true)
  | (pool, false) => ({ s with pool }, false)

def cancel (task : Nat) (s : SharedPool) : SharedPool :=
  { s with pool := s.pool.cancel task }

/-- A permit is dropped. -/
def drop (s : SharedPool) : SharedPool :=
  { s with pool := s.pool.release, held := s.held - 1 }

/-- The states that a pool and its users come to. Permits are asked for through some clone; a permit that is held
may be dropped at any time, and a task may give up at any time. -/
inductive Reached (permits : Int) : SharedPool → Prop
  | new {pool : PermitPool} (made : PermitPool.new permits = .ok pool) : Reached permits { pool }
  | clone {s : SharedPool} : Reached permits s → 0 < s.clones → Reached permits { s with clones := s.clones + 1 }
  | discard {s : SharedPool} : Reached permits s → 0 < s.clones → Reached permits { s with clones := s.clones - 1 }
  | tryAcquire {s : SharedPool} : Reached permits s → 0 < s.clones → Reached permits s.tryAcquire.1
  | poll {s : SharedPool} (task : Nat) : Reached permits s → 0 < s.clones → Reached permits (s.poll task).1
  | cancel {s : SharedPool} (task : Nat) : Reached permits s → Reached permits (s.cancel task)
  | drop {s : SharedPool} : Reached permits s → 0 < s.held → Reached permits s.drop

/-- All permits are accounted for: each is held or is in the pool. -/
structure Balanced (total : Nat) (s : SharedPool) : Prop where
  size : s.pool.size = total
  all : s.pool.unheld + s.held = total
  attentive : s.pool.Attentive

/-- What comes back to the pool has been held, and what goes out of it is held then. -/
theorem Balanced.pass (balanced : Balanced total s) (passes : s.pool.Passes back out q) {clones held : Nat}
    (count : held + back = s.held + out) : Balanced total { pool := q, clones, held } where
  size := passes.size.trans balanced.size
  all := by
    have before := balanced.all
    have step := passes.unheld
    dsimp only
    omega
  attentive := passes.attentive balanced.attentive

theorem balanced_of_reached (reached : Reached permits s) : Balanced (PermitPool.sizeOf permits) s := by
  induction reached with
  | new made =>
    unfold PermitPool.new at made
    split_ifs at made
    cases made
    exact ⟨rfl, rfl, fun waits => absurd rfl waits⟩
  | clone _ _ ih | discard _ _ ih => exact ⟨ih.size, ih.all, ih.attentive⟩
  | tryAcquire _ _ ih =>
    unfold tryAcquire
    split
    · exact ih.pass (PermitPool.tryAcquire_passes ‹_›) rfl
    · exact ih
  | poll task _ _ ih =>
    unfold poll
    split
    · exact ih.pass (PermitPool.poll_passes ‹_›) rfl
    · exact ih.pass (PermitPool.poll_passes ‹_›) rfl
  | cancel task _ ih => exact ih.pass (PermitPool.cancel_passes task _) rfl
  | drop _ some_held ih => exact ih.pass (PermitPool.release_passes _) (by omega)

/-- However permits are asked for, waited for, given up and dropped: a pool never gives out more than it has, the count
of those in use is exact and takes in the ones handed to tasks that still wait, a permit is to be had at once exactly if
not all are in use, and tasks wait only if all are. -/
theorem accounted_of_reached (reached : Reached permits s) :
    s.pool.maxPermits = PermitPool.sizeOf permits ∧
    s.held ≤ s.pool.maxPermits ∧
    s.pool.available ≤ s.pool.maxPermits ∧
    s.pool.currentPermits = s.held + s.pool.handed.length ∧
    (s.tryAcquire.2 = true ↔ s.pool.currentPermits < s.pool.maxPermits) ∧
    (s.pool.queue ≠ [] → s.pool.currentPermits = s.pool.maxPermits) ∧
    (s.held = 0 → s.pool.queue = [] → s.pool.handed = [] → s.pool.currentPermits = 0) := by
  obtain ⟨size, all, attentive⟩ := balanced_of_reached reached
  unfold PermitPool.unheld at all
  unfold PermitPool.currentPermits PermitPool.maxPermits
  have free : s.tryAcquire.2 = true ↔ 0 < s.pool.available := by
    unfold tryAcquire PermitPool.tryAcquire
    split_ifs with free <;> simp [free]
  refine ⟨size, by omega, by omega, by omega, by rw [free]; omega, fun waits => ?_,
    fun none_held _ none_handed => ?_⟩
  · have none_free := attentive waits
    omega
  · rw [none_handed, List.length_nil] at all
    omega

/-- A task has the only permit, two others wait for it. It is dropped, the first of them gives up what it is handed, and
so the second is handed it. -/
def contendedPool : SharedPool :=
  ((({ pool := { size := 1, available := 1 }, clones := 2 : SharedPool }.poll 7).1.poll 8).1.poll 9).1.drop.cancel 8

theorem accounted_contendedPool :
    Reached 1 contendedPool ∧ contendedPool.held = 0 ∧ contendedPool.pool.handed = [9] ∧
      contendedPool.pool.currentPermits = 1 ∧ contendedPool.tryAcquire.2 = false := by
  have made : PermitPool.new 1 = .ok { size := 1, available := 1 } := rfl
  have reached : Reached 1 contendedPool :=
    .cancel 8 (.drop (.poll 9 (.poll 8 (.poll 7 (.clone (.new made) (by decide)) (by decide)) (by decide)) (by decide))
      (by decide))
  obtain ⟨max, -, -, current, free, -, -⟩ := accounted_of_reached reached
  have handed : contendedPool.pool.handed = [9] := rfl
  refine ⟨reached, rfl, handed, current.trans (by rw [handed]; rfl), ?_⟩
  rw [← Bool.not_eq_true, free, current, max, handed]
  decide

end SharedPool

end ServiceKit
