import ServiceKit.Proofs.Regexp.Interning

namespace ServiceKit

namespace Interner
variable {held : Compiled → Bool} {i : Interner}

theorem sweep_of_lt (below : i.entries.length < i.sweepAt) : i.sweep held = i :=
  if_neg (Nat.not_le.mpr below)

theorem sweep_of_le (due : i.sweepAt ≤ i.entries.length) :
    i.sweep held = { i with
      entries := liveEntries held i.entries
      sweepAt := max (2 * (liveEntries held i.entries).length) i.minSweep } :=
  if_pos due

theorem liveEntries_liveEntries (held : Compiled → Bool) (entries : List (String × Compiled)) :
    liveEntries held (liveEntries held entries) = liveEntries held entries := by
  simp [liveEntries]

end Interner

namespace Interning
variable {read : String → Option Regexp} {threshold most more : Nat} {w : Interning} {past : List Interning}
  {pattern : String} {c : Compiled}

/-- The number of different patterns that are alive, which are those of the handles. -/
def alive (w : Interning) : Nat :=
  (w.handles.map Compiled.pattern).toFinset.card

theorem alive_pos (member : c ∈ w.handles) : 0 < w.alive :=
  Finset.card_pos.mpr ⟨c.pattern, List.mem_toFinset.mpr (List.mem_map_of_mem member)⟩

/-- The states in which an interner and the handles of its callers have been on the way to the present one, the
latest first. -/
inductive Run (read : String → Option Regexp) (threshold : Nat) : List Interning → Interning → Prop
  | start : Run read threshold [] { interner := .withThreshold threshold }
  | compile {past : List Interning} {w : Interning} (pattern : String) :
      Run read threshold past w → Run read threshold (w :: past) (w.compileWith read pattern).1
  | drop {past : List Interning} {w : Interning} {c : Compiled} :
      Run read threshold past w → c ∈ w.handles → Run read threshold (w :: past) (w.drop c)
  | copy {past : List Interning} {w : Interning} {c : Compiled} :
      Run read threshold past w → c ∈ w.handles →
        Run read threshold (w :: past) { w with handles := c :: w.handles }

theorem Run.reached (run : Run read threshold past w) : Reached read threshold w := by
  induction run with
  | start => exact .start
  | compile pattern _ ih => exact .compile pattern ih
  | drop _ member ih => exact .drop ih member
  | copy _ member ih => exact .copy ih member

/-- The most patterns that were alive at one time. -/
def peak (states : List Interning) : Nat :=
  (states.map alive).foldr max 0

theorem alive_le_peak (w : Interning) (past : List Interning) : w.alive ≤ peak (w :: past) :=
  le_max_left _ _

theorem peak_le_peak (w : Interning) (past : List Interning) : peak past ≤ peak (w :: past) :=
  le_max_right _ _

/-- The map is below its mark, and the mark is at most the threshold or twice the patterns that were alive
at one time. -/
structure Bounded (threshold most : Nat) (w : Interning) : Prop where
  below : w.interner.entries.length < w.interner.sweepAt
  least : w.interner.minSweep = max threshold 1
  mark : w.interner.sweepAt ≤ max (max threshold 1) (2 * most)

namespace Bounded

theorem start (threshold most : Nat) : Bounded threshold most { interner := .withThreshold threshold } where
  below := le_max_right threshold 1
  least := rfl
  mark := le_max_left _ _

theorem mono (bounded : Bounded threshold most w) (grown : most ≤ more) : Bounded threshold more w where
  below := bounded.below
  least := bounded.least
  mark := bounded.mark.trans (max_le_max_left _ (Nat.mul_le_mul_left 2 grown))

/-- Whoever holds handles, the map stays as it is. -/
theorem withHandles (bounded : Bounded threshold most w) (handles : List Compiled) (next : Nat) :
    Bounded threshold most { w with handles, next } where
  below := bounded.below
  least := bounded.least
  mark := bounded.mark

end Bounded

/-- What a sweep spares when a new instance is taken in is alive after it. -/
theorem length_liveEntries_adopt (coherent : (w.adopt c).Coherent read)
    (due : w.interner.sweepAt ≤ (Json.insert c.pattern c w.interner.entries).length) :
    (Interner.liveEntries (fun d => d.id == c.id || w.isHeld d)
      (Json.insert c.pattern c w.interner.entries)).length = (w.adopt c).alive := by
  have sameHeld : (w.adopt c).isHeld = fun d => d.id == c.id || w.isHeld d := by
    funext d
    simp [isHeld, adopt, BEq.comm]
  have spared : (w.adopt c).interner.entries = Interner.liveEntries (fun d => d.id == c.id || w.isHeld d)
      (Json.insert c.pattern c w.interner.entries) :=
    congrArg Interner.entries (Interner.sweep_of_le due)
  have live := live_eq_card coherent
  change (Interner.liveEntries (w.adopt c).isHeld (w.adopt c).interner.entries).length = _ at live
  rwa [sameHeld, spared, Interner.liveEntries_liveEntries] at live

/-- A new instance brings the map to its mark at most together with a sweep, which leaves fewer entries than the
mark that it sets. -/
theorem Bounded.adopt (bounded : Bounded threshold most w) (coherent : (w.adopt c).Coherent read)
    (counted : (w.adopt c).alive ≤ most) : Bounded threshold most (w.adopt c) := by
  have some : 0 < (w.adopt c).alive := alive_pos List.mem_cons_self
  by_cases due : w.interner.sweepAt ≤ (Json.insert c.pattern c w.interner.entries).length
  · have live := length_liveEntries_adopt coherent due
    have swept : (w.adopt c).interner = { w.interner with
        entries := Interner.liveEntries (fun d => d.id == c.id || w.isHeld d)
          (Json.insert c.pattern c w.interner.entries)
        sweepAt := max (2 * (w.adopt c).alive) w.interner.minSweep } := by
      rw [← live]
      exact Interner.sweep_of_le due
    constructor
    · rw [swept]
      dsimp only
      omega
    · rw [swept]
      exact bounded.least
    · rw [swept, bounded.least]
      dsimp only
      omega
  · have kept : (w.adopt c).interner =
        { w.interner with entries := Json.insert c.pattern c w.interner.entries } :=
      Interner.sweep_of_lt (Nat.not_le.mp due)
    constructor
    · rw [kept]
      exact Nat.not_le.mp due
    · rw [kept]
      exact bounded.least
    · rw [kept]
      exact bounded.mark

theorem Bounded.compile (bounded : Bounded threshold most w) (coherent : w.Coherent read) (pattern : String)
    (counted : (w.compileWith read pattern).1.alive ≤ most) :
    Bounded threshold most (w.compileWith read pattern).1 := by
  have course := compile_course read w pattern
  have kept := coherent.compile pattern
  generalize w.compileWith read pattern = called at course counted kept
  cases course with
  | shared => exact bounded.withHandles _ _
  | refused => exact bounded
  | fresh => exact bounded.adopt kept counted

/-- The map is bounded by what was alive in the run so far. -/
theorem Run.bounded (run : Run read threshold past w) : Bounded threshold (peak (w :: past)) w := by
  induction run with
  | start => exact .start threshold _
  | compile pattern before ih =>
    exact (ih.mono (peak_le_peak _ _)).compile (coherent_of_reached before.reached) pattern (alive_le_peak _ _)
  | drop _ member ih => exact (ih.mono (peak_le_peak _ _)).withHandles _ _
  | copy _ member ih => exact (ih.mono (peak_le_peak _ _)).withHandles _ _

/-- The map never grows out of proportion to its use: however calls and returns of handles alternate, its
entries, dead ones included, are fewer than the mark at which it is swept, and fewer than the threshold or
twice the most patterns that were alive at one time. -/
theorem entries_lt_of_run (run : Run read threshold past w) :
    w.stats.entries < w.interner.sweepAt ∧
      w.stats.entries ≤ max (max threshold 1) (2 * peak (w :: past)) - 1 := by
  have bounded := run.bounded
  exact ⟨bounded.below, Nat.le_sub_one_of_lt (bounded.below.trans_le bounded.mark)⟩

/-- Two patterns are taken, which moves the mark, and one of them is given back. -/
def pairInterning : Interning :=
  (compile "b" (compile "a" { interner := .withThreshold 2 }).1).1

theorem handles_pairInterning : pairInterning.handles ≠ [] := by
  decide +kernel

def leftInterning : Interning :=
  pairInterning.drop (pairInterning.handles.head handles_pairInterning)

/-- A third pattern is taken, beside which the second one still has its entry. -/
def crowdedInterning : Interning :=
  (leftInterning.compile "c").1

def crowdedPast : List Interning :=
  [leftInterning, pairInterning, (compile "a" { interner := .withThreshold 2 }).1,
    { interner := .withThreshold 2 }]

/-- The bound is met: one entry of three is dead, and no more than two patterns were ever alive together. -/
theorem entries_crowdedInterning :
    Run Regexp.parse? 2 crowdedPast crowdedInterning ∧ crowdedInterning.stats = ⟨3, 2⟩ ∧
      peak (crowdedInterning :: crowdedPast) = 2 ∧
      crowdedInterning.stats.entries < crowdedInterning.interner.sweepAt ∧
      crowdedInterning.stats.entries ≤ max (max 2 1) (2 * peak (crowdedInterning :: crowdedPast)) - 1 := by
  have run : Run Regexp.parse? 2 crowdedPast crowdedInterning :=
    .compile "c" (.drop (.compile "b" (.compile "a" .start)) (List.head_mem handles_pairInterning))
  exact ⟨run, by decide +kernel, by decide +kernel, entries_lt_of_run run⟩

end Interning

end ServiceKit
