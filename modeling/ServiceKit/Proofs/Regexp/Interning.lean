import Mathlib.Data.Finset.Card
import Mathlib.Data.Finset.Dedup
import ServiceKit.Proofs.Json.Fields
import ServiceKit.Regexp.Interner

namespace ServiceKit

namespace Interner
variable {held : Compiled → Bool} {i : Interner} {pattern : String} {c : Compiled}

/-- A sweep leaves all entries, or just those of instances that are held. -/
theorem sweep_entries (held : Compiled → Bool) (i : Interner) :
    (i.sweep held).entries = i.entries ∨ (i.sweep held).entries = liveEntries held i.entries := by
  unfold sweep
  split_ifs
  · exact Or.inr rfl
  · exact Or.inl rfl

theorem sorted_sweep (sorted : Json.Sorted i.entries) : Json.Sorted (i.sweep held).entries := by
  rcases sweep_entries held i with same | live
  · rwa [same]
  · rw [live]
    exact sorted.filter _

theorem lookup_of_sweep (sorted : Json.Sorted i.entries)
    (found : Json.lookup pattern (i.sweep held).entries = some c) :
    Json.lookup pattern i.entries = some c := by
  rcases sweep_entries held i with same | live
  · rwa [same] at found
  · rw [live, liveEntries, Json.lookup_filter held pattern sorted.nodup, Option.filter_eq_some_iff] at found
    exact found.1

theorem lookup_sweep_of_held (sorted : Json.Sorted i.entries)
    (found : Json.lookup pattern i.entries = some c) (alive : held c = true) :
    Json.lookup pattern (i.sweep held).entries = some c := by
  rcases sweep_entries held i with same | live
  · rwa [same]
  · rw [live, liveEntries, Json.lookup_filter held pattern sorted.nodup, found, Option.filter_some,
      if_pos alive]

end Interner

namespace Interning
variable {read : String → Option Regexp} {w : Interning} {pattern : String} {c : Compiled}

/-- The states that an interner and the handles of its callers come to, whichever patterns can be read. A
caller gives back a handle only if it is held, and may copy one that is. -/
inductive Reached (read : String → Option Regexp) (threshold : Nat) : Interning → Prop
  | start : Reached read threshold { interner := .withThreshold threshold }
  | compile {w : Interning} (pattern : String) :
      Reached read threshold w → Reached read threshold (w.compileWith read pattern).1
  | drop {w : Interning} {c : Compiled} :
      Reached read threshold w → c ∈ w.handles → Reached read threshold (w.drop c)
  | copy {w : Interning} {c : Compiled} : Reached read threshold w → c ∈ w.handles →
      Reached read threshold { w with handles := c :: w.handles }

/-- The entries are in order and true to their patterns, instances are told apart by their numbers, and
whatever is held is the entry of its pattern. -/
structure Coherent (read : String → Option Regexp) (w : Interning) : Prop where
  sorted : Json.Sorted w.interner.entries
  genuine : ∀ {pattern c}, Json.lookup pattern w.interner.entries = some c →
    c.pattern = pattern ∧ read pattern = some c.expr
  numbered : ∀ {pattern c}, Json.lookup pattern w.interner.entries = some c → c.id < w.next
  apart : ∀ {pattern other c d}, Json.lookup pattern w.interner.entries = some c →
    Json.lookup other w.interner.entries = some d → c.id = d.id → c = d
  kept : ∀ c ∈ w.handles, Json.lookup c.pattern w.interner.entries = some c

theorem isHeld_of_mem (member : c ∈ w.handles) : w.isHeld c = true :=
  List.any_eq_true.mpr ⟨c, member, beq_self_eq_true c.id⟩

/-- Of the entries, those are held of which there is a handle. -/
theorem Coherent.isHeld_iff (coherent : w.Coherent read)
    (found : Json.lookup pattern w.interner.entries = some c) : w.isHeld c = true ↔ c ∈ w.handles := by
  refine ⟨fun held => ?_, isHeld_of_mem⟩
  obtain ⟨d, member, same⟩ := List.any_eq_true.mp held
  obtain rfl := coherent.apart (coherent.kept d member) found (eq_of_beq same)
  exact member

/-- No one holds the entry of a pattern, if it has any. -/
def Unheld (w : Interning) (pattern : String) : Prop :=
  ∀ c, Json.lookup pattern w.interner.entries = some c → w.isHeld c = false

/-- A new instance takes its place in the map, and its caller has the first handle of it. -/
def adopt (w : Interning) (c : Compiled) : Interning where
  interner := { w.interner with entries := Json.insert c.pattern c w.interner.entries }.sweep
    fun d => d.id == c.id || w.isHeld d
  handles := c :: w.handles
  next := max w.next (c.id + 1)

/-- The ways in which a call can go. -/
inductive Course (read : String → Option Regexp) (w : Interning) (pattern : String) :
    Interning × Except PatternError Compiled → Prop
  | shared {c : Compiled} (found : Json.lookup pattern w.interner.entries = some c)
      (held : w.isHeld c = true) :
      Course read w pattern ({ w with handles := c :: w.handles, next := max w.next (c.id + 1) }, .ok c)
  | refused (unheld : w.Unheld pattern) (malformed : read pattern = none) :
      Course read w pattern (w, .error ⟨pattern⟩)
  | fresh {expr : Regexp} (unheld : w.Unheld pattern) (wellFormed : read pattern = some expr) :
      Course read w pattern (w.adopt ⟨w.next, pattern, expr⟩, .ok ⟨w.next, pattern, expr⟩)

theorem compile_course (read : String → Option Regexp) (w : Interning) (pattern : String) :
    Course read w pattern (w.compileWith read pattern) := by
  unfold compileWith Interner.compile
  cases found : (Json.lookup pattern w.interner.entries).filter w.isHeld with
  | some c =>
    obtain ⟨atPattern, held⟩ := Option.filter_eq_some_iff.mp found
    exact .shared atPattern held
  | none =>
    have unheld : w.Unheld pattern := fun c atPattern => by
      simpa using Option.filter_eq_none_iff.mp found c atPattern
    unfold Compiled.make
    cases expression : read pattern with
    | none => exact .refused unheld expression
    | some expr => exact .fresh unheld expression

namespace Coherent

theorem start (threshold : Nat) : Coherent read { interner := .withThreshold threshold } where
  sorted := List.Pairwise.nil
  genuine := nofun
  numbered := nofun
  apart := nofun
  kept := nofun

/-- Handles of what is held already change nothing. -/
theorem withHandles (coherent : w.Coherent read) {handles : List Compiled}
    (known : ∀ c ∈ handles, Json.lookup c.pattern w.interner.entries = some c) {next : Nat}
    (later : w.next ≤ next) : Coherent read { w with handles, next } where
  sorted := coherent.sorted
  genuine := coherent.genuine
  numbered := fun found => (coherent.numbered found).trans_le later
  apart := coherent.apart
  kept := known

theorem drop (coherent : w.Coherent read) (c : Compiled) : (w.drop c).Coherent read :=
  coherent.withHandles (fun d member => coherent.kept d (List.eraseP_subset member)) le_rfl

theorem copy (coherent : w.Coherent read) (found : Json.lookup pattern w.interner.entries = some c) {next : Nat}
    (later : w.next ≤ next) : Coherent read { w with handles := c :: w.handles, next } := by
  refine coherent.withHandles (List.forall_mem_cons.mpr ⟨?_, coherent.kept⟩) later
  rwa [(coherent.genuine found).1]

/-- A new instance displaces nothing that is held, and the sweep that may follow spares it and all that
is held. -/
theorem adopt (coherent : w.Coherent read) {expr : Regexp} (unheld : w.Unheld pattern)
    (wellFormed : read pattern = some expr) : (w.adopt ⟨w.next, pattern, expr⟩).Coherent read := by
  have sorted := Json.sorted_insert pattern (⟨w.next, pattern, expr⟩ : Compiled) coherent.sorted
  have entry : ∀ {p c}, Json.lookup p (w.adopt ⟨w.next, pattern, expr⟩).interner.entries = some c →
      pattern = p ∧ ⟨w.next, pattern, expr⟩ = c ∨ Json.lookup p w.interner.entries = some c := by
    intro p c found
    have before := Interner.lookup_of_sweep sorted found
    rw [Json.lookup_insert] at before
    split_ifs at before with same
    · exact Or.inl ⟨same, Option.some.inj before⟩
    · exact Or.inr before
  constructor
  · exact Interner.sorted_sweep sorted
  · intro p c found
    rcases entry found with ⟨rfl, rfl⟩ | before
    · exact ⟨rfl, wellFormed⟩
    · exact coherent.genuine before
  · intro p c found
    rcases entry found with ⟨rfl, rfl⟩ | before
    · exact lt_max_of_lt_right (Nat.lt_succ_self _)
    · exact lt_max_of_lt_left (coherent.numbered before)
  · intro p q c d found found' same
    rcases entry found with ⟨-, rfl⟩ | before
    · rcases entry found' with ⟨-, rfl⟩ | before'
      · rfl
      · exact absurd same (coherent.numbered before').ne'
    · rcases entry found' with ⟨-, rfl⟩ | before'
      · exact absurd same (coherent.numbered before).ne
      · exact coherent.apart before before' same
  · refine List.forall_mem_cons.mpr ⟨?_, fun d member => ?_⟩
    · refine Interner.lookup_sweep_of_held sorted ?_ (by simp)
      rw [Json.lookup_insert, if_pos rfl]
    · have found := coherent.kept d member
      have held := isHeld_of_mem member
      refine Interner.lookup_sweep_of_held sorted ?_ (by simp [held])
      rw [Json.lookup_insert, if_neg ?_, found]
      intro same
      obtain rfl : pattern = d.pattern := same
      exact absurd (unheld d found) (by simp [held])

theorem compile (coherent : w.Coherent read) (pattern : String) :
    (w.compileWith read pattern).1.Coherent read := by
  have course := compile_course read w pattern
  generalize w.compileWith read pattern = called at course
  cases course with
  | shared found held => exact coherent.copy found (le_max_left _ _)
  | refused => exact coherent
  | fresh unheld wellFormed => exact coherent.adopt unheld wellFormed

end Coherent

theorem coherent_of_reached {threshold : Nat} (reached : Reached read threshold w) : w.Coherent read := by
  induction reached with
  | start => exact .start threshold
  | compile pattern _ ih => exact ih.compile pattern
  | drop _ member ih => exact ih.drop _
  | copy _ member ih => exact ih.copy (ih.kept _ member) le_rfl

/-- The patterns of the entries that are alive are those of the handles. -/
theorem live_eq_card (coherent : w.Coherent read) :
    w.stats.live = (w.handles.map Compiled.pattern).toFinset.card := by
  have once : ((Interner.liveEntries w.isHeld w.interner.entries).map Prod.fst).Nodup :=
    (coherent.sorted.filter _).nodup
  have count : w.stats.live = ((Interner.liveEntries w.isHeld w.interner.entries).map Prod.fst).length :=
    (List.length_map _).symm
  rw [count, ← List.toFinset_card_of_nodup once]
  congr 1
  ext pattern
  rw [List.mem_toFinset, List.mem_toFinset, ← Json.isSome_lookup_iff, Interner.liveEntries,
    Json.lookup_filter _ _ coherent.sorted.nodup, Option.isSome_iff_exists, List.mem_map]
  simp only [Option.filter_eq_some_iff]
  constructor
  · rintro ⟨c, found, held⟩
    exact ⟨c, (coherent.isHeld_iff found).mp held, (coherent.genuine found).1⟩
  · rintro ⟨c, member, rfl⟩
    exact ⟨c, coherent.kept c member, isHeld_of_mem member⟩

/-- Whoever holds a handle of a pattern holds the one instance that was compiled from it and is in the
map, however calls and the return of handles alternate and whatever was swept in between. It does not matter
which patterns can be read. -/
theorem shared_of_reached {threshold : Nat} (reached : Reached read threshold w) :
    (∀ c ∈ w.handles, Json.lookup c.pattern w.interner.entries = some c) ∧
    (∀ c ∈ w.handles, ∀ d ∈ w.handles, (c.pattern = d.pattern ↔ c.id = d.id) ∧ (c.id = d.id → c = d)) ∧
    (∀ pattern,
      (∃ c, (w.compileWith read pattern).2 = .ok c ∧
        (w.compileWith read pattern).1.handles = c :: w.handles ∧
        c.pattern = pattern ∧ read pattern = some c.expr ∧
        ∀ d ∈ w.handles, d.pattern = pattern → c = d) ∨
      read pattern = none ∧ w.compileWith read pattern = (w, .error ⟨pattern⟩)) ∧
    w.stats.live = (w.handles.map Compiled.pattern).toFinset.card := by
  have coherent := coherent_of_reached reached
  refine ⟨coherent.kept, fun c member d member' => ?_, fun pattern => ?_, live_eq_card coherent⟩
  · have found := coherent.kept c member
    have found' := coherent.kept d member'
    have ofNumber : c.id = d.id → c = d := coherent.apart found found'
    refine ⟨⟨fun same => ?_, fun same => congrArg Compiled.pattern (ofNumber same)⟩, ofNumber⟩
    rw [same, found'] at found
    exact congrArg Compiled.id (Option.some.inj found).symm
  · have course := compile_course read w pattern
    generalize w.compileWith read pattern = called at course
    cases course with
    | @shared c found held =>
      obtain ⟨rfl, compiled⟩ := coherent.genuine found
      refine Or.inl ⟨c, rfl, rfl, rfl, compiled, fun d member same => ?_⟩
      exact Option.some.inj (found.symm.trans (same ▸ coherent.kept d member))
    | refused _ malformed => exact Or.inr ⟨malformed, rfl⟩
    | fresh unheld wellFormed =>
      refine Or.inl ⟨_, rfl, rfl, rfl, wellFormed, fun d member same => ?_⟩
      have notHeld := unheld d (same ▸ coherent.kept d member)
      exact absurd (isHeld_of_mem member) (by simp [notHeld])

/-- A pattern is taken and given back; another is taken, for which the first is swept out. -/
def usedInterning : Interning :=
  (compile "a+" { interner := .withThreshold 2 }).1

theorem handles_usedInterning : usedInterning.handles ≠ [] := by
  decide +kernel

def sweptInterning : Interning :=
  (compile "b" (usedInterning.drop (usedInterning.handles.head handles_usedInterning))).1

theorem handles_sweptInterning : sweptInterning.handles ≠ [] := by
  decide +kernel

theorem shared_of_sweptInterning :
    Reached Regexp.parse? 2 sweptInterning ∧ sweptInterning.interner.entries.map Prod.fst = ["b"] ∧
      sweptInterning.stats.live = 1 ∧
      sweptInterning.compile "(" = (sweptInterning, .error ⟨"("⟩) ∧
      ∃ c ∈ sweptInterning.handles, (sweptInterning.compile "b").2 = .ok c ∧
        Json.lookup "b" sweptInterning.interner.entries = some c := by
  have reached : Reached Regexp.parse? 2 sweptInterning :=
    .compile "b" (.drop (.compile "a+" .start) (List.head_mem handles_usedInterning))
  obtain ⟨kept, -, calls, live⟩ := shared_of_reached reached
  refine ⟨reached, by decide +kernel, live.trans (by decide +kernel), ?_, ?_⟩
  · refine ((calls "(").resolve_left ?_).2
    rintro ⟨c, -, -, -, compiled, -⟩
    have malformed : Regexp.parse? "(" = none := Option.isNone_iff_eq_none.mp (by decide +kernel)
    cases malformed.symm.trans compiled
  · have wellFormed : Regexp.parse? "b" ≠ none := Option.isSome_iff_ne_none.mp (by decide +kernel)
    obtain ⟨c, answer, -, -, -, same⟩ := (calls "b").resolve_right fun refused => wellFormed refused.1
    have atPattern : (sweptInterning.handles.head handles_sweptInterning).pattern = "b" := by decide +kernel
    obtain rfl := same _ (List.head_mem handles_sweptInterning) atPattern
    exact ⟨_, List.head_mem _, answer, atPattern ▸ kept _ (List.head_mem _)⟩

end Interning

end ServiceKit
