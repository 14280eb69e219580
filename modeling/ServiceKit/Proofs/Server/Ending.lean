import Mathlib.Data.List.Perm.Basic
import Mathlib.Logic.Function.Iterate
import Mathlib.Tactic.SplitIfs
import ServiceKit.Proofs.Server.Building
import ServiceKit.Server.Run

namespace ServiceKit.Server

/-! ### What a row of ends comes to -/

def TaskEnd.Fails (e : TaskEnd) : Prop :=
  ∃ fault, e.outcome = .error fault

/-- Success, or the first failure. -/
def verdict : List TaskEnd → Except ServeError Unit
  | [] => .ok ()
  | e :: rest =>
    match e.outcome with
    | .ok () => verdict rest
    | .error fault => .error fault

theorem verdict_concat (ends : List TaskEnd) (e : TaskEnd) :
    verdict (ends ++ [e]) =
      match verdict ends with
      | .ok () => e.outcome
      | .error first => .error first := by
  induction ends with
  | nil => cases h : e.outcome <;> simp [verdict, h]
  | cons head rest ih => cases h : head.outcome <;> simp [verdict, h, ih]

theorem verdict_eq_ok_iff {ends : List TaskEnd} : verdict ends = .ok () ↔ ∀ e ∈ ends, e.outcome = .ok () := by
  induction ends with
  | nil => simp [verdict]
  | cons head rest ih => cases h : head.outcome <;> simp [verdict, h, ih]

theorem verdict_eq_error_iff {ends : List TaskEnd} {fault : ServeError} :
    verdict ends = .error fault ↔
      ∃ before first after, ends = before ++ first :: after ∧ (∀ e ∈ before, e.outcome = .ok ()) ∧
        first.outcome = .error fault := by
  constructor
  · intro failed
    induction ends with
    | nil => cases failed
    | cons head rest ih =>
      rw [verdict] at failed
      split at failed
      · rename_i fine
        obtain ⟨before, first, after, rfl, earlier, fails⟩ := ih failed
        exact ⟨head :: before, first, after, rfl, List.forall_mem_cons.mpr ⟨fine, earlier⟩, fails⟩
      · rename_i first fails
        cases failed
        exact ⟨[], head, rest, rfl, by simp, fails⟩
  · rintro ⟨before, first, after, rfl, earlier, fails⟩
    induction before with
    | nil => simp [verdict, fails]
    | cons head before ih =>
      obtain ⟨fine, earlier⟩ := List.forall_mem_cons.mp earlier
      simpa [verdict, fine] using ih earlier

namespace RunState
variable {pidFile : Option String} {listeners : Nat} {ends : List (Nat × TaskEnd)} {s : RunState} {task : Nat}

/-! ### Single steps -/

/-- The orders to stop. -/
def stops : List Deed :=
  [.stopTcp, .stopUnix]

@[simp]
theorem running_join (s : RunState) (outcome : Except ServeError Unit) : (s.join outcome).running = s.running := by
  cases outcome <;> rfl

@[simp]
theorem ended_join (s : RunState) (outcome : Except ServeError Unit) : (s.join outcome).ended = s.ended := by
  cases outcome <;> rfl

@[simp]
theorem returned_join (s : RunState) (outcome : Except ServeError Unit) : (s.join outcome).returned = s.returned := by
  cases outcome <;> rfl

@[simp]
theorem pidFile_join (s : RunState) (outcome : Except ServeError Unit) : (s.join outcome).pidFile = s.pidFile := by
  cases outcome <;> rfl

@[simp]
theorem signalled_join (s : RunState) (outcome : Except ServeError Unit) :
    (s.join outcome).signalled = s.signalled := by
  cases outcome <;> rfl

theorem result_join (s : RunState) (outcome : Except ServeError Unit) :
    (s.join outcome).result =
      match s.result with
      | .ok () => outcome
      | .error first => .error first := by
  cases outcome <;> cases h : s.result <;> simp [join, h]

theorem mem_deeds_join {deed : Deed} {e : TaskEnd} :
    deed ∈ (s.join e.outcome).deeds ↔ deed ∈ s.deeds ∨ e.Fails ∧ deed ∈ stops := by
  unfold TaskEnd.Fails
  cases e.outcome <;> simp [join, stops]

/-- The ways in which a turn of the run can go. -/
inductive Turn (s : RunState) : RunState → Prop
  | rests (returned : s.returned.isSome) : Turn s s
  | notes {e rest} (isOpen : s.returned = none) (next : s.ended = e :: rest) :
      Turn s ({ s with ended := rest }.join e.outcome)
  | returns (isOpen : s.returned = none) (noted : s.ended = []) (idle : s.running = []) :
      Turn s { s with deeds := s.deeds ++ s.pidFile.toList.map .removePidFile, returned := some s.result }
  | waits (isOpen : s.returned = none) (noted : s.ended = []) (busy : s.running ≠ []) : Turn s s

theorem proceed_turn (s : RunState) : Turn s s.proceed := by
  unfold proceed
  split
  · exact .rests ‹_›
  · rename_i unreturned
    have isOpen : s.returned = none := by simpa using unreturned
    split
    · exact .notes isOpen ‹_›
    · split
      · exact .returns isOpen ‹_› (List.isEmpty_iff.mp ‹_›)
      · rename_i busy
        exact .waits isOpen ‹_› fun idle => busy (List.isEmpty_iff.mpr idle)

/-! ### Whole runs -/

/-- The states that a run comes to, with the ends of its tasks in the order in which they came. Tasks end on their own,
each with whatever it ends with; the process may be told to shut down; and the run takes its turns. -/
inductive Reached (pidFile : Option String) (listeners : Nat) : List (Nat × TaskEnd) → RunState → Prop
  | start : Reached pidFile listeners [] (.start pidFile listeners)
  | finish {ends : List (Nat × TaskEnd)} {s : RunState} {task : Nat} (e : TaskEnd) :
      Reached pidFile listeners ends s → task ∈ s.running →
        Reached pidFile listeners (ends ++ [(task, e)]) (s.finish task e)
  | signal {ends : List (Nat × TaskEnd)} {s : RunState} :
      Reached pidFile listeners ends s → Reached pidFile listeners ends s.signal
  | proceed {ends : List (Nat × TaskEnd)} {s : RunState} :
      Reached pidFile listeners ends s → Reached pidFile listeners ends s.proceed

/-- What a run has come to, in terms of the ends of its tasks: `noted` are those that it has taken note of. -/
structure Tracks (pidFile : Option String) (listeners : Nat) (ends : List (Nat × TaskEnd)) (noted : List TaskEnd)
    (s : RunState) : Prop where
  file : s.pidFile = pidFile
  tasks : (s.running ++ ends.map Prod.fst).Perm (List.range listeners)
  queue : ends.map Prod.snd = noted ++ s.ended
  result : s.result = verdict noted
  told : ∀ stop ∈ stops, stop ∈ s.deeds ↔ s.signalled = true ∨ ∃ e ∈ noted, e.Fails
  stands : s.returned = none → ∀ path, .removePidFile path ∉ s.deeds
  ending : ∀ result, s.returned = some result → s.running = [] ∧ s.ended = [] ∧ result = s.result ∧
    ∀ path, .removePidFile path ∈ s.deeds ↔ pidFile = some path

theorem tracks_start : Tracks pidFile listeners [] [] (.start pidFile listeners) where
  file := rfl
  tasks := by simp [start]
  queue := rfl
  result := rfl
  told := by simp [start]
  stands := by simp [start]
  ending := nofun

variable {noted : List TaskEnd}

theorem Tracks.finish (tracks : Tracks pidFile listeners ends noted s) (member : task ∈ s.running) (e : TaskEnd) :
    Tracks pidFile listeners (ends ++ [(task, e)]) noted (s.finish task e) := by
  rw [RunState.finish, if_pos member]
  exact
    { file := tracks.file
      tasks := by
        have moved := (List.perm_cons_erase member).append_right (ends.map Prod.fst)
        refine List.Perm.trans ?_ (moved.symm.trans tracks.tasks)
        simp only [List.map_append, List.map_cons, List.map_nil, ← List.append_assoc]
        exact List.perm_append_singleton _ _
      queue := by simp [tracks.queue]
      result := tracks.result
      told := tracks.told
      stands := tracks.stands
      ending := fun result returned => by
        obtain ⟨idle, -⟩ := tracks.ending result returned
        simp [idle] at member }

theorem Tracks.signal (tracks : Tracks pidFile listeners ends noted s) :
    Tracks pidFile listeners ends noted s.signal := by
  unfold RunState.signal
  split_ifs
  · exact tracks
  · exact
      { tracks with
        told := fun stop member => by
          have told : stop ∈ s.deeds ++ [.stopTcp, .stopUnix] := List.mem_append_right _ member
          exact ⟨fun _ => Or.inl rfl, fun _ => told⟩
        stands := by simpa using tracks.stands
        ending := by simpa using tracks.ending }

theorem Tracks.proceed (tracks : Tracks pidFile listeners ends noted s) :
    ∃ noted, Tracks pidFile listeners ends noted s.proceed := by
  have turn := proceed_turn s
  generalize s.proceed = next at turn ⊢
  cases turn with
  | rests | waits => exact ⟨noted, tracks⟩
  | @notes e rest isOpen next =>
    refine ⟨noted ++ [e], ?_⟩
    exact
      { file := by simpa using tracks.file
        tasks := by simpa using tracks.tasks
        queue := by simp [tracks.queue, next]
        result := by
          rw [result_join, verdict_concat, ← tracks.result]
        told := fun stop member => by
          rw [mem_deeds_join, signalled_join]
          simp [tracks.told stop member, member, or_and_right, exists_or, or_assoc]
        stands := fun _ path => by
          rw [mem_deeds_join]
          simp [RunState.stops, tracks.stands isOpen path]
        ending := by simp [isOpen] }
  | returns isOpen allNoted idle =>
    have removed : ∀ path, .removePidFile path ∈ s.deeds ++ s.pidFile.toList.map .removePidFile ↔
        pidFile = some path := by
      simp [tracks.stands isOpen, tracks.file]
    refine ⟨noted, { tracks with told := fun stop member => ?_, stands := nofun, ending := ?_ }⟩
    · rw [← tracks.told stop member, List.mem_append, or_iff_left]
      rintro removal
      obtain ⟨path, -, rfl⟩ := List.mem_map.mp removal
      simp [RunState.stops] at member
    · rintro result ⟨⟩
      exact ⟨idle, allNoted, rfl, removed⟩

theorem tracks_of_reached (reached : Reached pidFile listeners ends s) :
    ∃ noted, Tracks pidFile listeners ends noted s := by
  induction reached with
  | start => exact ⟨[], tracks_start⟩
  | finish e _ member ih =>
    obtain ⟨noted, tracks⟩ := ih
    exact ⟨noted, tracks.finish member e⟩
  | signal _ ih =>
    obtain ⟨noted, tracks⟩ := ih
    exact ⟨noted, tracks.signal⟩
  | proceed _ ih =>
    obtain ⟨noted, tracks⟩ := ih
    exact tracks.proceed

/-! ### The way to the end -/

theorem proceed_of_next {e : TaskEnd} {rest : List TaskEnd} (isOpen : s.returned = none) (next : s.ended = e :: rest) :
    s.proceed = { s with ended := rest }.join e.outcome := by
  simp [RunState.proceed, isOpen, next]

theorem proceed_of_idle (isOpen : s.returned = none) (noted : s.ended = []) (idle : s.running = []) :
    s.proceed =
      { s with deeds := s.deeds ++ s.pidFile.toList.map .removePidFile, returned := some s.result } := by
  simp [RunState.proceed, isOpen, noted, idle]

/-- When no task goes on, one turn for each end that is left and one more make the run return. -/
theorem exists_returned (idle : s.running = []) :
    ∃ result, (RunState.proceed^[s.ended.length + 1] s).returned = some result := by
  rcases returned : s.returned with _ | result
  · induction left : s.ended generalizing s with
    | nil => exact ⟨s.result, by simp [proceed_of_idle returned left idle]⟩
    | cons e rest ih =>
      rw [List.length_cons, Function.iterate_succ_apply, proceed_of_next returned left]
      exact ih (by simpa using idle) (by simpa using returned) (by simp)
  · have still : s.proceed = s := by simp [RunState.proceed, returned]
    exact ⟨result, by rw [Function.iterate_fixed still, returned]⟩

/-- Whatever the order in which the tasks of a server end, each by returning or by a panic: both kinds of listeners are
told to stop by the turn that takes note of the first failure, and not before it unless the process is told to shut
down; the run returns once all tasks have ended, but no earlier, with success if all of them ended well and with the
first failure otherwise; and it never returns without having removed the file with the process number. -/
theorem ended_of_reached {server : Server}
    (reached : Reached server.config.pidFile server.listeners.length ends s) :
    (∃ noted, ends.map Prod.snd = noted ++ s.ended ∧
      ∀ stop ∈ stops, stop ∈ s.deeds ↔ s.signalled = true ∨ ∃ e ∈ noted, e.Fails) ∧
    (∀ e ∈ s.ended.head?, e.Fails → ∀ stop ∈ stops, stop ∈ s.proceed.deeds) ∧
    (s.running = [] → ∃ result, (RunState.proceed^[s.ended.length + 1] s).returned = some result) ∧
    ∀ result, s.returned = some result →
      (ends.map Prod.fst).Perm (List.range server.listeners.length) ∧
      (result = .ok () ↔ ∀ e ∈ ends, e.2.outcome = .ok ()) ∧
      (∀ fault, result = .error fault ↔ ∃ before first after, ends = before ++ first :: after ∧
        (∀ e ∈ before, e.2.outcome = .ok ()) ∧ first.2.outcome = .error fault) ∧
      ∀ path, .removePidFile path ∈ s.deeds ↔ server.config.pidFile = some path := by
  obtain ⟨noted, tracks⟩ := tracks_of_reached reached
  refine ⟨⟨noted, tracks.queue, tracks.told⟩, fun e next fails stop member => ?_, exists_returned,
    fun result returned => ?_⟩
  · obtain ⟨rest, split⟩ := List.head?_eq_some_iff.mp next
    have isOpen : s.returned = none := by
      rcases returned : s.returned with _ | result
      · rfl
      · obtain ⟨-, allNoted, -⟩ := tracks.ending result returned
        rw [allNoted] at split
        cases split
    rw [proceed_of_next isOpen split, mem_deeds_join]
    exact Or.inr ⟨fails, member⟩
  · obtain ⟨idle, allNoted, rfl, removed⟩ := tracks.ending result returned
    have all : ends.map Prod.snd = noted := by rw [tracks.queue, allNoted, List.append_nil]
    refine ⟨by simpa [idle] using tracks.tasks, ?_, fun fault => ?_, removed⟩
    · rw [tracks.result, verdict_eq_ok_iff, ← all, List.forall_mem_map]
    · rw [tracks.result, verdict_eq_error_iff, ← all]
      constructor
      · rintro ⟨before, first, after, split, fine, fails⟩
        obtain ⟨before, rest, rfl, rfl, same⟩ := List.map_eq_append_iff.mp split
        obtain ⟨first, after, rfl, rfl, rfl⟩ := List.map_eq_cons_iff.mp same
        exact ⟨before, first, after, rfl, List.forall_mem_map.mp fine, fails⟩
      · rintro ⟨before, first, after, rfl, fine, fails⟩
        exact ⟨before.map Prod.snd, first.2, after.map Prod.snd, by simp, List.forall_mem_map.mpr fine, fails⟩

/-- Two listeners: the second one fails to start, and the first one panics when it is told to stop. -/
def failingPair : RunState :=
  (((RunState.start (some "/run/pid") 2).finish 1 (.returned (.error .noSocketPath))).proceed.finish 0
    .panicked).proceed.proceed

theorem ended_failingPair :
    let served : Listener × Handler := ({ kind := .tcp }, fun _ => .error .additionOverflow)
    let server : Server := ⟨{ pidFile := some "/run/pid" }, [served, served]⟩
    let ends := [(1, .returned (.error .noSocketPath)), (0, .panicked)]
    Reached server.config.pidFile server.listeners.length ends failingPair ∧
      failingPair.returned = some (.error .noSocketPath) ∧ .removePidFile "/run/pid" ∈ failingPair.deeds := by
  intro served server ends
  have first : Reached (some "/run/pid") 2 [(1, .returned (.error .noSocketPath))] _ :=
    .finish _ .start (by decide)
  have reached : Reached server.config.pidFile server.listeners.length ends failingPair :=
    .proceed (.proceed (.finish .panicked (.proceed first) (by decide)))
  have returned : failingPair.returned = some (.error .noSocketPath) := rfl
  obtain ⟨-, -, -, ending⟩ := ended_of_reached reached
  obtain ⟨-, -, -, removed⟩ := ending _ returned
  exact ⟨reached, returned, (removed _).mpr rfl⟩

/-! ### The run that serves a configuration -/

theorem finish_proceed (noted : s.ended = []) (isOpen : s.returned = none) (member : task ∈ s.running)
    (e : TaskEnd) :
    (s.finish task e).proceed.ended = [] ∧ (s.finish task e).proceed.returned = none ∧
      (s.finish task e).proceed.running = s.running.erase task := by
  have next : (s.finish task e).ended = [e] := by simp [RunState.finish, member, noted]
  have stillOpen : (s.finish task e).returned = none := by simp [RunState.finish, member, isOpen]
  have others : (s.finish task e).running = s.running.erase task := by simp [RunState.finish, member]
  rw [proceed_of_next stillOpen next]
  simp [stillOpen, others]

/-- Tasks that end one after the other, each once, with a turn of the run after each. -/
theorem reached_foldl {more : List (Nat × TaskEnd)} (reached : Reached pidFile listeners ends s)
    (noted : s.ended = []) (isOpen : s.returned = none) (apart : (more.map Prod.fst).Nodup)
    (running : ∀ task ∈ more.map Prod.fst, task ∈ s.running) :
    let last := more.foldl (fun s e => (s.finish e.1 e.2).proceed) s
    Reached pidFile listeners (ends ++ more) last ∧ last.ended = [] ∧ last.returned = none := by
  induction more generalizing ends s with
  | nil => simpa using ⟨reached, noted, isOpen⟩
  | cons head more ih =>
    obtain ⟨task, e⟩ := head
    obtain ⟨distinct, apart⟩ := List.nodup_cons.mp apart
    obtain ⟨member, later⟩ := List.forall_mem_cons.mp running
    obtain ⟨allNoted, stillOpen, others⟩ := finish_proceed noted isOpen member e
    have stillRunning : ∀ other ∈ more.map Prod.fst, other ∈ (s.finish task e).proceed.running := by
      intro other among
      rw [others]
      exact (List.mem_erase_of_ne (ne_of_mem_of_not_mem among distinct)).mpr (later other among)
    simpa using ih (.proceed (.finish e reached member)) allNoted stillOpen apart stillRunning

theorem settle_reached (pidFile : Option String) {more : List (Nat × TaskEnd)}
    (all : (more.map Prod.fst).Perm (List.range listeners)) :
    let last := (RunState.start pidFile listeners).settle more
    Reached pidFile listeners more last ∧ last.returned = some last.result := by
  have apart : (more.map Prod.fst).Nodup := all.nodup_iff.mpr List.nodup_range
  have begun : Reached pidFile listeners [] _ := .start
  obtain ⟨reached, noted, isOpen⟩ := reached_foldl begun rfl rfl apart fun task member => all.subset member
  refine ⟨.proceed reached, ?_⟩
  obtain ⟨_, tracks⟩ := tracks_of_reached reached
  have idle := (tracks.tasks.trans all.symm).length_eq
  rw [List.nil_append, List.length_append, Nat.add_eq_right, List.length_eq_zero_iff] at idle
  rw [settle, proceed_of_idle isOpen noted idle]

end RunState

theorem ends_perm (tasks : List Task) : ((ends tasks).map Prod.fst).Perm (List.range tasks.length) := by
  have sorted := (List.mergeSort_perm tasks.zipIdx fun a b => a.1.delay ≤ b.1.delay).map Prod.snd
  rw [List.zipIdx_map_snd, ← List.range_eq_range'] at sorted
  rw [ends, List.map_map]
  exact sorted

theorem length_startAll (host : Host) (ls : List Listener) : (startAll host ls).2.length = ls.length := by
  induction ls generalizing host with
  | nil => rfl
  | cons l rest ih => exact congrArg Nat.succ (ih _)

/-- What serving a built configuration comes to is what one of these runs returns: the one in which the tasks end as
they do on that host. -/
theorem returned_of_run {fs files : FileSystem} {now : Int} {config : SharedConfig} {server : Server} {host : Host}
    {pid : Nat} (built : build fs now config = .ok server)
    (written : writePidFile host.sockets.files pid server.config = .ok files) :
    let tasks := (startAll { host with sockets := { host.sockets with files } } server.config.listeners).2
    ∃ s, RunState.Reached server.config.pidFile server.listeners.length (ends tasks) s ∧
      s.returned = some (run host pid server.config).2 := by
  intro tasks
  have same := length_of_build built
  obtain ⟨rfl, -⟩ := build_ok built
  have all := ends_perm tasks
  rw [length_startAll, ← same] at all
  obtain ⟨reached, returned⟩ := RunState.settle_reached server.config.pidFile all
  refine ⟨_, reached, ?_⟩
  rw [returned, run, written, same, ← length_startAll]

end ServiceKit.Server
