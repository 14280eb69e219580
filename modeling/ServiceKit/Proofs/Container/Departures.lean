import ServiceKit.Proofs.Container.Streams

namespace ServiceKit

namespace Pump
open PluginOutput (demux Readers get_demux_ok get_demux_eq)
variable {capacity : Nat} {frames rest : List (Except EngineFault OutputFrame)} {frame : OutputFrame}
  {schedule : Nat → PumpAction} {readers : Nat → Readers} {s r stays goes : OutputStream} {t : Nat}
  {content : Bytes} {p q : Pump}

/-! ### Frames that are handed out in full -/

/-- How many frames are handed out in full when a task is at some point. -/
def handedOut (frames : List (Except EngineFault OutputFrame)) (task : PumpTask) : Nat :=
  frames.length - task.frames.length

/-- Readers that are all there for the frames handed out so far, one of them to the end. -/
structure Present (readers : Nat → Readers) (s : OutputStream) (handed : Nat) : Prop where
  both : ∀ j < handed, readers j = {}
  stays : ∀ j, (readers j).gone s = false

/-- A pump has done the part of the splitting that concerns the frames handed out so far. -/
structure Splits (frames : List (Except EngineFault OutputFrame)) (s : OutputStream) (p : Pump) : Prop where
  fewer : p.task.frames.length ≤ frames.length
  splits : ∀ readers, Present readers s (handedOut frames p.task) →
    (demux readers 0 frames).get s = (p.pipe s).taken ++ (p.pipe s).buffer ++
      (demux readers (handedOut frames p.task) p.task.frames).get s

theorem splits_new (frames : List (Except EngineFault OutputFrame)) (s : OutputStream) :
    Splits frames s (new frames) where
  fewer := Nat.le_refl _
  splits readers _ := by simp [new, handedOut, PumpTask.frames]

theorem get_demux_of (i : Nat) : (demux readers i (.ok (.of content r) :: rest)).get s =
    if (readers i).gone r = true ∧ content ≠ [] then []
    else (if s = r then content else []) ++ (demux readers (i + 1) rest).get s := by
  rw [get_demux_ok, ite_passes_of]

/-- To start writing something makes no difference; it is a frame of its own. -/
theorem get_demux_write (counted : rest.length < frames.length) :
    (demux readers (handedOut frames (.write r content rest)) (PumpTask.write r content rest).frames).get s =
      (demux readers (frames.length - (rest.length + 1)) (.ok (.of content r) :: rest)).get s := by
  unfold PumpTask.write
  split_ifs with empty
  · have next : frames.length - rest.length = frames.length - (rest.length + 1) + 1 := by omega
    rw [get_demux_of, handedOut, PumpTask.frames, next]
    simp [empty]
  · rfl

theorem get_demux_next (counted : rest.length < frames.length) :
    (demux readers (handedOut frames (.next frame rest)) (PumpTask.next frame rest).frames).get s =
      (demux readers (frames.length - (rest.length + 1)) (.ok frame :: rest)).get s := by
  cases frame with
  | stdout content => exact get_demux_write counted
  | stderr content => exact get_demux_write counted
  | console content =>
    rw [PumpTask.next, get_demux_write counted, get_demux_ok, get_demux_ok]
    rfl
  | stdin content =>
    have next : frames.length - rest.length = frames.length - (rest.length + 1) + 1 := by omega
    rw [get_demux_ok, PumpTask.next, handedOut, PumpTask.frames, next]
    simp [passes, OutputFrame.content]

theorem length_write_le (r : OutputStream) (content : Bytes) (rest : List (Except EngineFault OutputFrame)) :
    (PumpTask.write r content rest).frames.length ≤ rest.length + 1 := by
  unfold PumpTask.write
  split_ifs <;> simp [PumpTask.frames]

theorem length_next_le (frame : OutputFrame) (rest : List (Except EngineFault OutputFrame)) :
    (PumpTask.next frame rest).frames.length ≤ rest.length + 1 := by
  cases frame with
  | stdin content => simp [PumpTask.next, PumpTask.frames]
  | stdout content | stderr content | console content => exact length_write_le _ _ _

/-- One more step of the splitting: some bytes go from what is left to do into the pipe. -/
theorem Splits.move (splits : Splits frames s p) (moved : Bytes)
    (fewer : q.task.frames.length ≤ p.task.frames.length)
    (pipe : (q.pipe s).taken ++ (q.pipe s).buffer = (p.pipe s).taken ++ (p.pipe s).buffer ++ moved)
    (step : ∀ readers, Present readers s (handedOut frames q.task) →
      (demux readers (handedOut frames p.task) p.task.frames).get s =
        moved ++ (demux readers (handedOut frames q.task) q.task.frames).get s) : Splits frames s q where
  fewer := Nat.le_trans fewer splits.fewer
  splits readers present := by
    have before : Present readers s (handedOut frames p.task) :=
      ⟨fun j early => present.both j (by unfold handedOut at early ⊢; omega), present.stays⟩
    rw [splits.splits readers before, step readers present, pipe, List.append_assoc _ moved]

/-- A part of a frame is written. -/
theorem get_demux_part (counted : rest.length < frames.length) (nonempty : content ≠ []) (room : Nat)
    (present : Present readers s (handedOut frames (.write r (content.drop room) rest))) :
    (demux readers (frames.length - (rest.length + 1)) (.ok (.of content r) :: rest)).get s =
      (if s = r then content.take room else []) ++
        (demux readers (frames.length - (rest.length + 1)) (.ok (.of (content.drop room) r) :: rest)).get s := by
  rw [get_demux_of, get_demux_of]
  cases left : (readers (frames.length - (rest.length + 1))).gone r with
  | false => by_cases same : s = r <;> simp [same, ← List.append_assoc]
  | true =>
    have other : s ≠ r := by
      rintro rfl
      rw [present.stays] at left
      cases left
    have more : content.drop room ≠ [] := by
      intro written
      have early : frames.length - (rest.length + 1) < handedOut frames (.write r (content.drop room) rest) := by
        rw [handedOut, PumpTask.write, if_pos written, PumpTask.frames]
        omega
      rw [present.both _ early] at left
      cases r <;> cases left
    simp [other, nonempty, more]

/-- As long as both readers are there, the splitting goes on as it should. -/
theorem splits_advance (orderly : Orderly p) (here : ∀ r, p.gone r = false) (splits : Splits frames s p) :
    Splits frames s (p.advance capacity) := by
  have counted := splits.fewer
  unfold advance
  cases task : p.task with
  | receiving left =>
    rw [task] at counted
    cases left with
    | nil =>
      refine splits.move [] (by simp [task, PumpTask.frames, PumpTask.finish]) (by simp) fun readers present => ?_
      simp [task, PumpTask.frames, PumpTask.finish, handedOut]
    | cons frame rest =>
      cases frame with
      | error fault =>
        refine splits.move [] (by simp [PumpTask.frames, PumpTask.finish]) (by simp) fun readers present => ?_
        rw [task]
        cases s <;> rfl
      | ok frame =>
        refine splits.move [] ?_ (by simp) fun readers present => ?_
        · rw [task]
          exact length_next_le frame rest
        · rw [task]
          exact (get_demux_next counted).symm
  | writing r content rest =>
    rw [task] at counted
    have nonempty := orderly.nonempty r content rest task
    have present : ¬ (p.pipe r).dropped = true := Bool.eq_false_iff.mp (here r)
    dsimp only
    rw [if_neg present]
    generalize capacity - (p.pipe r).buffer.length = room
    refine splits.move (if s = r then content.take room else []) ?_ ?_ fun readers present => ?_
    · rw [task]
      exact length_write_le _ _ _
    · rw [pipe_onPipe]
      split_ifs with same
      · simp [Pipe.write, same]
      · simp
    · rw [task, get_demux_write counted]
      exact get_demux_part counted nonempty room present
  | closing left =>
    cases left with
    | nil => exact splits
    | cons r left =>
      refine splits.move [] (by simp [PumpTask.frames]) ?_ fun readers present => ?_
      · rw [pipe_onPipe]
        split_ifs <;> simp [Pipe.shutDown]
      · rw [task]
        rfl

theorem splits_after (capacity : Nat) (frames : List (Except EngineFault OutputFrame))
    (stay : ∀ u < t, ∀ r, schedule u ≠ .drop r) (s : OutputStream) :
    Splits frames s (after capacity frames schedule t) := by
  induction t with
  | zero => exact splits_new frames s
  | succ t ih =>
    have before : ∀ u < t, ∀ r, schedule u ≠ .drop r := fun u early => stay u (by omega)
    have here : ∀ r, (after capacity frames schedule t).gone r = false :=
      fun r => gone_after_of_stay _ _ fun u early => before u early r
    rw [after]
    cases action : schedule t with
    | advance => exact splits_advance (orderly_after ..) here (ih before)
    | drop r => exact absurd action (stay t (Nat.lt_succ_self t) r)
    | read r n =>
      refine (ih before).move [] (Nat.le_refl _) ?_ fun readers present => rfl
      rw [act, onPipe_keeps (Pipe.read n) (fun q => q.taken ++ q.buffer) taken_read_append]
      simp

/-! ### One reader goes -/

/-- Among the frames before the first error there is one with something for a reader that is gone, and one after
it with something for the reader that stays. -/
inductive Interrupted (goes stays : OutputStream) : List (Except EngineFault OutputFrame) → Prop where
  | here {first : OutputFrame} {later : List (Except EngineFault OutputFrame)}
      (unwritable : first.content goes ≠ []) (lost : carried stays later ≠ []) :
      Interrupted goes stays (.ok first :: later)
  | later {first : OutputFrame} {later : List (Except EngineFault OutputFrame)}
      (interrupted : Interrupted goes stays later) : Interrupted goes stays (.ok first :: later)

theorem carried_ok : carried s (.ok frame :: rest) = frame.content s ++ carried s rest :=
  rfl

theorem Interrupted.carried_ne_nil (interrupted : Interrupted goes stays rest) : carried stays rest ≠ [] := by
  induction interrupted with
  | here _ lost | later _ lost =>
    rw [carried_ok]
    exact fun empty => lost (List.append_eq_nil_iff.mp empty).2

/-- A frame has something for one stream only. -/
theorem content_eq_nil (apart : stays ≠ goes) (brought : frame.content goes ≠ []) : frame.content stays = [] := by
  cases frame <;> cases stays <;> cases goes <;> simp_all [OutputFrame.content]

theorem passes_iff : passes (· = goes) (.ok frame) = true ↔ frame.content goes = [] := by
  cases goes <;> simp [passes]

theorem delivered_eq_carried_iff (apart : stays ≠ goes) :
    delivered (· = goes) stays frames = carried stays frames ↔ ¬ Interrupted goes stays frames := by
  induction frames with
  | nil => exact iff_of_true rfl (by rintro ⟨⟩)
  | cons frame rest ih =>
    cases frame with
    | error fault => exact iff_of_true rfl (by rintro ⟨⟩)
    | ok frame =>
      rw [delivered_ok, carried_ok]
      by_cases empty : frame.content goes = []
      · rw [if_pos (passes_iff.mpr empty), List.append_cancel_left_eq, ih]
        refine not_congr ⟨.later, ?_⟩
        rintro (⟨unwritable, -⟩ | interrupted)
        · exact absurd empty unwritable
        · exact interrupted
      · rw [if_neg (mt passes_iff.mp empty), content_eq_nil apart empty, List.nil_append, eq_comm]
        constructor
        · rintro none (⟨-, lost⟩ | interrupted)
          · exact lost none
          · exact interrupted.carried_ne_nil none
        · intro whole
          by_cases lost : carried stays rest = []
          · exact lost
          · exact absurd (.here empty lost) whole

theorem eq_or_eq (apart : stays ≠ goes) (r : OutputStream) : r = stays ∨ r = goes := by
  revert apart
  cases stays <;> cases goes <;> cases r <;> simp

/-- The reader that stays gets what was written for it before the other one went, and of the rest what comes
before the first frame that cannot be written. -/
theorem exists_remaining (roomy : 0 < capacity) (frames : List (Except EngineFault OutputFrame))
    (apart : stays ≠ goes) (advances : Advances schedule) (drains : Drains schedule stays)
    (stay : ∀ u, schedule u ≠ .drop stays) (dropped : schedule t = .drop goes) :
    ∃ T, ∀ u, T ≤ u → ((after capacity frames schedule u).pipe stays).AtEnd ∧
      ((after capacity frames schedule u).pipe stays).taken =
        ((after capacity frames schedule t).pipe stays).taken ++ ((after capacity frames schedule t).pipe stays).buffer ++
          delivered (· = goes) stays (after capacity frames schedule t).task.frames := by
  have gone : (after capacity frames schedule (t + 1)).gone = (decide <| · = goes) := by
    funext r
    rcases eq_or_eq apart r with rfl | rfl
    · rw [gone_after_of_stay _ _ fun u _ => stay u, decide_eq_false apart]
    · rw [gone_after_of_drop _ _ dropped (Nat.lt_succ_self t), decide_eq_true rfl]
  -- From then on nobody goes any more, so that what is owed stays the same.
  have kept : ∀ u, t + 1 ≤ u →
      (after capacity frames schedule u).owed stays = (after capacity frames schedule (t + 1)).owed stays := by
    intro u later
    induction later with
    | refl => rfl
    | @step u later ih =>
      rw [after, owed_act (orderly_after ..) fun r drop => ?_, ih]
      rcases eq_or_eq apart r with rfl | rfl
      · exact absurd drop (stay u)
      · exact gone_after_of_drop _ _ dropped later
  obtain ⟨T, ended⟩ := exists_atEnd roomy frames advances fun r => by
    rcases eq_or_eq apart r with rfl | rfl
    · exact Or.inl drains
    · exact Or.inr ⟨t, dropped⟩
  refine ⟨max T (t + 1), fun u later => ?_⟩
  have atEnd := ended u (by omega) stays drains stay
  refine ⟨atEnd, ?_⟩
  rw [taken_of_atEnd (orderly_after ..) atEnd, kept u (by omega), owed, gone, after, dropped, act,
    pipe_onPipe_other apart]
  rfl

/-- One reader is gone from a frame on. -/
def readersUntil (handed : Nat) : OutputStream → Nat → Readers
  | .stdout, i => { stdout := i < handed }
  | .stderr, i => { stderr := i < handed }

theorem present_readersUntil (apart : stays ≠ goes) (handed : Nat) :
    Present (readersUntil handed goes) stays handed where
  both j early := by cases goes <;> simp [readersUntil, early]
  stays j := by cases goes <;> cases stays <;> first | rfl | exact absurd rfl apart

theorem gone_readersUntil {i handed : Nat} (later : handed ≤ i) :
    (readersUntil handed goes i).gone = (decide <| · = goes) := by
  funext r
  cases goes <;> cases r <;> simp [readersUntil, Readers.gone, later]

/-- If one reader goes, the other one gets what the splitting gives it with the one gone from the frame on that
is being handed out then; and this is all that is for it exactly if nothing for it comes after a frame
for the one that is gone. -/
theorem remaining_iff (roomy : 0 < capacity) (frames : List (Except EngineFault OutputFrame))
    (apart : stays ≠ goes) (advances : Advances schedule) (drains : Drains schedule stays)
    (stay : ∀ u, schedule u ≠ .drop stays) (dropped : schedule t = .drop goes)
    (first : ∀ u < t, schedule u ≠ .drop goes) :
    (∃ T, ∀ u, T ≤ u → ((after capacity frames schedule u).pipe stays).AtEnd ∧
      ((after capacity frames schedule u).pipe stays).taken =
        (demux (readersUntil (handedOut frames (after capacity frames schedule t).task) goes) 0 frames).get stays) ∧
    ((∃ T, ∀ u, T ≤ u → ((after capacity frames schedule u).pipe stays).AtEnd ∧
      ((after capacity frames schedule u).pipe stays).taken = carried stays frames) ↔
        ¬ Interrupted goes stays (after capacity frames schedule t).task.frames) := by
  have nobody : ∀ u < t, ∀ r, schedule u ≠ .drop r := by
    intro u early r
    rcases eq_or_eq apart r with rfl | rfl
    · exact stay u
    · exact first u early
  have gone : (after capacity frames schedule t).gone = fun _ => false :=
    funext fun r => gone_after_of_stay _ _ fun u early => nobody u early r
  have all := owed_after_of_stay capacity frames nobody stays
  rw [owed, gone, delivered_none] at all
  have split := (splits_after capacity frames nobody stays).splits _
    (present_readersUntil apart _)
  rw [get_demux_eq fun j later => gone_readersUntil later] at split
  obtain ⟨T, ended⟩ := exists_remaining roomy frames apart advances drains stay dropped
  refine ⟨⟨T, fun u later => ⟨(ended u later).1, (ended u later).2.trans split.symm⟩⟩, ?_⟩
  rw [← delivered_eq_carried_iff apart]
  constructor
  · rintro ⟨T', complete⟩
    have taken := (ended (max T T') (Nat.le_max_left ..)).2
    rw [(complete (max T T') (Nat.le_max_right ..)).2, ← all] at taken
    exact (List.append_cancel_left taken).symm
  · intro whole
    rw [← whole] at all
    exact ⟨T, fun u later => ⟨(ended u later).1, (ended u later).2.trans all⟩⟩

/-- The task and one reader take turns, and the other reader goes at some time. -/
def turnsUntil (t : Nat) (goes stays : OutputStream) (u : Nat) : PumpAction :=
  if u = t then .drop goes else if u % 2 = 1 then .advance else .read stays 1

theorem advances_turnsUntil (t : Nat) (goes stays : OutputStream) : Advances (turnsUntil t goes stays) :=
  fun u => ⟨2 * (t + u) + 1, by omega, by rw [turnsUntil, if_neg (by omega), if_pos (by omega)]⟩

theorem drains_turnsUntil (t : Nat) (goes stays : OutputStream) : Drains (turnsUntil t goes stays) stays :=
  fun u => ⟨2 * (t + u) + 2, 1, by omega, by omega, by rw [turnsUntil, if_neg (by omega), if_neg (by omega)]⟩

theorem dropped_turnsUntil (t : Nat) (goes stays : OutputStream) : turnsUntil t goes stays t = .drop goes :=
  if_pos rfl

theorem eq_of_turnsUntil_drop {u : Nat} (drop : turnsUntil t goes stays u = .drop r) : u = t ∧ r = goes := by
  unfold turnsUntil at drop
  split_ifs at drop with now
  exact ⟨now, (PumpAction.drop.inj drop).symm⟩

/-- The reader of stdout goes when a part of the second frame is written and a part is not. The reader of stderr
gets the first frame; if there is a third one, it does not get it. -/
theorem remaining_partWritten :
    (Advances (turnsUntil 8 .stdout .stderr) ∧ Drains (turnsUntil 8 .stdout .stderr) .stderr ∧
      (∀ u, turnsUntil 8 .stdout .stderr u ≠ .drop .stderr) ∧ turnsUntil 8 .stdout .stderr 8 = .drop .stdout ∧
      ∀ u < 8, turnsUntil 8 .stdout .stderr u ≠ .drop .stdout) ∧
    (∃ T, ∀ u, T ≤ u →
      ((after 2 [.ok (.stderr [10, 11]), .ok (.stdout [1, 2, 3])] (turnsUntil 8 .stdout .stderr) u).pipe .stderr).taken =
        [10, 11]) ∧
    ¬ ∃ T, ∀ u, T ≤ u →
      ((after 2 [.ok (.stderr [10, 11]), .ok (.stdout [1, 2, 3]), .ok (.stderr [12])]
        (turnsUntil 8 .stdout .stderr) u).pipe .stderr).AtEnd ∧
      ((after 2 [.ok (.stderr [10, 11]), .ok (.stdout [1, 2, 3]), .ok (.stderr [12])]
        (turnsUntil 8 .stdout .stderr) u).pipe .stderr).taken = [10, 11, 12] := by
  have advances := advances_turnsUntil 8 .stdout .stderr
  have drains := drains_turnsUntil 8 .stdout .stderr
  have dropped := dropped_turnsUntil 8 .stdout .stderr
  have stay : ∀ u, turnsUntil 8 .stdout .stderr u ≠ .drop .stderr :=
    fun u drop => by cases (eq_of_turnsUntil_drop drop).2
  have first : ∀ u < 8, turnsUntil 8 .stdout .stderr u ≠ .drop .stdout := by
    intro u early drop
    have now := (eq_of_turnsUntil_drop drop).1
    omega
  have remaining (frames : List (Except EngineFault OutputFrame)) :=
    remaining_iff (by omega : 0 < 2) frames (by decide) advances drains stay dropped first
  refine ⟨⟨advances, drains, stay, dropped, first⟩, ?_, ?_⟩
  · obtain ⟨⟨T, ended⟩, -⟩ := remaining [.ok (.stderr [10, 11]), .ok (.stdout [1, 2, 3])]
    exact ⟨T, fun u later => (ended u later).2⟩
  · refine (not_congr (remaining _).2).mpr (not_not_intro ?_)
    have unwritten : (OutputFrame.stdout [3]).content .stdout ≠ [] := by decide
    exact .here unwritten (by decide)

/-- The reader of stderr goes at once. The reader of stdout reads on, and what it gets ends where there is
something for stderr, although there is more for stdout. -/
theorem remaining_cut_short :
    ∃ (frames : List (Except EngineFault OutputFrame)) (schedule : Nat → PumpAction),
      Advances schedule ∧ Drains schedule .stdout ∧ schedule 0 = .drop .stderr ∧ (∀ u, schedule u ≠ .drop .stdout) ∧
      carried .stdout frames = [97, 99] ∧
      ∃ T, ∀ u, T ≤ u → ((after runnerCapacity frames schedule u).pipe .stdout).AtEnd ∧
        ((after runnerCapacity frames schedule u).pipe .stdout).taken = [97] := by
  have stay : ∀ u, turnsUntil 0 .stderr .stdout u ≠ .drop .stdout :=
    fun u drop => by cases (eq_of_turnsUntil_drop drop).2
  refine ⟨[.ok (.stdout [97]), .ok (.stderr [98]), .ok (.stdout [99])], turnsUntil 0 .stderr .stdout,
    advances_turnsUntil _ _ _, drains_turnsUntil _ _ _, dropped_turnsUntil _ _ _, stay, rfl, ?_⟩
  exact exists_remaining (by decide) _ (by decide) (advances_turnsUntil _ _ _) (drains_turnsUntil _ _ _) stay
    (dropped_turnsUntil 0 _ _)

end Pump

end ServiceKit
