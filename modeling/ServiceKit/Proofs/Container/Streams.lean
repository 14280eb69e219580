import ServiceKit.Proofs.Container.Piping

namespace ServiceKit

namespace Pump
variable {capacity : Nat} {frames : List (Except EngineFault OutputFrame)} {schedule : Nat → PumpAction}
  {s : OutputStream} {t u : Nat}

/-- The task goes on again and again. -/
def Advances (schedule : Nat → PumpAction) : Prop :=
  ∀ t, ∃ u, t ≤ u ∧ schedule u = .advance

/-- A reader reads again and again, each time at least one byte if there is one. -/
def Drains (schedule : Nat → PumpAction) (s : OutputStream) : Prop :=
  ∀ t, ∃ u n, t ≤ u ∧ 0 < n ∧ schedule u = .read s n

theorem orderly_after (capacity : Nat) (frames : List (Except EngineFault OutputFrame))
    (schedule : Nat → PumpAction) (t : Nat) : Orderly (after capacity frames schedule t) := by
  induction t with
  | zero => exact orderly_new frames
  | succ t ih => exact orderly_act ih (schedule t)

/-- Who goes away stays away. -/
theorem gone_act_of_gone {p : Pump} (gone : p.gone s = true) (a : PumpAction) :
    (p.act capacity a).gone s = true := by
  cases a with
  | advance => rwa [act, gone_advance]
  | read r n => exact (onPipe_keeps _ Pipe.dropped dropped_read).trans gone
  | drop r =>
    rw [Pump.gone, act, pipe_onPipe]
    split_ifs
    · rfl
    · exact gone

/-- Nobody goes away in a step but who drops the pipe. -/
theorem gone_act_of_stay {p : Pump} {a : PumpAction} (stay : a ≠ .drop s) :
    (p.act capacity a).gone s = p.gone s := by
  cases a with
  | advance => rw [act, gone_advance]
  | read r n => exact onPipe_keeps _ Pipe.dropped dropped_read
  | drop r =>
    have other : s ≠ r := fun same => stay (congrArg _ same.symm)
    rw [Pump.gone, act, pipe_onPipe_other other]
    rfl

theorem gone_after_of_drop (capacity : Nat) (frames : List (Except EngineFault OutputFrame))
    (dropped : schedule t = .drop s) (later : t < u) :
    (after capacity frames schedule u).gone s = true := by
  induction later with
  | refl =>
    rw [after, dropped, Pump.gone, act, pipe_onPipe_self]
    rfl
  | step _ ih => exact gone_act_of_gone ih _

theorem gone_after_of_stay (capacity : Nat) (frames : List (Except EngineFault OutputFrame))
    (stay : ∀ u < t, schedule u ≠ .drop s) :
    (after capacity frames schedule t).gone s = false := by
  induction t with
  | zero => rfl
  | succ t ih =>
    rw [after, gone_act_of_stay (stay t (Nat.lt_succ_self t))]
    exact ih fun u before => stay u (by omega)

/-- Before anyone goes, each reader has or will have all that is for it before the first error. -/
theorem owed_after_of_stay (capacity : Nat) (frames : List (Except EngineFault OutputFrame))
    (stay : ∀ u < t, ∀ s, schedule u ≠ .drop s) (s : OutputStream) :
    (after capacity frames schedule t).owed s = carried s frames := by
  induction t with
  | zero => exact delivered_none
  | succ t ih =>
    rw [after, owed_act (orderly_after ..) fun r drop => absurd drop (stay t (Nat.lt_succ_self t) r)]
    exact ih fun u before => stay u (by omega)

/-- Whatever happens, the pump is as it was or has less to do. -/
theorem after_progress (capacity : Nat) (frames : List (Except EngineFault OutputFrame))
    (schedule : Nat → PumpAction) (later : t ≤ u) :
    after capacity frames schedule u = after capacity frames schedule t ∨
      (after capacity frames schedule u).work < (after capacity frames schedule t).work := by
  induction later with
  | refl => exact Or.inl rfl
  | @step u _ ih =>
    rw [after]
    rcases act_progress (orderly_after capacity frames schedule u) (schedule u) with same | less
    · rwa [same]
    · refine Or.inr ?_
      rcases ih with same | earlier
      · rw [same] at less ⊢
        exact less
      · exact Nat.lt_trans less earlier

/-- From some time on nothing changes any more. -/
theorem exists_settled (capacity : Nat) (frames : List (Except EngineFault OutputFrame))
    (schedule : Nat → PumpAction) :
    ∃ T, ∀ t, T ≤ t → after capacity frames schedule t = after capacity frames schedule T := by
  suffices settles : ∀ todo t, (after capacity frames schedule t).work = todo →
      ∃ T, ∀ t, T ≤ t → after capacity frames schedule t = after capacity frames schedule T from
    settles _ 0 rfl
  intro todo
  induction todo using Nat.strongRecOn with
  | ind todo ih =>
    rintro t rfl
    by_cases settled : ∀ u, t ≤ u → after capacity frames schedule u = after capacity frames schedule t
    · exact ⟨t, settled⟩
    · obtain ⟨u, later, moved⟩ : ∃ u, t ≤ u ∧ after capacity frames schedule u ≠ after capacity frames schedule t := by
        simpa using settled
      have less := (after_progress capacity frames schedule later).resolve_left moved
      exact ih _ less u rfl

/-- The pump comes to its end, and the readers that stay learn of it, if the task goes on and everyone either
reads on or goes away. -/
theorem exists_atEnd (roomy : 0 < capacity) (frames : List (Except EngineFault OutputFrame))
    (advances : Advances schedule) (reads : ∀ s, Drains schedule s ∨ ∃ t, schedule t = .drop s) :
    ∃ T, ∀ t, T ≤ t → ∀ s, Drains schedule s → (∀ u, schedule u ≠ .drop s) →
      ((after capacity frames schedule t).pipe s).AtEnd := by
  obtain ⟨T, settled⟩ := exists_settled capacity frames schedule
  generalize after capacity frames schedule T = last at settled
  have idle : ∀ t, T ≤ t → last.act capacity (schedule t) = last := by
    intro t later
    have next := settled (t + 1) (by omega)
    rwa [after, settled t later] at next
  have orderly : Orderly last := settled T (Nat.le_refl T) ▸ orderly_after ..
  have read : ∀ s, Drains schedule s → last.gone s = false → (last.pipe s).buffer = [] := by
    intro s drains here
    obtain ⟨t, n, later, positive, reads⟩ := drains T
    have same := idle t later
    rw [reads] at same
    rcases read_progress last s n with ⟨empty | gone | none, -⟩ | less
    · exact empty
    · simp [here] at gone
    · omega
    · rw [act] at same
      exact absurd less (by simp [same])
  have closed : last.task = .closing [] := by
    obtain ⟨t, later, advances⟩ := advances T
    have same := idle t later
    rw [advances] at same
    rcases advance_progress orderly capacity with ⟨ended | ⟨s, content, rest, -, here, full⟩, -⟩ | less
    · exact ended
    · rcases reads s with drains | ⟨u, dropped⟩
      · simp [read s drains here] at full
        omega
      · have gone := gone_after_of_drop capacity frames dropped (u := max T (u + 1)) (by omega)
        rw [settled _ (Nat.le_max_left ..), here] at gone
        cases gone
    · rw [act] at same
      exact absurd less (by simp [same])
  refine ⟨T, fun t later s drains stay => ?_⟩
  have here := gone_after_of_stay capacity frames (t := t) fun u _ => stay u
  rw [settled t later] at here ⊢
  refine ⟨read s drains here, ?_⟩
  simpa using orderly.remaining [] closed s

end Pump

namespace PluginOutput
variable {frames rest : List (Except EngineFault OutputFrame)} {frame : OutputFrame} {readers : Nat → Readers}
  {i : Nat} {s : OutputStream} {leaving : OutputStream → Bool}

def get (out : PluginOutput) : OutputStream → Bytes
  | .stdout => out.stdout
  | .stderr => out.stderr

def Readers.gone (r : Readers) : OutputStream → Bool
  | .stdout => !r.stdout
  | .stderr => !r.stderr

/-- Frames are split one by one, until one does not pass. -/
theorem get_demux_ok : (demux readers i (.ok frame :: rest)).get s =
    if Pump.passes (readers i).gone (.ok frame) then frame.content s ++ (demux readers (i + 1) rest).get s else [] := by
  cases frame with
  | stdin content => cases s <;> simp [demux, Pump.passes, OutputFrame.content, get]
  | stdout content | console content | stderr content =>
    cases s <;> simp only [demux, Pump.passes, OutputFrame.content] <;> split_ifs <;>
      simp_all [get, Readers.gone]

/-- What readers get that do not change any more. -/
theorem get_demux_eq (same : ∀ j, i ≤ j → (readers j).gone = leaving) :
    (demux readers i frames).get s = Pump.delivered leaving s frames := by
  induction frames generalizing i with
  | nil => cases s <;> rfl
  | cons frame rest ih =>
    cases frame with
    | error fault => cases s <;> rfl
    | ok frame =>
      rw [get_demux_ok, Pump.delivered_ok, same i (Nat.le_refl i), ih fun j later => same j (by omega)]

theorem drained_eq (frames : List (Except EngineFault OutputFrame)) :
    drained frames = ⟨Pump.carried .stdout frames, Pump.carried .stderr frames⟩ := by
  have got (s : OutputStream) : (drained frames).get s = Pump.carried s frames := by
    rw [← Pump.delivered_none]
    exact get_demux_eq fun _ _ => funext fun s => by cases s <;> rfl
  rw [← got .stdout, ← got .stderr]
  rfl

end PluginOutput

namespace Pump
variable {capacity : Nat} {schedule : Nat → PumpAction}

/-- If both readers stay and read on, each gets what the frames before the first error have for it, in this
order and nothing else, whatever the pipes hold and whoever comes when; in the end both learn that it is over.
The output that a runner keeps is what they get. -/
theorem streams_split (roomy : 0 < capacity) (frames : List (Except EngineFault OutputFrame))
    (advances : Advances schedule) (drains : ∀ s, Drains schedule s) (stay : ∀ t s, schedule t ≠ .drop s) :
    (∀ t s, ((after capacity frames schedule t).pipe s).taken <+: carried s frames) ∧
    (∀ t s, ((after capacity frames schedule t).pipe s).AtEnd →
      ((after capacity frames schedule t).pipe s).taken = carried s frames) ∧
    (∃ T, ∀ t, T ≤ t → ∀ s, ((after capacity frames schedule t).pipe s).AtEnd ∧
      ((after capacity frames schedule t).pipe s).taken = carried s frames) ∧
    PluginOutput.drained frames = ⟨carried .stdout frames, carried .stderr frames⟩ := by
  have owed : ∀ t s, (after capacity frames schedule t).owed s = carried s frames :=
    fun t => owed_after_of_stay capacity frames fun u _ => stay u
  have atEnd : ∀ t s, ((after capacity frames schedule t).pipe s).AtEnd →
      ((after capacity frames schedule t).pipe s).taken = carried s frames :=
    fun t s ended => (taken_of_atEnd (orderly_after ..) ended).trans (owed t s)
  refine ⟨fun t s => ?_, atEnd, ?_, PluginOutput.drained_eq frames⟩
  · rw [← owed t s, Pump.owed, List.append_assoc]
    exact List.prefix_append ..
  · obtain ⟨T, ended⟩ := exists_atEnd roomy frames advances fun s => Or.inl (drains s)
    refine ⟨T, fun t later s => ?_⟩
    have end' := ended t later s (drains s) fun u => stay u s
    exact ⟨end', atEnd t s end'⟩

/-- The task and the readers take turns, and a byte is read at a time. -/
def turns (t : Nat) : PumpAction :=
  if t % 3 = 0 then .advance else if t % 3 = 1 then .read .stdout 1 else .read .stderr 1

theorem advances_turns : Advances turns :=
  fun t => ⟨3 * t, by omega, if_pos (by omega)⟩

theorem drains_turns (s : OutputStream) : Drains turns s := by
  intro t
  cases s with
  | stdout => exact ⟨3 * t + 1, 1, by omega, by omega, by rw [turns, if_neg (by omega), if_pos (by omega)]⟩
  | stderr => exact ⟨3 * t + 2, 1, by omega, by omega, by rw [turns, if_neg (by omega), if_neg (by omega)]⟩

/-- Frames of all kinds. What follows the error is not handed out. -/
def mixedFrames : List (Except EngineFault OutputFrame) :=
  [.ok (.stdout [1, 2, 3]), .ok (.stderr [10, 11]), .ok (.stdin [7]), .ok (.stdout []), .ok (.console [4]),
    .ok (.stderr [12]), .error .unreachable, .ok (.stdout [5])]

/-- The frames come through pipes that hold one byte each. -/
theorem split_mixedFrames :
    0 < 1 ∧ Advances turns ∧ (∀ s, Drains turns s) ∧ (∀ t s, turns t ≠ .drop s) ∧
      (∃ T, ∀ t, T ≤ t → ((after 1 mixedFrames turns t).pipe .stdout).AtEnd ∧
        ((after 1 mixedFrames turns t).pipe .stdout).taken = [1, 2, 3, 4] ∧
        ((after 1 mixedFrames turns t).pipe .stderr).taken = [10, 11, 12]) ∧
      PluginOutput.drained mixedFrames = ⟨[1, 2, 3, 4], [10, 11, 12]⟩ := by
  have stay : ∀ t s, turns t ≠ .drop s := by
    intro t s
    unfold turns
    split_ifs <;> simp
  obtain ⟨-, -, ⟨T, ended⟩, kept⟩ := streams_split (by omega : 0 < 1) mixedFrames advances_turns drains_turns stay
  refine ⟨by omega, advances_turns, drains_turns, stay, ⟨T, fun t later => ?_⟩, kept⟩
  exact ⟨(ended t later .stdout).1, (ended t later .stdout).2, (ended t later .stderr).2⟩

end Pump

end ServiceKit
