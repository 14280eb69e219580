import Mathlib.Tactic.SplitIfs
import ServiceKit.Container.Pump

namespace ServiceKit

namespace OutputFrame

/-- What a frame has for a stream. -/
def content (stream : OutputStream) : OutputFrame → Bytes
  | .stdout content => if stream = .stdout then content else []
  | .console content => if stream = .stdout then content else []
  | .stderr content => if stream = .stderr then content else []
  | .stdin _ => []

/-- A frame for one stream. -/
def of (content : Bytes) : OutputStream → OutputFrame
  | .stdout => .stdout content
  | .stderr => .stderr content

theorem content_of (content : Bytes) (s t : OutputStream) :
    (of content t).content s = if s = t then content else [] := by
  cases t <;> rfl

end OutputFrame

/-- What is left to do for a task, as frames; of the frame at work, what is not written yet. -/
def PumpTask.frames : PumpTask → List (Except EngineFault OutputFrame)
  | .receiving frames => frames
  | .writing stream content frames => .ok (.of content stream) :: frames
  | .closing _ => []

namespace Pump
variable {capacity n : Nat} {frames rest : List (Except EngineFault OutputFrame)} {frame : OutputFrame}
  {leaving : OutputStream → Bool} {s t : OutputStream} {content : Bytes} {p : Pump} {a : PumpAction}

/-! ### What is due to a reader -/

def brings (stream : OutputStream) : Except EngineFault OutputFrame → Bytes
  | .ok frame => frame.content stream
  | .error _ => []

/-- A frame that has nothing for the readers that are gone. An error never passes. -/
def passes (gone : OutputStream → Bool) : Except EngineFault OutputFrame → Bool
  | .ok frame => [OutputStream.stdout, .stderr].all fun s => !gone s || (frame.content s).isEmpty
  | .error _ => false

/-- What the frames before the first error have for a stream. -/
def carried (stream : OutputStream) (frames : List (Except EngineFault OutputFrame)) : Bytes :=
  (frames.takeWhile Except.isOk).flatMap (brings stream)

/-- What the frames have for a stream before the first that does not pass. -/
def delivered (gone : OutputStream → Bool) (stream : OutputStream)
    (frames : List (Except EngineFault OutputFrame)) : Bytes :=
  (frames.takeWhile (passes gone)).flatMap (brings stream)

theorem delivered_nil : delivered leaving s [] = [] :=
  rfl

theorem delivered_ok : delivered leaving s (.ok frame :: rest) =
    if passes leaving (.ok frame) then frame.content s ++ delivered leaving s rest else [] := by
  rw [delivered, List.takeWhile_cons]
  split_ifs <;> rfl

theorem passes_of (leaving : OutputStream → Bool) (content : Bytes) (t : OutputStream) :
    passes leaving (.ok (.of content t)) = true ↔ ¬ (leaving t = true ∧ content ≠ []) := by
  cases left : leaving t <;> cases t <;> simp [passes, OutputFrame.content, OutputFrame.of, left]

/-- The first of some frames is for one stream, and stops all when there is something in it for a reader that
is gone. -/
theorem ite_passes_of (leaving : OutputStream → Bool) (content later : Bytes) (s t : OutputStream) :
    (if passes leaving (.ok (.of content t)) then (OutputFrame.of content t).content s ++ later else []) =
      if leaving t = true ∧ content ≠ [] then [] else (if s = t then content else []) ++ later := by
  rw [OutputFrame.content_of]
  by_cases stopped : leaving t = true ∧ content ≠ []
  · rw [if_neg (mt (passes_of ..).mp (not_not_intro stopped)), if_pos stopped]
  · rw [if_pos ((passes_of ..).mpr stopped), if_neg stopped]

theorem delivered_of : delivered leaving s (.ok (.of content t) :: rest) =
    if leaving t = true ∧ content ≠ [] then [] else (if s = t then content else []) ++ delivered leaving s rest := by
  rw [delivered_ok, ite_passes_of]

/-- With both readers there, all is delivered that comes before the first error. -/
theorem delivered_none : delivered (fun _ => false) s frames = carried s frames := by
  have same : passes (fun _ => false) = Except.isOk := by
    funext frame
    cases frame <;> rfl
  rw [delivered, carried, same]

theorem delivered_write : delivered leaving s (PumpTask.write t content rest).frames =
    delivered leaving s (.ok (.of content t) :: rest) := by
  unfold PumpTask.write
  split_ifs with empty
  · simp [delivered_of, empty, PumpTask.frames]
  · rfl

theorem delivered_next : delivered leaving s (PumpTask.next frame rest).frames =
    delivered leaving s (.ok frame :: rest) := by
  cases frame with
  | stdout content => exact delivered_write
  | console content =>
    rw [PumpTask.next, delivered_write, delivered_ok, delivered_ok]
    rfl
  | stderr content => exact delivered_write
  | stdin content => simp [PumpTask.next, PumpTask.frames, delivered_ok, passes, OutputFrame.content]

/-! ### The pipes -/

theorem pipe_onPipe (f : Pipe → Pipe) :
    (p.onPipe t f).pipe s = if s = t then f (p.pipe s) else p.pipe s :=
  rfl

theorem pipe_onPipe_self (f : Pipe → Pipe) : (p.onPipe s f).pipe s = f (p.pipe s) :=
  if_pos rfl

theorem pipe_onPipe_other (other : s ≠ t) (f : Pipe → Pipe) : (p.onPipe t f).pipe s = p.pipe s :=
  if_neg other

/-- What an operation on pipes leaves alone, it leaves alone in all pipes. -/
theorem onPipe_keeps {α : Type} (f : Pipe → Pipe) (field : Pipe → α) (keeps : ∀ q, field (f q) = field q) :
    field ((p.onPipe t f).pipe s) = field (p.pipe s) := by
  rw [pipe_onPipe]
  split_ifs
  · exact keeps _
  · rfl

theorem shut_read (q : Pipe) : (q.read n).shut = q.shut := by
  unfold Pipe.read
  split_ifs <;> rfl

theorem dropped_read (q : Pipe) : (q.read n).dropped = q.dropped := by
  unfold Pipe.read
  split_ifs <;> rfl

/-- What a reader has got with what it can get stays the same when it reads. -/
theorem taken_read_append (q : Pipe) : (q.read n).taken ++ (q.read n).buffer = q.taken ++ q.buffer := by
  unfold Pipe.read
  split_ifs
  · rfl
  · simp [List.take_append_drop]

theorem read_eq_self {q : Pipe} (idle : q.buffer = [] ∨ q.dropped = true ∨ n = 0) : q.read n = q := by
  unfold Pipe.read
  split_ifs with dropped
  · rfl
  · obtain ⟨buffer, taken, shut, dropped'⟩ := q
    rcases idle with rfl | gone | rfl
    · simp
    · exact absurd gone dropped
    · simp

/-- The readers that are gone. -/
def gone (p : Pump) (stream : OutputStream) : Bool :=
  (p.pipe stream).dropped

/-- What the reader of a stream has or will have, if nobody goes any more: what it has read, what it can
read, and what is delivered of what is left to write. -/
def owed (p : Pump) (stream : OutputStream) : Bytes :=
  (p.pipe stream).taken ++ (p.pipe stream).buffer ++ delivered p.gone stream p.task.frames

/-- A pump on its way: what is being written is not empty, and the pipes are shut at the end, one by one. -/
structure Orderly (p : Pump) : Prop where
  nonempty : ∀ s content rest, p.task = .writing s content rest → content ≠ []
  closing : ∀ s, (p.pipe s).shut = true → ∃ left, p.task = .closing left
  remaining : ∀ left, p.task = .closing left → ∀ s, (p.pipe s).shut = true ∨ s ∈ left

theorem orderly_new (frames : List (Except EngineFault OutputFrame)) : Orderly (new frames) where
  nonempty := by rintro s content rest ⟨⟩
  closing := by rintro s ⟨⟩
  remaining := by rintro left ⟨⟩

/-- How a task goes on that has not come to its end: it takes a frame, it writes something, or it goes to its
end with both pipes still to be shut. -/
inductive Goes : PumpTask → Prop where
  | receiving (frames : List (Except EngineFault OutputFrame)) : Goes (.receiving frames)
  | writing (s : OutputStream) {content : Bytes} (rest : List (Except EngineFault OutputFrame))
      (nonempty : content ≠ []) : Goes (.writing s content rest)
  | finish : Goes .finish

theorem goes_write (s : OutputStream) (content : Bytes) (rest : List (Except EngineFault OutputFrame)) :
    Goes (PumpTask.write s content rest) := by
  unfold PumpTask.write
  split_ifs with empty
  · exact .receiving rest
  · exact .writing s rest empty

theorem goes_next (frame : OutputFrame) (rest : List (Except EngineFault OutputFrame)) :
    Goes (PumpTask.next frame rest) := by
  cases frame with
  | stdout content => exact goes_write _ _ _
  | console content => exact goes_write _ _ _
  | stderr content => exact goes_write _ _ _
  | stdin content => exact .receiving rest

/-- No pipe is shut before the end. -/
theorem Orderly.go {q : Pump} (orderly : Orderly p) (busy : ∀ left, p.task ≠ .closing left)
    (shut : ∀ s, (q.pipe s).shut = (p.pipe s).shut) (goes : Goes q.task) : Orderly q := by
  have unshut : ∀ s, (q.pipe s).shut ≠ true := by
    intro s isShut
    obtain ⟨left, ending⟩ := orderly.closing s ((shut s).symm.trans isShut)
    exact busy left ending
  refine ⟨?_, fun s isShut => absurd isShut (unshut s), ?_⟩
  · intro s content rest task
    rw [task] at goes
    cases goes with
    | writing _ _ nonempty => exact nonempty
  · intro left task s
    rw [task] at goes
    cases goes
    exact Or.inr (by cases s <;> simp)

theorem orderly_act (orderly : Orderly p) (a : PumpAction) : Orderly (p.act capacity a) := by
  cases a with
  | read s n =>
    have shut : ∀ t, ((p.onPipe s (Pipe.read n)).pipe t).shut = (p.pipe t).shut :=
      fun t => onPipe_keeps _ Pipe.shut shut_read
    exact ⟨orderly.nonempty, fun t isShut => orderly.closing t ((shut t).symm.trans isShut),
      fun left task t => (orderly.remaining left task t).imp_left (shut t).trans⟩
  | drop s =>
    have shut : ∀ t, ((p.onPipe s Pipe.drop).pipe t).shut = (p.pipe t).shut :=
      fun t => onPipe_keeps _ Pipe.shut fun _ => rfl
    exact ⟨orderly.nonempty, fun t isShut => orderly.closing t ((shut t).symm.trans isShut),
      fun left task t => (orderly.remaining left task t).imp_left (shut t).trans⟩
  | advance =>
    unfold act advance
    cases task : p.task with
    | receiving frames =>
      have busy : ∀ left, p.task ≠ .closing left := by simp [task]
      cases frames with
      | nil => exact orderly.go busy (fun s => rfl) .finish
      | cons frame rest =>
        cases frame with
        | error fault => exact orderly.go busy (fun s => rfl) .finish
        | ok frame => exact orderly.go busy (fun s => rfl) (goes_next frame rest)
    | writing s content rest =>
      have busy : ∀ left, p.task ≠ .closing left := by simp [task]
      dsimp only
      split_ifs
      · exact orderly.go busy (fun s => rfl) .finish
      · exact orderly.go busy (fun t => onPipe_keeps _ Pipe.shut fun _ => rfl) (goes_write _ _ _)
    | closing left =>
      cases left with
      | nil => exact orderly
      | cons s left =>
        refine ⟨by simp, fun t _ => ⟨left, rfl⟩, ?_⟩
        rintro left ⟨⟩ t
        simp only [pipe_onPipe]
        split_ifs with same
        · exact Or.inl rfl
        · exact (orderly.remaining _ task t).imp_right fun member => List.mem_of_ne_of_mem same member

/-! ### What stays owed -/

theorem gone_advance (capacity : Nat) (p : Pump) : (p.advance capacity).gone = p.gone := by
  funext s
  unfold advance gone
  split
  · rfl
  · rfl
  · rfl
  · dsimp only
    split_ifs
    · rfl
    · exact onPipe_keeps _ Pipe.dropped fun _ => rfl
  · rfl
  · exact onPipe_keeps _ Pipe.dropped fun _ => rfl

/-- The task does not change what a reader will have. -/
theorem owed_advance (orderly : Orderly p) (s : OutputStream) : (p.advance capacity).owed s = p.owed s := by
  unfold owed
  rw [gone_advance]
  unfold advance
  cases task : p.task with
  | receiving frames =>
    cases frames with
    | nil => rfl
    | cons frame rest =>
      cases frame with
      | error fault => rfl
      | ok frame => exact congrArg _ delivered_next
  | writing t content rest =>
    have nonempty := orderly.nonempty t content rest task
    dsimp only
    split_ifs with dropped
    · have stopped : delivered p.gone s (PumpTask.writing t content rest).frames = [] := by
        rw [PumpTask.frames, delivered_of, if_pos ⟨dropped, nonempty⟩]
      rw [stopped]
      rfl
    · have before : delivered p.gone s (PumpTask.writing t content rest).frames =
          (if s = t then content else []) ++ delivered p.gone s rest := by
        rw [PumpTask.frames, delivered_of, if_neg fun stopped => dropped stopped.1]
      have later (left : Bytes) : delivered p.gone s (PumpTask.write t left rest).frames =
          (if s = t then left else []) ++ delivered p.gone s rest := by
        rw [delivered_write, delivered_of, if_neg fun stopped => dropped stopped.1]
      rw [before, later, pipe_onPipe]
      split_ifs with same
      · simp only [Pipe.write, List.append_assoc]
        rw [← List.append_assoc (content.take _), List.take_append_drop]
      · rfl
  | closing left =>
    cases left with
    | nil => simp only [task]
    | cons t left =>
      dsimp only
      rw [pipe_onPipe]
      split_ifs <;> rfl

theorem onPipe_eq_self {f : Pipe → Pipe} (same : f (p.pipe s) = p.pipe s) : p.onPipe s f = p := by
  have pipes : (p.onPipe s f).pipe = p.pipe := by
    funext t
    rw [pipe_onPipe]
    split_ifs with here
    · rw [here, same]
    · rfl
  exact congrArg (Pump.mk p.task) pipes

theorem drop_eq_self (gone : p.gone s = true) : p.onPipe s Pipe.drop = p := by
  refine onPipe_eq_self ?_
  have dropped : (p.pipe s).dropped = true := gone
  rw [Pipe.drop, ← dropped]

/-- As long as nobody else goes, what a reader will have stays the same. -/
theorem owed_act (orderly : Orderly p) (stay : ∀ t, a = .drop t → p.gone t = true) (s : OutputStream) :
    (p.act capacity a).owed s = p.owed s := by
  cases a with
  | advance => exact owed_advance orderly s
  | drop t => rw [act, drop_eq_self (stay t rfl)]
  | read t n =>
    have same : (p.onPipe t (Pipe.read n)).gone = p.gone :=
      funext fun s => onPipe_keeps _ Pipe.dropped dropped_read
    unfold owed
    rw [act, same, onPipe_keeps (Pipe.read n) (fun q => q.taken ++ q.buffer) taken_read_append]
    rfl

theorem taken_of_atEnd (orderly : Orderly p) (atEnd : (p.pipe s).AtEnd) : (p.pipe s).taken = p.owed s := by
  obtain ⟨read, shut⟩ := atEnd
  obtain ⟨left, task⟩ := orderly.closing s shut
  rw [owed, read, task, PumpTask.frames, delivered_nil]
  simp

/-! ### The end comes -/

/-- How many steps a frame can take at most. -/
def frameWork : Except EngineFault OutputFrame → Nat
  | .ok frame => 2 * ((frame.content .stdout).length + (frame.content .stderr).length) + 2
  | .error _ => 2

def framesWork : List (Except EngineFault OutputFrame) → Nat
  | [] => 0
  | frame :: rest => frameWork frame + framesWork rest

def taskWork : PumpTask → Nat
  | .receiving frames => framesWork frames + 3
  | .writing _ content frames => 2 * content.length + 1 + framesWork frames + 3
  | .closing left => left.length

def pipeWork (q : Pipe) : Nat :=
  q.buffer.length + if q.dropped then 0 else 1

/-- How many steps a pump can take at most. A byte counts twice before it is written, for it has to be read
after that. -/
def work (p : Pump) : Nat :=
  taskWork p.task + pipeWork (p.pipe .stdout) + pipeWork (p.pipe .stderr)

theorem work_move (p : Pump) (s : OutputStream) (f : Pipe → Pipe) (task : PumpTask) :
    { p.onPipe s f with task := task }.work + taskWork p.task + pipeWork (p.pipe s) =
      p.work + taskWork task + pipeWork (f (p.pipe s)) := by
  cases s <;> simp [work, onPipe] <;> omega

theorem pipeWork_write (content : Bytes) (q : Pipe) : pipeWork (q.write content) = pipeWork q + content.length := by
  dsimp only [pipeWork, Pipe.write]
  rw [List.length_append]
  omega

theorem taskWork_write_le (s : OutputStream) (content : Bytes) (rest : List (Except EngineFault OutputFrame)) :
    taskWork (PumpTask.write s content rest) ≤ 2 * content.length + 1 + framesWork rest + 3 := by
  unfold PumpTask.write
  split_ifs
  · simp only [taskWork]
    omega
  · exact Nat.le_refl _

theorem taskWork_next_lt (frame : OutputFrame) (rest : List (Except EngineFault OutputFrame)) :
    taskWork (PumpTask.next frame rest) < taskWork (.receiving (.ok frame :: rest)) := by
  cases frame with
  | stdout content | console content =>
    have bound := taskWork_write_le .stdout content rest
    simp only [PumpTask.next, taskWork, framesWork, frameWork, OutputFrame.content] at bound ⊢
    simp at bound ⊢
    omega
  | stderr content =>
    have bound := taskWork_write_le .stderr content rest
    simp only [PumpTask.next, taskWork, framesWork, frameWork, OutputFrame.content] at bound ⊢
    simp at bound ⊢
    omega
  | stdin content =>
    simp [PumpTask.next, taskWork, framesWork, frameWork, OutputFrame.content]

/-- The task is at its end, or waits for room in a pipe whose reader is there. -/
def Waiting (capacity : Nat) (p : Pump) : Prop :=
  p.task = .closing [] ∨
    ∃ s content rest, p.task = .writing s content rest ∧ p.gone s = false ∧ capacity ≤ (p.pipe s).buffer.length

theorem advance_progress (orderly : Orderly p) (capacity : Nat) :
    Waiting capacity p ∧ p.advance capacity = p ∨ (p.advance capacity).work < p.work := by
  unfold advance
  cases task : p.task with
  | receiving frames =>
    refine Or.inr ?_
    cases frames with
    | nil => simp [work, taskWork, task, PumpTask.finish]
    | cons frame rest =>
      cases frame with
      | error fault =>
        simp only [work, taskWork, task, PumpTask.finish, framesWork, frameWork, List.length_cons, List.length_nil]
        omega
      | ok frame =>
        have less := taskWork_next_lt frame rest
        simp only [work, task]
        omega
  | writing s content rest =>
    have nonempty := orderly.nonempty s content rest task
    dsimp only
    split_ifs with dropped
    · refine Or.inr ?_
      simp [work, taskWork, task, PumpTask.finish]
    · generalize roomEq : capacity - (p.pipe s).buffer.length = room
      cases room with
      | zero =>
        have same : p.onPipe s (Pipe.write (content.take 0)) = p :=
          onPipe_eq_self (by simp [Pipe.write])
        refine Or.inl ⟨Or.inr ⟨s, content, rest, task, eq_false_of_ne_true dropped, by omega⟩, ?_⟩
        rw [same, List.drop_zero, PumpTask.write, if_neg nonempty, ← task]
      | succ room =>
        refine Or.inr ?_
        have moved := work_move p s (Pipe.write (content.take (room + 1)))
          (PumpTask.write s (content.drop (room + 1)) rest)
        have left := taskWork_write_le s (content.drop (room + 1)) rest
        have positive := List.length_pos_iff.mpr nonempty
        have before : taskWork p.task = 2 * content.length + 1 + framesWork rest + 3 := by rw [task, taskWork]
        rw [pipeWork_write, List.length_take, before] at moved
        rw [List.length_drop] at left
        dsimp only at moved ⊢
        omega
  | closing left =>
    cases left with
    | nil => exact Or.inl ⟨Or.inl task, rfl⟩
    | cons s left =>
      refine Or.inr ?_
      have moved := work_move p s Pipe.shutDown (.closing left)
      have same : pipeWork (p.pipe s).shutDown = pipeWork (p.pipe s) := rfl
      rw [same, task, taskWork, taskWork, List.length_cons] at moved
      dsimp only at moved ⊢
      omega

theorem read_progress (p : Pump) (s : OutputStream) (n : Nat) :
    ((p.pipe s).buffer = [] ∨ p.gone s = true ∨ n = 0) ∧ p.onPipe s (Pipe.read n) = p ∨
      (p.onPipe s (Pipe.read n)).work < p.work := by
  by_cases idle : (p.pipe s).buffer = [] ∨ p.gone s = true ∨ n = 0
  · exact Or.inl ⟨idle, onPipe_eq_self (read_eq_self idle)⟩
  · refine Or.inr ?_
    obtain ⟨filled, here, some⟩ : (p.pipe s).buffer ≠ [] ∧ ¬ (p.pipe s).dropped = true ∧ n ≠ 0 := by
      simpa [gone] using idle
    have moved := work_move p s (Pipe.read n) p.task
    have positive := List.length_pos_iff.mpr filled
    have read : pipeWork ((p.pipe s).read n) + min n (p.pipe s).buffer.length = pipeWork (p.pipe s) := by
      simp only [Pipe.read, if_neg here, pipeWork, List.length_drop]
      omega
    change (p.onPipe s (Pipe.read n)).work + _ + _ = _ at moved
    omega

theorem act_progress (orderly : Orderly p) (a : PumpAction) :
    p.act capacity a = p ∨ (p.act capacity a).work < p.work := by
  cases a with
  | advance => exact (advance_progress orderly capacity).imp_left And.right
  | read s n => exact (read_progress p s n).imp_left And.right
  | drop s =>
    by_cases gone : p.gone s = true
    · exact Or.inl (drop_eq_self gone)
    · refine Or.inr ?_
      have here : ¬ (p.pipe s).dropped = true := gone
      have moved := work_move p s Pipe.drop p.task
      have less : pipeWork (p.pipe s).drop + 1 = pipeWork (p.pipe s) := by
        simp [pipeWork, Pipe.drop, here]
      change (p.onPipe s Pipe.drop).work + _ + _ = _ at moved
      change (p.onPipe s Pipe.drop).work < _
      omega

end Pump
end ServiceKit
