import ServiceKit.Container.Output

namespace ServiceKit

/-- The streams that a plugin's output is split into. -/
inductive OutputStream where
  | stdout
  | stderr
deriving DecidableEq, Repr

/-- The way to the reader of one stream: what is written and not yet read, and what was read. The writer
shuts it after its last byte; the reader may drop it at any time. -/
structure Pipe where
  buffer : Bytes := []
  taken : Bytes := []
  shut : Bool := false
  dropped : Bool := false
deriving DecidableEq, Repr

namespace Pipe

def write (content : Bytes) (p : Pipe) : Pipe :=
  { p with buffer := p.buffer ++ content }

/-- Takes as much as there is, up to a number of bytes. -/
def read (n : Nat) (p : Pipe) : Pipe :=
  if p.dropped then p
  else { p with buffer := p.buffer.drop n, taken := p.taken ++ p.buffer.take n }

def shutDown (p : Pipe) : Pipe :=
  { p with shut := true }

def drop (p : Pipe) : Pipe :=
  { p with dropped := true }

/-- The reader has read all that was written, and learns that nothing more comes. -/
def AtEnd (p : Pipe) : Prop :=
  p.buffer = [] ∧ p.shut = true

end Pipe

/-- What is left to do for the task that splits the output: to take the next frame, to write what is left of
a frame, or to shut the pipes. -/
inductive PumpTask where
  | receiving (frames : List (Except EngineFault OutputFrame))
  | writing (stream : OutputStream) (content : Bytes) (frames : List (Except EngineFault OutputFrame))
  | closing (streams : List OutputStream)
deriving Repr

namespace PumpTask

def finish : PumpTask :=
  .closing [.stdout, .stderr]

/-- Where there is nothing to write, the pipe is not asked. -/
def write (stream : OutputStream) (content : Bytes) (frames : List (Except EngineFault OutputFrame)) :
    PumpTask :=
  if content = [] then .receiving frames else .writing stream content frames

def next (frame : OutputFrame) (frames : List (Except EngineFault OutputFrame)) : PumpTask :=
  match frame with
  | .stdout content => write .stdout content frames
  | .console content => write .stdout content frames
  | .stderr content => write .stderr content frames
  | .stdin _ => .receiving frames

end PumpTask

/-- The task that splits a container's output, with the pipes to the two readers. -/
structure Pump where
  task : PumpTask
  pipe : OutputStream → Pipe := fun _ => {}

/-- What happens next to a pump: its task goes on, a reader reads, or a reader goes away. -/
inductive PumpAction where
  | advance
  | read (stream : OutputStream) (n : Nat)
  | drop (stream : OutputStream)
deriving DecidableEq, Repr

namespace Pump

/-- How much a pipe holds in a container's runner. -/
def runnerCapacity : Nat := 65536

def new (frames : List (Except EngineFault OutputFrame)) : Pump :=
  { task := .receiving frames }

def onPipe (p : Pump) (stream : OutputStream) (f : Pipe → Pipe) : Pump :=
  { p with pipe := fun s => if s = stream then f (p.pipe s) else p.pipe s }

/-- One step of the task. It writes as much as the pipe has room for, and waits if there is none. An error
among the frames, or a reader that is gone when something is to be written for it, ends its work. -/
def advance (capacity : Nat) (p : Pump) : Pump :=
  match p.task with
  | .receiving [] => { p with task := .finish }
  | .receiving (.error _ :: _) => { p with task := .finish }
  | .receiving (.ok frame :: rest) => { p with task := .next frame rest }
  | .writing stream content rest =>
    if (p.pipe stream).dropped then { p with task := .finish }
    else
      let room := capacity - (p.pipe stream).buffer.length
      { p.onPipe stream (Pipe.write (content.take room)) with
        task := .write stream (content.drop room) rest }
  | .closing [] => p
  | .closing (stream :: rest) => { p.onPipe stream Pipe.shutDown with task := .closing rest }

def act (capacity : Nat) (p : Pump) : PumpAction → Pump
  | .advance => p.advance capacity
  | .read stream n => p.onPipe stream (Pipe.read n)
  | .drop stream => p.onPipe stream Pipe.drop

/-- The pump after some actions of a schedule. -/
def after (capacity : Nat) (frames : List (Except EngineFault OutputFrame)) (schedule : Nat → PumpAction) :
    Nat → Pump
  | 0 => new frames
  | t + 1 => (after capacity frames schedule t).act capacity (schedule t)

end Pump

end ServiceKit
