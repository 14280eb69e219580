import ServiceKit.System.Fault

namespace ServiceKit

/-- A fixed number of permits. One that is given back goes to the task that has waited longest, and
counts as in use from then on, even before the task takes it up. Tasks are known by number. -/
structure PermitPool where
  size : Nat
  available : Nat
  queue : List Nat := []
  /-- The tasks that were handed a permit and have not taken it up. -/
  handed : List Nat := []
deriving Repr

namespace PermitPool

def defaultSize : Nat := 128

/-- The most permits that a pool can manage. -/
def limit : Nat := 0x1fffffffffffffff

/-- A count that is not positive means the default. -/
def sizeOf (permits : Int) : Nat :=
  if permits ≤ 0 then defaultSize else permits.toNat

def new (permits : Int) : Except Crash PermitPool :=
  if limit < sizeOf permits then .error .tooManyPermits
  else .ok { size := sizeOf permits, available := sizeOf permits }

def maxPermits (p : PermitPool) : Nat :=
  p.size

/-- The permits in use. -/
def currentPermits (p : PermitPool) : Nat :=
  p.size - p.available

/-- Takes a permit if one is free. -/
def tryAcquire (p : PermitPool) : Option PermitPool :=
  if 0 < p.available then some { p with available := p.available - 1 } else none

/-- Lets a task that wants a permit go on; tells whether it has it now. -/
def poll (task : Nat) (p : PermitPool) : PermitPool × Bool :=
  if task ∈ p.handed then ({ p with handed := p.handed.erase task }, true)
  else if task ∈ p.queue then (p, false)
  else match p.tryAcquire with
    | some p => (p, true)
    | none => ({ p with queue := p.queue ++ [task] }, false)

/-- A permit comes back. -/
def release (p : PermitPool) : PermitPool :=
  match p.queue with
  | [] => { p with available := p.available + 1 }
  | next :: rest => { p with queue := rest, handed := p.handed ++ [next] }

/-- A task gives up waiting; a permit that it was handed comes back. -/
def cancel (task : Nat) (p : PermitPool) : PermitPool :=
  if task ∈ p.handed then { p with handed := p.handed.erase task }.release
  else { p with queue := p.queue.erase task }

end PermitPool

end ServiceKit
