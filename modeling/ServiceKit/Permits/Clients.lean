import ServiceKit.Json.Basic
import ServiceKit.Permits.Pool

namespace ServiceKit

/-- A pool with those who use it: the names under which permits are held, and the tasks that wait, in
the order in which they began. -/
structure PermitClients where
  pool : PermitPool
  held : List String := []
  waiting : List (Nat × String) := []
  next : Nat := 0
deriving Repr

namespace PermitClients

def release (w : PermitClients) : PermitClients :=
  { w with pool := w.pool.release }

/-- Puts a permit just acquired under a name. A permit that was there comes back; tells whether there
was none. -/
def hold (name : String) (w : PermitClients) : PermitClients × Bool :=
  if name ∈ w.held then (w.release, false) else ({ w with held := name :: w.held }, true)

/-- Tries to acquire a permit under a name; tells whether one was acquired, and whether it is the only
one under that name. -/
def tryHold (name : String) (w : PermitClients) : PermitClients × Bool × Bool :=
  match w.pool.tryAcquire with
  | none => (w, false, false)
  | some pool =>
    let (w, alone) := { w with pool }.hold name
    (w, true, alone)

/-- Starts a task that waits for a permit. -/
def wait (name : String) (w : PermitClients) : PermitClients :=
  { w with waiting := w.waiting ++ [(w.next, name)], next := w.next + 1 }

def drop (name : String) (w : PermitClients) : PermitClients × Bool :=
  if name ∈ w.held then ({ w with held := w.held.erase name }.release, true) else (w, false)

def cancel (name : String) (w : PermitClients) : PermitClients × Bool :=
  match w.waiting.find? (·.2 == name) with
  | none => (w, false)
  | some (id, _) =>
    ({ w with pool := w.pool.cancel id, waiting := w.waiting.filter (·.1 != id) }, true)

/-- Gives all held permits back. -/
def clear (w : PermitClients) : PermitClients :=
  { w with held := [], pool := w.held.foldl (fun p _ => p.release) w.pool }

/-- Acquires under a name with each number below `count`; tells how many permits were acquired. -/
def fill (lead : String) (count : Nat) (w : PermitClients) : PermitClients × Nat :=
  (List.range count).foldl (fun (w, n) i =>
    let digits := toString i
    let (w, got, _) := w.tryHold (lead ++ "".pushn '0' (4 - digits.length) ++ digits)
    (w, if got then n + 1 else n)) (w, 0)

/-- Polls each of the given tasks once; the names of those that acquired come out. -/
def pass (w : PermitClients) : List (Nat × String) → PermitClients × List String
  | [] => (w, [])
  | (id, name) :: rest =>
    match w.pool.poll id with
    | (pool, true) =>
      let w := { w with pool, waiting := w.waiting.filter (·.1 != id) }
      let (w, names) := pass (w.hold name).1 rest
      (w, name :: names)
    | (pool, false) => pass { w with pool } rest

/-- Polls until a pass finishes none. -/
def settle (w : PermitClients) : PermitClients × List String :=
  go (w.waiting.length + 1) w
where
  go : Nat → PermitClients → PermitClients × List String
    | 0, w => (w, [])
    | n + 1, w =>
      let (w, names) := pass w w.waiting
      if names.isEmpty then (w, [])
      else
        let (w, more) := go n w
        (w, names ++ more)

end PermitClients

end ServiceKit
