namespace ServiceKit

/-- A value that concurrent callers wait for. One permit lets one caller at a time run its own
initializer; the others queue for it in the order in which they came. Callers are known by number. -/
structure AwaitedMemo (α : Type) where
  value? : Option α := none
  runs : Nat := 0
  /-- The caller that has the permit. -/
  holder? : Option Nat := none
  /-- Whether the holder's initializer has started. -/
  started : Bool := false
  queue : List Nat := []
deriving Repr

namespace AwaitedMemo

def isInitialized (m : AwaitedMemo α) : Bool :=
  m.value?.isSome

/-- Hands the permit to the caller that has waited longest. -/
def release (m : AwaitedMemo α) : AwaitedMemo α :=
  match m.queue with
  | [] => { m with holder? := none, started := false }
  | next :: rest => { m with holder? := some next, started := false, queue := rest }

/-- Gives the permit to a caller and starts its initializer. -/
def start (caller : Nat) (m : AwaitedMemo α) : AwaitedMemo α :=
  { m with holder? := some caller, started := true, runs := m.runs + 1 }

/-- What comes of the running initializer, if it has an outcome by now. A failure goes to its own
caller alone and passes the permit on. -/
def finish (outcome? : Option (Except ε α)) (m : AwaitedMemo α) :
    AwaitedMemo α × Option (Except ε α) :=
  match outcome? with
  | none => (m, none)
  | some (.ok v) => ({ m with value? := some v, holder? := none, started := false }, some (.ok v))
  | some (.error e) => (m.release, some (.error e))

/-- Lets a caller go on as far as it can; `outcome?` is what its initializer, once started, has come to
by now. -/
def poll (caller : Nat) (outcome? : Option (Except ε α)) (m : AwaitedMemo α) :
    AwaitedMemo α × Option (Except ε α) :=
  match m.value? with
  | some v => ({ m with queue := m.queue.erase caller }, some (.ok v))
  | none =>
    if m.holder? = some caller then
      if m.started then m.finish outcome? else (m.start caller).finish outcome?
    else if caller ∈ m.queue then (m, none)
    else if m.holder? = none then (m.start caller).finish outcome?
    else ({ m with queue := m.queue ++ [caller] }, none)

/-- A caller goes away before it is finished. -/
def cancel (caller : Nat) (m : AwaitedMemo α) : AwaitedMemo α :=
  if m.holder? = some caller then m.release else { m with queue := m.queue.erase caller }

end AwaitedMemo

/-- A caller that is not finished: what its initializer comes to, and whether it has come to it. -/
structure AwaitingCaller (ε α : Type) where
  id : Nat
  name : String
  outcome : Except ε α
  ready : Bool
deriving Repr

/-- A memo with the callers that wait for it, in the order in which they began. -/
structure AwaitedCalls (ε α : Type) where
  memo : AwaitedMemo α := {}
  callers : List (AwaitingCaller ε α) := []
  next : Nat := 0
deriving Repr

namespace AwaitedCalls

def begin_ (name : String) (outcome : Except ε α) (ready : Bool) (w : AwaitedCalls ε α) :
    AwaitedCalls ε α :=
  { w with callers := w.callers ++ [⟨w.next, name, outcome, ready⟩], next := w.next + 1 }

def makeReady (name : String) (w : AwaitedCalls ε α) : AwaitedCalls ε α :=
  { w with callers := w.callers.map fun c => if c.name = name then { c with ready := true } else c }

def cancel (name : String) (w : AwaitedCalls ε α) : AwaitedCalls ε α :=
  match w.callers.find? (·.name == name) with
  | none => w
  | some c =>
    { w with memo := w.memo.cancel c.id, callers := w.callers.filter (·.id != c.id) }

/-- Polls each of the callers once; the finished ones come out with what they got. -/
def pass (memo : AwaitedMemo α) : List (AwaitingCaller ε α) →
    AwaitedMemo α × List (AwaitingCaller ε α) × List (String × Except ε α)
  | [] => (memo, [], [])
  | c :: rest =>
    let (memo, r) := memo.poll c.id (if c.ready then some c.outcome else none)
    let (memo, left, done) := pass memo rest
    match r with
    | none => (memo, c :: left, done)
    | some r => (memo, left, (c.name, r) :: done)

/-- Polls until a pass finishes none. Each other pass leaves fewer callers, so that as many passes as
there are callers are enough. -/
def settle (w : AwaitedCalls ε α) : AwaitedCalls ε α × List (String × Except ε α) :=
  go (w.callers.length + 1) w
where
  go : Nat → AwaitedCalls ε α → AwaitedCalls ε α × List (String × Except ε α)
    | 0, w => (w, [])
    | n + 1, w =>
      let (memo, left, done) := pass w.memo w.callers
      let w := { w with memo, callers := left }
      if done.isEmpty then (w, [])
      else
        let (w, more) := go n w
        (w, done ++ more)

end AwaitedCalls

end ServiceKit
