import ServiceKit.Json.Basic
import ServiceKit.Regexp.Matcher
import ServiceKit.Regexp.Reader
import ServiceKit.System.Fault
import ServiceKit.Text.Quoted

namespace ServiceKit

/-- A pattern that does not compile. -/
structure PatternError where
  pattern : String
deriving DecidableEq, Repr

namespace PatternError

def context (e : PatternError) : String :=
  Text.quoted e.pattern

end PatternError

/-- A compiled pattern. Each compilation makes an instance with a number of its own. -/
structure Compiled where
  id : Nat
  pattern : String
  expr : Regexp
deriving Repr

namespace Compiled

/-- An instance of the expression that `read` finds in a pattern. -/
def make (read : String → Option Regexp) (id : Nat) (pattern : String) : Except PatternError Compiled :=
  match read pattern with
  | some expr => .ok ⟨id, pattern, expr⟩
  | none => .error ⟨pattern⟩

def isMatch (c : Compiled) (text : String) : Bool :=
  c.expr.isMatch text

end Compiled

/-- A map from patterns to instances that others keep alive. An entry whose instance is no longer held
stays until a sweep; a sweep is due when the map reaches a mark. -/
structure Interner where
  entries : List (String × Compiled)
  sweepAt : Nat
  minSweep : Nat
deriving Repr

structure InternerStats where
  entries : Nat
  live : Nat
deriving DecidableEq, Repr

namespace Interner

def defaultThreshold : Nat := 256

def withThreshold (threshold : Nat) : Interner :=
  ⟨[], max threshold 1, max threshold 1⟩

def new : Interner :=
  withThreshold defaultThreshold

/-- The entries of instances that are held. -/
def liveEntries (held : Compiled → Bool) (entries : List (String × Compiled)) :
    List (String × Compiled) :=
  entries.filter fun e => held e.2

/-- Removes dead entries once the map has reached its mark, and moves the mark to twice what is
left. -/
def sweep (held : Compiled → Bool) (i : Interner) : Interner :=
  if i.sweepAt ≤ i.entries.length then
    let live := liveEntries held i.entries
    { i with entries := live, sweepAt := max (2 * live.length) i.minSweep }
  else i

/-- The instance of a pattern that someone holds, else a new one under the number `next`. The new
instance counts as held, because the caller has it. -/
def compile (read : String → Option Regexp) (held : Compiled → Bool) (next : Nat) (pattern : String)
    (i : Interner) : Interner × Except PatternError Compiled :=
  match (Json.lookup pattern i.entries).filter held with
  | some c => (i, .ok c)
  | none =>
    match Compiled.make read next pattern with
    | .error e => (i, .error e)
    | .ok c =>
      let i := { i with entries := Json.insert pattern c i.entries }
      (i.sweep fun d => d.id == c.id || held d, .ok c)

def stats (held : Compiled → Bool) (i : Interner) : InternerStats :=
  ⟨i.entries.length, (liveEntries held i.entries).length⟩

end Interner

/-- An interner with the handles that its callers hold, one instance for each handle, and the number
of the next instance. -/
structure Interning where
  interner : Interner
  handles : List Compiled := []
  next : Nat := 0
deriving Repr

namespace Interning

def isHeld (w : Interning) (c : Compiled) : Bool :=
  w.handles.any (·.id == c.id)

/-- A caller asks for a pattern, which `read` would have to read, and gets a handle. -/
def compileWith (read : String → Option Regexp) (pattern : String) (w : Interning) :
    Interning × Except PatternError Compiled :=
  match w.interner.compile read w.isHeld w.next pattern with
  | (i, .ok c) => (⟨i, c :: w.handles, max w.next (c.id + 1)⟩, .ok c)
  | (i, .error e) => ({ w with interner := i }, .error e)

def compile : String → Interning → Interning × Except PatternError Compiled :=
  compileWith Regexp.parse?

/-- A caller gives back one handle of an instance. -/
def drop (c : Compiled) (w : Interning) : Interning :=
  { w with handles := w.handles.eraseP (·.id == c.id) }

def stats (w : Interning) : InternerStats :=
  w.interner.stats w.isHeld

end Interning

end ServiceKit
