import ServiceKit.Duration
import ServiceKit.Regexp.Interner

namespace ServiceKit

/-- A cache that keeps compiled patterns alive by itself, up to a capacity, until they have been idle
for too long. -/
structure PatternCache where
  idleTime : Duration
  capacity : Nat
  entries : List (String × Compiled) := []
  next : Nat := 0

namespace PatternCache

/-- The longest idle time: a thousand years of 365 days. -/
def longestIdle : Duration :=
  Duration.ofSecs (1000 * 365 * 24 * 3600)

def new (idleTime : Duration) (capacity : Nat) : Except Crash PatternCache :=
  if longestIdle.total < idleTime.total then .error .idleTimeTooLong
  else .ok { idleTime, capacity }

/-- Without capacity or idle time nothing stays. -/
def keeps (c : PatternCache) : Bool :=
  c.capacity ≠ 0 && c.idleTime.total ≠ 0

/-- The instance of a pattern, compiled if it is not there. -/
def get (pattern : String) (c : PatternCache) : PatternCache × Except PatternError Compiled :=
  match c.entries.find? (·.1 == pattern) with
  | some e => (c, .ok e.2)
  | none =>
    match Compiled.make Regexp.parse? c.next pattern with
    | .error e => (c, .error e)
    | .ok r =>
      let entries := if c.keeps then c.entries ++ [(pattern, r)] else c.entries
      ({ c with entries, next := c.next + 1 }, .ok r)

/-- Turns away the newcomers that are above the capacity. -/
def settle (c : PatternCache) : PatternCache :=
  { c with entries := c.entries.take c.capacity }

/-- The number of patterns, after those above the capacity are turned away. -/
def measure (c : PatternCache) : PatternCache × Nat :=
  (c.settle, c.settle.entries.length)

def clear (c : PatternCache) : PatternCache :=
  { c with entries := [] }

end PatternCache

end ServiceKit
