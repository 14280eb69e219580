import ServiceKit.Number.Binary64

namespace ServiceKit

/-- A span of time as a count of nanoseconds. -/
structure Duration where
  total : Nat
deriving DecidableEq, Repr

namespace Duration

def nanosPerSecond : Nat := 1000000000

def zero : Duration := ⟨0⟩

def ofSecs (n : Nat) : Duration := ⟨n * nanosPerSecond⟩

def ofMillis (n : Nat) : Duration := ⟨n * 1000000⟩

def secs (d : Duration) : Nat := d.total / nanosPerSecond

/-- The part below a second. -/
def nanos (d : Duration) : Nat := d.total % nanosPerSecond

/-- The first count that the whole seconds, a 64-bit number, cannot hold. -/
def limit : Nat := 0x10000000000000000 * nanosPerSecond

def ofTotal? (n : Nat) : Option Duration :=
  if n < limit then some ⟨n⟩ else none

/-- A non-negative number of seconds to the nearest nanosecond, a half to the even neighbour. -/
def ofSeconds? (x : Binary64) : Option Duration :=
  let (n, d) := x.ratio
  ofTotal? (Binary64.roundHalfEven (n * nanosPerSecond) d)

/-- The seconds as a number with a fraction: the whole seconds and the fraction are rounded each, and
then their sum. -/
def toSeconds (d : Duration) : Binary64 :=
  let whole := Binary64.ofInt d.secs
  let fraction := (Binary64.ofRatio? false d.nanos nanosPerSecond).getD (Binary64.zero false)
  (whole.addMagnitudes? fraction).getD whole

end Duration

end ServiceKit
