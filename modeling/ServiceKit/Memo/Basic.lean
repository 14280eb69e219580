import ServiceKit.System.Fault

namespace ServiceKit

/-- What an initializer does on each of its runs, counted from zero. -/
abbrev Initializer (α : Type) := Nat → Except Crash α

/-- A value that is computed when it is first asked for, with the number of times an initializer
ran. -/
structure Memo (α : Type) where
  value? : Option α := none
  runs : Nat := 0
deriving Repr

namespace Memo

def isInitialized (m : Memo α) : Bool :=
  m.value?.isSome

/-- The value, from the initializer if there is none yet. A run that crashes leaves no value. -/
def getOrInit (init : Initializer α) (m : Memo α) : Memo α × Except Crash α :=
  match m.value? with
  | some v => (m, .ok v)
  | none =>
    match init m.runs with
    | .ok v => (⟨some v, m.runs + 1⟩, .ok v)
    | .error c => (⟨none, m.runs + 1⟩, .error c)

end Memo

end ServiceKit
