import ServiceKit.Memo.Basic

namespace ServiceKit

/-- A function with an initializer of its own, which may be tried once. The outcome of an initializer
that can fail is a value like any other. -/
structure Once (α : Type) where
  memo : Memo α := {}
  spent : Bool := false
deriving Repr

namespace Once

/-- Calls the function: the first call tries the initializer, all later ones return what it gave. If it
crashed, it is not tried again. -/
def call (init : Initializer α) (o : Once α) : Once α × Except Crash α :=
  if !o.memo.isInitialized && o.spent then (o, .error .initializerSpent)
  else
    let (memo, r) := o.memo.getOrInit init
    (⟨memo, true⟩, r)

/-- The outcomes of a number of calls, each with the runs of the initializer so far. -/
def calls (init : Initializer α) : Nat → Once α → List (Except Crash α × Nat)
  | 0, _ => []
  | n + 1, o =>
    let (o, r) := o.call init
    (r, o.memo.runs) :: calls init n o

end Once

end ServiceKit
