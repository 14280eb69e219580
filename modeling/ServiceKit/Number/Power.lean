namespace ServiceKit

/-- The powers of two. -/
abbrev pow2 (n : Nat) : Nat :=
  Nat.pow 2 n

/-- The powers of ten. -/
abbrev pow10 (n : Nat) : Nat :=
  Nat.pow 10 n

end ServiceKit
