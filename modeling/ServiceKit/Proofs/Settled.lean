import Mathlib.Data.Nat.Init

namespace ServiceKit
variable {α β : Type} {rest : α → List Char} {left : β → List Char} {m n : Nat}

/-- Two readings come to the same, and what an answer leaves of the text is shorter than `n`. It is meant for
one reader with some steps and with one more. -/
def Settled (rest : α → List Char) (n : Nat) (p q : Option α) : Prop :=
  p = q ∧ ∀ a, p = some a → (rest a).length < n

namespace Settled

theorem none : Settled rest n none none :=
  ⟨rfl, nofun⟩

theorem some {a : α} (short : (rest a).length < n) : Settled rest n (some a) (some a) :=
  ⟨rfl, by rintro _ ⟨⟩; exact short⟩

/-- A reading that takes no steps. -/
theorem same {p : Option α} (short : ∀ a, p = Option.some a → (rest a).length < n) : Settled rest n p p :=
  ⟨rfl, short⟩

theorem mono {p q : Option α} (settled : Settled rest m p q) (longer : m ≤ n) : Settled rest n p q :=
  ⟨settled.1, fun a read => Nat.lt_of_lt_of_le (settled.2 a read) longer⟩

/-- A part that is settled, then the rest of each reading. -/
theorem bind {p q : Option α} {f g : α → Option β} (first : Settled rest m p q)
    (later : ∀ a, (rest a).length < m → Settled left n (f a) (g a)) : Settled left n (p >>= f) (q >>= g) := by
  obtain ⟨rfl, short⟩ := first
  cases p with
  | none => exact .none
  | some a => exact later a (short a rfl)

theorem map {p q : Option α} {f : α → β} (first : Settled rest m p q)
    (later : ∀ a, (rest a).length < m → (left (f a)).length < n) : Settled left n (p.map f) (q.map f) := by
  obtain ⟨rfl, short⟩ := first
  refine .same fun b read => ?_
  obtain ⟨a, given, rfl⟩ := Option.map_eq_some_iff.mp read
  exact later a (short a given)

/-- A part that takes no steps, then the rest of each reading. -/
theorem part {p : Option α} {f g : α → Option β}
    (later : ∀ a, p = Option.some a → Settled left n (f a) (g a)) : Settled left n (p >>= f) (p >>= g) := by
  cases p with
  | none => exact .none
  | some a => exact later a rfl

/-- Where one step more changes nothing, any number of them does not. -/
theorem eq_of_le {read : Nat → Option α} {enough : Nat}
    (settled : ∀ fuel, enough ≤ fuel → Settled rest n (read fuel) (read (fuel + 1))) {fuel : Nat}
    (more : enough ≤ fuel) : read fuel = read enough := by
  induction fuel, more using Nat.le_induction with
  | base => rfl
  | succ fuel more ih => rw [← ih, (settled fuel more).1]

end Settled

end ServiceKit
