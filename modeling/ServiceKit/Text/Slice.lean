import ServiceKit.System.Fault

namespace ServiceKit.Text

/-- The bytes of a text in UTF-8. -/
def byteLength : List Char → Nat
  | [] => 0
  | c :: rest => c.utf8Size + byteLength rest

/-- Cuts a text behind a number of bytes. There is no cut inside a character or beyond the end. -/
def cutAt (index : Nat) : Nat → List Char → Except Crash (List Char × List Char)
  | 0, s => .ok ([], s)
  | _ + 1, [] => .error (.noCharBoundary index)
  | n + 1, c :: rest =>
    if c.utf8Size ≤ n + 1 then
      (cutAt index (n + 1 - c.utf8Size) rest).map fun parts => (c :: parts.1, parts.2)
    else .error (.noCharBoundary index)

/-- Where the first character of a kind starts, or else where the text ends. -/
def findByte (p : Char → Bool) : List Char → Nat
  | [] => 0
  | c :: rest => if p c then 0 else c.utf8Size + findByte p rest

/-- Cuts a text before the first character of a kind. -/
def cutBefore (p : Char → Bool) (s : List Char) : Except Crash (List Char × List Char) :=
  let index := findByte p s
  cutAt index index s

theorem cutAt_cons (index n : Nat) (c : Char) (rest : List Char) :
    cutAt index (c.utf8Size + n) (c :: rest) =
      (cutAt index n rest).map fun parts => (c :: parts.1, parts.2) := by
  obtain ⟨m, total⟩ := Nat.exists_eq_add_one_of_ne_zero
    (by have := c.utf8Size_pos; omega : c.utf8Size + n ≠ 0)
  rw [total, cutAt, if_pos (by omega), ← total, Nat.add_sub_cancel_left]

/-- A cut at a character that was searched for goes through. -/
theorem cutBefore_eq (p : Char → Bool) (s : List Char) :
    cutBefore p s = .ok (s.takeWhile (!p ·), s.dropWhile (!p ·)) := by
  suffices cut : ∀ index, cutAt index (findByte p s) s = .ok (s.takeWhile (!p ·), s.dropWhile (!p ·)) from
    cut _
  intro index
  induction s with
  | nil => rfl
  | cons c rest ih =>
    by_cases found : p c
    · simp [findByte, found, cutAt]
    · simp [findByte, found, cutAt_cons, ih, Except.map]

end ServiceKit.Text
