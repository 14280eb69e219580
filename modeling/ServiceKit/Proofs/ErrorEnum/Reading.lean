import Mathlib.Data.List.TakeWhile
import ServiceKit.ErrorEnum.Types
import ServiceKit.Proofs.Settled

namespace ServiceKit.ErrorEnum.TypeExpr
variable {s rest : List Char} {fuel depth : Nat}

theorem dropBlank_length (s : List Char) : (Text.dropBlank s).length ≤ s.length :=
  List.length_dropWhile_le _ s

theorem skipOther_length (depth : Nat) (s : List Char) : (skipOther depth s).length ≤ s.length := by
  fun_induction skipOther depth s <;> grind

theorem afterClosing?_length (read : afterClosing? depth s = some rest) : rest.length < s.length := by
  fun_induction afterClosing? depth s <;> grind

theorem segmentsFrom?_length (read : segmentsFrom? s = some rest) : rest.length ≤ s.length := by
  unfold segmentsFrom? at read
  split at read
  · rename_i inside
    split at read
    · rename_i after
      obtain ⟨t, closed, blank⟩ := Option.map_eq_some_iff.mp after
      have shorter := afterClosing?_length closed
      have trimmed := dropBlank_length t
      grind [dropBlank_length]
    · cases read
  · grind [dropBlank_length]
  · grind

theorem isNameChar_of_isNameStart {c : Char} (start : isNameStart c = true) : isNameChar c = true := by
  simp only [isNameStart, isNameChar, Text.isNameStart, Text.isNameChar, Char.isAlphanum, Bool.or_eq_true] at *
  grind

/-- With so many steps, one more changes no answer of the readers of types. -/
structure Steady (fuel : Nat) : Prop where
  type : ∀ s, 2 * s.length + 2 ≤ fuel →
    readType fuel s = readType (fuel + 1) s ∧ (readType fuel s).2.length ≤ s.length
  path : ∀ done s, 2 * s.length + 1 ≤ fuel →
    Settled Prod.snd s.length (readPath fuel done s) (readPath (fuel + 1) done s)
  args : ∀ s, 2 * s.length + 3 ≤ fuel →
    Settled Prod.snd s.length (readArgs fuel s) (readArgs (fuel + 1) s)

section
variable {segments : List String} {args : PathArgs} {n : Nat}
  {more further : List Char → Option (TypeExpr × List Char)}

theorem endOrMore_settled (later : ∀ t, t.length < s.length → Settled Prod.snd n (more t) (further t))
    (short : s.length < n) :
    Settled Prod.snd n (endOrMore more segments args s) (endOrMore further segments args s) := by
  have trimmed := dropBlank_length s
  unfold endOrMore
  split
  · rename_i after _
    have shorter := dropBlank_length after
    exact later _ (by grind)
  · exact .some (by grind)

theorem readParenthesized_settled
    (later : ∀ t, t.length < s.length → Settled Prod.snd n (more t) (further t)) (short : s.length < n) :
    Settled Prod.snd n (readParenthesized more segments s) (readParenthesized further segments s) := by
  have shorter (r : List Char) (closed : (afterClosing? 0 s).map Text.dropBlank = some r) :
      r.length < s.length := by
    obtain ⟨t, after, rfl⟩ := Option.map_eq_some_iff.mp closed
    exact (dropBlank_length t).trans_lt (afterClosing?_length after)
  unfold readParenthesized
  split
  · exact .none
  · rename_i r closed
    have skipped := skipOther_length 0 r
    exact .some (by grind)
  · rename_i r _ closed
    exact endOrMore_settled (fun t _ => later t (by grind)) (by grind)

end

theorem nextArg_settled {more further : List Char → Option (List TypeArg × List Char)} {arg : TypeArg} {n : Nat}
    (later : ∀ t, t.length < s.length → Settled Prod.snd t.length (more t) (further t)) (short : s.length ≤ n) :
    Settled Prod.snd n (nextArg more arg s) (nextArg further arg s) := by
  have trimmed := dropBlank_length s
  unfold nextArg
  split
  · rename_i r _
    exact (later r (by grind)).map (by grind)
  · exact .some (by grind)
  · exact .none

theorem Steady.readPath (steady : Steady fuel) (done : List String) (bound : 2 * s.length + 1 ≤ fuel + 1) :
    Settled Prod.snd s.length (readPath (fuel + 1) done s) (readPath (fuel + 2) done s) := by
  unfold TypeExpr.readPath
  split
  · exact .none
  · rename_i c tail
    dsimp only
    split_ifs with unfit
    · exact .none
    · have start : isNameStart c = true := by
        simp only [Bool.or_eq_true, not_or, Bool.not_eq_true', Bool.not_eq_false] at unfit
        exact unfit.1
      have behind : (Text.dropBlank ((c :: tail).dropWhile isNameChar)).length ≤ tail.length := by
        rw [List.dropWhile_cons_of_pos (isNameChar_of_isNameStart start)]
        exact (dropBlank_length _).trans (List.length_dropWhile_le _ _)
      generalize String.ofList ((c :: tail).takeWhile isNameChar) = word
      generalize Text.dropBlank ((c :: tail).dropWhile isNameChar) = after at behind
      have more (t : List Char) (short : t.length < tail.length) :
          Settled Prod.snd (c :: tail).length (TypeExpr.readPath fuel (word :: done) t)
            (TypeExpr.readPath (fuel + 1) (word :: done) t) :=
        (steady.path _ t (by grind)).mono (by grind)
      have angled (t : List Char) (short : t.length < tail.length) :
          Settled Prod.snd (c :: tail).length
            ((TypeExpr.readArgs fuel t).bind fun x =>
              endOrMore (TypeExpr.readPath fuel (word :: done)) (word :: done).reverse (.angled x.1) x.2)
            ((TypeExpr.readArgs (fuel + 1) t).bind fun x =>
              endOrMore (TypeExpr.readPath (fuel + 1) (word :: done)) (word :: done).reverse (.angled x.1) x.2) :=
        (steady.args t (by grind)).bind fun x _ => endOrMore_settled (fun u _ => more u (by grind)) (by grind)
      have parenthesized (t : List Char) (short : t.length < tail.length) :
          Settled Prod.snd (c :: tail).length
            (readParenthesized (TypeExpr.readPath fuel (word :: done)) (word :: done).reverse t)
            (readParenthesized (TypeExpr.readPath (fuel + 1) (word :: done)) (word :: done).reverse t) :=
        readParenthesized_settled (fun u _ => more u (by grind)) (by grind)
      split
      · exact angled _ (by grind)
      · exact parenthesized _ (by grind)
      · rename_i r
        have trimmed := dropBlank_length r
        split
        · exact angled _ (by grind)
        · exact parenthesized _ (by grind)
        · exact more _ (by grind)
      · exact .some (by grind)

theorem Steady.readType (steady : Steady fuel) (bound : 2 * s.length + 2 ≤ fuel + 1) :
    readType (fuel + 1) s = readType (fuel + 2) s ∧ (readType (fuel + 1) s).2.length ≤ s.length := by
  have trimmed := dropBlank_length s
  unfold TypeExpr.readType
  dsimp only
  generalize Text.dropBlank s = t at trimmed
  have skipped := skipOther_length 0 t
  have settled : Settled Prod.snd (t.length + 1) ((segmentsFrom? t).bind (TypeExpr.readPath fuel []))
      ((segmentsFrom? t).bind (TypeExpr.readPath (fuel + 1) [])) := by
    refine .part fun r begins => ?_
    have shorter := segmentsFrom?_length begins
    exact (steady.path [] r (by grind)).mono (by grind)
  obtain ⟨same, left⟩ := settled
  rw [← same]
  refine ⟨rfl, ?_⟩
  split
  · rename_i r read
    have shorter := left _ read
    split_ifs <;> grind
  · grind

theorem Steady.readArgs (steady : Steady fuel) (bound : 2 * s.length + 3 ≤ fuel + 1) :
    Settled Prod.snd s.length (readArgs (fuel + 1) s) (readArgs (fuel + 2) s) := by
  have trimmed := dropBlank_length s
  unfold TypeExpr.readArgs
  dsimp only
  generalize Text.dropBlank s = t at trimmed
  have next (arg : TypeArg) (r : List Char) (short : r.length ≤ s.length) :
      Settled Prod.snd s.length (nextArg (TypeExpr.readArgs fuel) arg r)
        (nextArg (TypeExpr.readArgs (fuel + 1)) arg r) :=
    nextArg_settled (fun u _ => steady.args u (by grind)) short
  split
  · exact .some (by grind)
  · rename_i r
    have after : (Text.dropBlank (r.dropWhile isNameChar)).length ≤ r.length :=
      (dropBlank_length _).trans (List.length_dropWhile_le _ _)
    split
    · rename_i u _
      have skipped := skipOther_length 0 u
      exact next _ _ (by grind)
    · exact next _ _ (by grind)
  · obtain ⟨same, left⟩ := steady.type t (by grind)
    rw [← same]
    split
    · split_ifs <;> exact next _ _ (by grind)
    · exact next _ _ (by grind)

theorem steady : ∀ fuel, Steady fuel
  | 0 => by constructor <;> intros <;> omega
  | fuel + 1 =>
    have before := steady fuel
    { type := fun _ => before.readType
      path := fun done _ => before.readPath done
      args := fun _ => before.readArgs }

/-- The steps that a type is read with are enough: with any more it is read the same. -/
theorem readType_eq_of_le {s : List Char} (enough : 2 * s.length + 2 ≤ fuel) :
    readType fuel s = readType (2 * s.length + 2) s := by
  induction fuel, enough using Nat.le_induction with
  | base => rfl
  | succ fuel more ih => rw [← ih, ((steady fuel).type s more).1]

end ServiceKit.ErrorEnum.TypeExpr
