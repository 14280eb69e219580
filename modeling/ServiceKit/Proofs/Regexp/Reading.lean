import Mathlib.Data.List.TakeWhile
import ServiceKit.Proofs.Settled
import ServiceKit.Regexp.Reader

namespace ServiceKit.Regexp
variable {st : Reading} {s r : List Char} {fuel : Nat}

/-! ### What is left of the text -/

theorem skip_length (st : Reading) (fuel : Nat) (s : List Char) : (skip st fuel s).length ≤ s.length := by
  fun_induction skip st fuel s <;> grind [List.length_dropWhile_le]

theorem readHex?_length {count : Nat} {c : Char} (read : readHex? count s = some (c, r)) :
    r.length ≤ s.length := by
  unfold readHex? at read
  split at read
  · rename_i rest
    have braced := List.length_dropWhile_le (· != '}') rest
    split at read
    · obtain ⟨d, -, same⟩ := Option.map_eq_some_iff.mp read
      grind
    · cases read
  · split_ifs at read
    obtain ⟨d, -, same⟩ := Option.map_eq_some_iff.mp read
    cases same
    exact (List.drop_suffix count s).length_le

theorem readEscapedChar?_length {c : Char} (read : readEscapedChar? s = some (c, r)) : r.length < s.length := by
  unfold readEscapedChar? at read
  split at read
  case h_7 | h_8 | h_9 =>
    have shorter := readHex?_length read
    grind
  all_goals grind

theorem readNegation_length (s : List Char) : (readNegation s).2.length ≤ s.length := by
  unfold readNegation
  grind

theorem readNamed?_length {set : CharSet} (read : readNamed? s = some (set, r)) : r.length < s.length := by
  unfold readNamed? at read
  split at read
  · rename_i t
    have unsigned := readNegation_length t
    have letters := List.length_dropWhile_le Char.isAlpha (readNegation t).2
    dsimp only at read
    split at read
    · obtain ⟨x, -, same⟩ := Option.map_eq_some_iff.mp read
      grind
    · cases read
  · cases read

theorem readProperty?_length {set : CharSet} (read : readProperty? st s = some (set, r)) :
    r.length < s.length := by
  have skipped := skip_length st s.length s
  unfold readProperty? at read
  split at read
  · rename_i rest _
    have braced := List.length_dropWhile_le (· != '}') rest
    split at read
    · obtain ⟨d, -, same⟩ := Option.map_eq_some_iff.mp read
      grind
    · cases read
  · split_ifs at read
    obtain ⟨d, -, same⟩ := Option.map_eq_some_iff.mp read
    grind
  · cases read

theorem readEscapedSet?_length {set : CharSet} (read : readEscapedSet? st s = some (set, r)) :
    r.length < s.length := by
  unfold readEscapedSet? at read
  split at read
  · obtain ⟨x, property, same⟩ := Option.map_eq_some_iff.mp read
    have shorter := readProperty?_length property
    grind
  · obtain ⟨x, property, same⟩ := Option.map_eq_some_iff.mp read
    have shorter := readProperty?_length property
    grind
  · obtain ⟨x, -, same⟩ := Option.map_eq_some_iff.mp read
    grind
  · cases read

theorem readClassItem?_length {item : ClassItem} (read : readClassItem? st s = some (item, r)) :
    r.length < s.length := by
  unfold readClassItem? at read
  split at read
  · split at read
    · rename_i set
      have shorter := readEscapedSet?_length set
      grind
    · obtain ⟨x, char, same⟩ := Option.map_eq_some_iff.mp read
      have shorter := readEscapedChar?_length char
      grind
  · grind
  · cases read

theorem readHyphens_length (st : Reading) (fuel : Nat) (set : CharSet) (s : List Char) :
    (readHyphens st fuel set s).2.length ≤ s.length := by
  have skipped (t : List Char) := skip_length st t.length t
  fun_induction readHyphens st fuel set s <;> grind

theorem readFirst_length (st : Reading) (set : CharSet) (s : List Char) :
    (readFirst st set s).2.length ≤ s.length := by
  have skipped := skip_length st s.length s
  unfold readFirst
  split <;> grind

theorem readBounds?_length {least : Nat} {most : Option Nat} (read : readBounds? s = some (least, most, r)) :
    r.length < s.length := by
  unfold readBounds? at read
  dsimp only at read
  split at read
  · cases read
  · rename_i c rest closed
    have shorter : rest.length < s.length := by
      have braced := List.length_dropWhile_le (· != '}') s
      grind
    split at read
    · obtain ⟨x, -, same⟩ := Option.map_eq_some_iff.mp read
      grind
    · grind
    · cases read

theorem readFlags?_length {on : Bool} {seen : List Char} {f g : Flags} (read : readFlags? on seen f s = some (g, r)) :
    r.length ≤ s.length := by
  fun_induction readFlags? on seen f s <;> grind

theorem readGroupName?_length {name : String} (read : readGroupName? s = some (name, r)) : r.length < s.length := by
  have named := List.length_dropWhile_le (· != '>') s
  unfold readGroupName? at read
  grind

theorem readEdgeName_length (st : Reading) (n : Nat) (s : List Char) : (readEdgeName st n s).2.length ≤ s.length := by
  have skipped (t : List Char) := skip_length st t.length t
  fun_induction readEdgeName st n s <;> grind

theorem readWordEdge?_length {e : Edge} (read : readWordEdge? st s = some (e, r)) : r.length ≤ s.length := by
  unfold readWordEdge? at read
  split at read
  · rename_i rest
    have skipped := skip_length st rest.length rest
    dsimp only at read
    generalize skip st rest.length rest = body at read skipped
    have named := readEdgeName_length st body.length body
    split at read
    · cases read
    · grind
    · split at read
      · obtain ⟨x, -, same⟩ := Option.map_eq_some_iff.mp read
        grind
      · cases read
  · grind

theorem readRepeats_length {n : Nat} {e f : Regexp} (read : readRepeats n st e s = some (f, r)) :
    r.length ≤ s.length := by
  have skipped (t : List Char) := skip_length st t.length t
  fun_induction readRepeats n st e s <;> grind [→ readBounds?_length]

theorem readEscape?_length {e : Regexp} (read : readEscape? st s = some (e, r)) : r.length < s.length := by
  unfold readEscape? at read
  split at read
  · obtain ⟨x, edge, same⟩ := Option.map_eq_some_iff.mp read
    have shorter := readWordEdge?_length edge
    grind
  · split at read
    · grind
    · rename_i set
      have shorter := readEscapedSet?_length set
      grind
    · obtain ⟨x, char, same⟩ := Option.map_eq_some_iff.mp read
      have shorter := readEscapedChar?_length char
      grind
  · cases read

/-! ### One step more than there are characters changes nothing -/

theorem skip_succ (enough : s.length ≤ fuel) : skip st fuel s = skip st (fuel + 1) s := by
  induction fuel generalizing s with
  | zero =>
    obtain rfl := List.length_eq_zero_iff.mp (Nat.le_zero.mp enough)
    unfold skip
    split_ifs <;> rfl
  | succ fuel ih =>
    unfold skip
    split_ifs
    · rfl
    · split
      · rename_i rest
        have comment := List.length_dropWhile_le (· != '\n') rest
        rw [List.length_cons] at enough
        exact ih (by omega)
      · rw [List.length_cons] at enough
        rw [ih (by omega)]
      · rfl

theorem readHyphens_succ {set : CharSet} (enough : s.length ≤ fuel) :
    readHyphens st fuel set s = readHyphens st (fuel + 1) set s := by
  induction fuel generalizing set s with
  | zero =>
    obtain rfl := List.length_eq_zero_iff.mp (Nat.le_zero.mp enough)
    rfl
  | succ fuel ih =>
    have skipped := skip_length st s.length s
    unfold readHyphens
    split
    · exact ih (by grind)
    · rfl

theorem readEdgeName_succ (enough : s.length ≤ fuel) : readEdgeName st fuel s = readEdgeName st (fuel + 1) s := by
  induction fuel generalizing s with
  | zero =>
    obtain rfl := List.length_eq_zero_iff.mp (Nat.le_zero.mp enough)
    rfl
  | succ fuel ih =>
    unfold readEdgeName
    split
    · rename_i c rest
      have skipped := skip_length st rest.length rest
      rw [ih (by grind)]
    · rfl

theorem readRepeats_succ {e : Regexp} (enough : s.length ≤ fuel) :
    readRepeats fuel st e s = readRepeats (fuel + 1) st e s := by
  induction fuel generalizing e s with
  | zero =>
    obtain rfl := List.length_eq_zero_iff.mp (Nat.le_zero.mp enough)
    rfl
  | succ fuel ih =>
    have skipped (t : List Char) := skip_length st t.length t
    have trimmed := skipped s
    unfold readRepeats
    dsimp only
    split
    · exact ih (by grind)
    · exact ih (by grind)
    · exact ih (by grind)
    · split
      · rfl
      · rename_i bounds
        have shorter := readBounds?_length bounds
        exact ih (by grind)
      · rename_i bounds
        have shorter := readBounds?_length bounds
        exact ih (by grind)
    · rfl

/-- With so many steps, one more changes no answer of the readers of classes. -/
structure SteadyClass (fuel : Nat) : Prop where
  whole : ∀ st s, 2 * s.length + 2 ≤ fuel →
    Settled Prod.snd (s.length + 1) (readClass fuel st s) (readClass (fuel + 1) st s)
  members : ∀ st op done here s, 2 * s.length + 1 ≤ fuel →
    Settled Prod.snd s.length (readMembers fuel st op done here s) (readMembers (fuel + 1) st op done here s)

theorem SteadyClass.readClass (steady : SteadyClass fuel) (st : Reading) (bound : 2 * s.length + 2 ≤ fuel + 1) :
    Settled Prod.snd (s.length + 1) (readClass (fuel + 1) st s) (readClass (fuel + 2) st s) := by
  unfold Regexp.readClass
  dsimp only
  have unsigned : (readNegation (skip st s.length s)).2.length ≤ s.length :=
    (readNegation_length _).trans (skip_length st s.length s)
  generalize readNegation (skip st s.length s) = sign at unsigned
  have begun : (readFirst st (readHyphens st sign.2.length .none (skip st sign.2.length sign.2)).1
      (readHyphens st sign.2.length .none (skip st sign.2.length sign.2)).2).2.length ≤ s.length :=
    calc
      _ ≤ _ := readFirst_length st _ _
      _ ≤ _ := readHyphens_length st _ _ _
      _ ≤ _ := skip_length st _ _
      _ ≤ s.length := unsigned
  exact (steady.members st _ _ _ _ (by omega)).map (by grind)

theorem SteadyClass.readMembers (steady : SteadyClass fuel) (st : Reading) (op : Option SetOp)
    (done here : CharSet) (bound : 2 * s.length + 1 ≤ fuel + 1) :
    Settled Prod.snd s.length (readMembers (fuel + 1) st op done here s)
      (readMembers (fuel + 2) st op done here s) := by
  have skipped := skip_length st s.length s
  unfold Regexp.readMembers
  dsimp only
  generalize skip st s.length s = t at skipped
  have later (op : Option SetOp) (done here : CharSet) (u : List Char) (shorter : u.length < t.length) :
      Settled Prod.snd s.length (Regexp.readMembers fuel st op done here u)
        (Regexp.readMembers (fuel + 1) st op done here u) :=
    (steady.members st op done here u (by omega)).mono (by omega)
  split
  · exact .none
  · exact .some (by grind)
  · exact later _ _ _ _ (by grind)
  · exact later _ _ _ _ (by grind)
  · exact later _ _ _ _ (by grind)
  · rename_i rest
    split
    · rename_i named
      have shorter := readNamed?_length named
      exact later _ _ _ _ (by grind)
    · obtain ⟨same, left⟩ := steady.whole st rest (by grind)
      rw [← same]
      split
      · rename_i whole
        have shorter := left _ whole
        exact later _ _ _ _ (by grind)
      · exact .none
  · split
    · exact .none
    · rename_i item rest read
      have shorter := readClassItem?_length read
      have gap := skip_length st rest.length rest
      split
      · rename_i after _
        have trimmed := skip_length st after.length after
        split
        · exact later _ _ _ _ (by grind)
        · exact later _ _ _ _ (by grind)
        · split
          · rename_i high
            have shorter := readClassItem?_length high
            split_ifs
            · exact later _ _ _ _ (by grind)
            · exact .none
          · exact .none
      · exact later _ _ _ _ (by grind)

theorem steadyClass : ∀ fuel, SteadyClass fuel
  | 0 => by constructor <;> intros <;> omega
  | fuel + 1 =>
    have before := steadyClass fuel
    { whole := fun st _ => before.readClass st
      members := fun st op done here _ => before.readMembers st op done here }

theorem closed?_length {x y : Regexp × Reading × List Char} (closed : closed? x = some y) :
    y.2.2.length < x.2.2.length := by
  unfold closed? at closed
  split at closed <;> grind

section
variable {inside inside' : Reading → List Char → Option (Regexp × Reading × List Char)}
  {more more' : Reading → Regexp → List Char → Option (Regexp × Reading × List Char)} {n : Nat}

theorem addItem_settled {here e : Regexp}
    (later : ∀ st here t, t.length ≤ s.length → Settled (·.2.2) n (more st here t) (more' st here t)) :
    Settled (·.2.2) n (addItem more st here e s) (addItem more' st here e s) :=
  .part fun _ read => later _ _ _ (readRepeats_length read)

theorem readGroup_settled {inner : Reading} {here : Regexp}
    (within : Settled (·.2.2) (s.length + 1) (inside inner s) (inside' inner s))
    (later : ∀ st here t, t.length < s.length → Settled (·.2.2) n (more st here t) (more' st here t)) :
    Settled (·.2.2) n (readGroup inside more st inner here s) (readGroup inside' more' st inner here s) := by
  have group : Settled (·.2.2) s.length ((inside inner s).bind closed?) ((inside' inner s).bind closed?) :=
    within.bind fun x left => .same fun y closed =>
      Nat.lt_of_lt_of_le (closed?_length closed) (Nat.le_of_lt_succ left)
  exact group.bind fun x left => addItem_settled fun st here t shorter =>
    later st here t (Nat.lt_of_le_of_lt shorter left)

theorem readNamedGroup_settled {here : Regexp}
    (within : ∀ inner t, t.length < s.length → Settled (·.2.2) (t.length + 1) (inside inner t) (inside' inner t))
    (later : ∀ st here t, t.length < s.length → Settled (·.2.2) n (more st here t) (more' st here t)) :
    Settled (·.2.2) n (readNamedGroup inside more st here s) (readNamedGroup inside' more' st here s) := by
  refine .part fun x read => ?_
  have named := readGroupName?_length read
  split_ifs
  · exact .none
  · exact readGroup_settled (within _ _ named) fun st here t shorter => later st here t (Nat.lt_trans shorter named)

end

theorem readAlternatives_settled {done : Option Regexp} {here : Regexp} (enough : s.length + 1 ≤ fuel) :
    Settled (·.2.2) (s.length + 1) (readAlternatives fuel st done here s)
      (readAlternatives (fuel + 1) st done here s) := by
  induction fuel generalizing st done here s with
  | zero => omega
  | succ fuel ih =>
    have skipped := skip_length st s.length s
    unfold readAlternatives
    dsimp only
    generalize skip st s.length s = t at skipped
    have within (inner : Reading) (u : List Char) (shorter : u.length < t.length) :
        Settled (·.2.2) (u.length + 1) (readAlternatives fuel inner none .empty u)
          (readAlternatives (fuel + 1) inner none .empty u) :=
      ih (by omega)
    have later (st : Reading) (here : Regexp) (u : List Char) (shorter : u.length < t.length) :
        Settled (·.2.2) (s.length + 1) (readAlternatives fuel st done here u)
          (readAlternatives (fuel + 1) st done here u) :=
      (ih (by omega)).mono (by omega)
    have item (st : Reading) (e : Regexp) (u : List Char) (shorter : u.length < t.length) :
        Settled (·.2.2) (s.length + 1) (addItem (fun st => readAlternatives fuel st done) st here e u)
          (addItem (fun st => readAlternatives (fuel + 1) st done) st here e u) :=
      addItem_settled fun st here v short => later st here v (by omega)
    split
    · exact .some (by grind)
    · exact .some (by grind)
    · exact (ih (by grind)).mono (by grind)
    · rename_i rest
      have trimmed := skip_length st rest.length rest
      split
      · exact readNamedGroup_settled (fun _ _ _ => within _ _ (by grind)) fun _ _ _ _ => later _ _ _ (by grind)
      · exact readNamedGroup_settled (fun _ _ _ => within _ _ (by grind)) fun _ _ _ _ => later _ _ _ (by grind)
      · exact .none
      · split
        · rename_i flags
          have shorter := readFlags?_length flags
          exact readGroup_settled (within _ _ (by grind)) fun _ _ _ _ => later _ _ _ (by grind)
        · rename_i flags
          have shorter := readFlags?_length flags
          split_ifs
          · exact .none
          · exact later _ _ _ (by grind)
        · exact .none
      · exact readGroup_settled (within _ _ (by grind)) fun _ _ _ _ => later _ _ _ (by grind)
    · rename_i rest
      refine .part fun x read => ?_
      have shorter := ((steadyClass _).whole st rest (Nat.le_refl _)).2 x read
      exact item _ _ _ (by grind)
    · exact item _ _ _ (by grind)
    · exact item _ _ _ (by grind)
    · exact item _ _ _ (by grind)
    · refine .part fun x read => ?_
      have shorter := readEscape?_length read
      exact item _ _ _ (by grind)
    · split_ifs
      · exact .none
      · exact item _ _ _ (by grind)

/-- The steps that a pattern is read with are enough: with any more it is read the same. -/
theorem readAlternatives_eq_of_le {done : Option Regexp} {here : Regexp} (enough : 2 * s.length + 2 ≤ fuel) :
    readAlternatives fuel st done here s = readAlternatives (2 * s.length + 2) st done here s := by
  induction fuel, enough using Nat.le_induction with
  | base => rfl
  | succ fuel more ih =>
    rw [← ih]
    exact (readAlternatives_settled (by omega)).1.symm

end ServiceKit.Regexp
