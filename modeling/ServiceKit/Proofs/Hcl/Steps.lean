import ServiceKit.Proofs.Hcl.Rests
import ServiceKit.Proofs.Settled

namespace ServiceKit

section
variable {β : Type} {left : β → List Char} {lines : Bool} {s : List Char} {n : Nat}

theorem Settled.gap {f g : List Char → Option β}
    (later : ∀ t, t.length ≤ s.length → Settled left n (f t) (g t)) :
    Settled left n (Hcl.gap lines s >>= f) (Hcl.gap lines s >>= g) :=
  .part fun t read => later t (Hcl.gap_length read)

theorem Settled.ident {f g : String × List Char → Option β}
    (later : ∀ x, x.2.length < s.length → Settled left n (f x) (g x)) :
    Settled left n (Hcl.readIdent s >>= f) (Hcl.readIdent s >>= g) :=
  .part fun x read => later x (Hcl.readIdent_length read)

theorem Settled.markupEnd (short : s.length < n) :
    Settled id n (Hcl.readMarkupEnd s) (Hcl.readMarkupEnd s) :=
  .same fun _ read => Nat.lt_trans (Hcl.readMarkupEnd_length read) short

end

namespace Hcl
variable {lines : Bool} {s : List Char} {fuel : Nat}

/-- With so many steps, one more changes no answer of the readers of expressions. A reader needs more steps
than those that it hands its text on to whole. -/
structure Steady (fuel : Nat) : Prop where
  expr : ∀ lines s, 16 * s.length + 4 ≤ fuel →
    Settled Prod.snd (s.length + 1) (readExpr lines fuel s) (readExpr lines (fuel + 1) s)
  chain : ∀ lines e s, 16 * s.length + 1 ≤ fuel →
    Settled Prod.snd (s.length + 1) (readChain lines fuel e s) (readChain lines (fuel + 1) e s)
  operand : ∀ lines s, 16 * s.length + 3 ≤ fuel →
    Settled Prod.snd (s.length + 1) (readOperand lines fuel s) (readOperand lines (fuel + 1) s)
  access : ∀ lines e s, 16 * s.length + 1 ≤ fuel →
    Settled Prod.snd (s.length + 1) (readAccess lines fuel e s) (readAccess lines (fuel + 1) e s)
  term : ∀ lines s, 16 * s.length + 2 ≤ fuel →
    Settled Prod.snd (s.length + 1) (readTerm lines fuel s) (readTerm lines (fuel + 1) s)
  namespaced : ∀ name s, 16 * s.length + 1 ≤ fuel →
    Settled Prod.snd (s.length + 1) (readNamespaced fuel name s) (readNamespaced (fuel + 1) name s)
  sequence : ∀ close s, 16 * s.length + 5 ≤ fuel →
    Settled (·.2.2) (s.length + 1) (readSequence close fuel s) (readSequence close (fuel + 1) s)
  object : ∀ s, 16 * s.length + 5 ≤ fuel →
    Settled Prod.snd (s.length + 1) (readObject fuel s) (readObject (fuel + 1) s)
  forHead : ∀ s, 16 * s.length + 5 ≤ fuel →
    Settled (·.2.2.2) (s.length + 1) (readForHead fuel s) (readForHead (fuel + 1) s)
  forTest : ∀ s, 16 * s.length + 5 ≤ fuel →
    Settled Prod.snd (s.length + 1) (readForTest fuel s) (readForTest (fuel + 1) s)
  pieces : ∀ quoted s, 16 * s.length + 1 ≤ fuel →
    Settled Prod.snd (s.length + 1) (readPieces quoted fuel s) (readPieces quoted (fuel + 1) s)
  interpolation : ∀ s, 16 * s.length + 5 ≤ fuel →
    Settled id (s.length + 1) (readInterpolation fuel s) (readInterpolation (fuel + 1) s)
  directive : ∀ s, 16 * s.length + 5 ≤ fuel →
    Settled id (s.length + 1) (readDirective fuel s) (readDirective (fuel + 1) s)

theorem Steady.readExpr (steady : Steady fuel) (bound : 16 * s.length + 4 ≤ fuel + 1) :
    Settled Prod.snd (s.length + 1) (readExpr lines (fuel + 1) s) (readExpr lines (fuel + 2) s) := by
  unfold Hcl.readExpr
  refine (steady.operand lines s (by omega)).bind fun (e, r) _ => ?_
  refine (steady.chain lines e r (by grind)).bind fun (e, r) _ => .gap fun t _ => ?_
  split
  · refine .gap fun t _ => (steady.expr lines t (by grind)).bind fun (yes, r) _ => .gap fun t _ => ?_
    split
    · refine .gap fun t _ => (steady.expr lines t (by grind)).bind fun (no, r) _ => .some (by grind)
    · exact .none
  · exact .some (by grind)

theorem Steady.readChain (steady : Steady fuel) (e : Expr) (bound : 16 * s.length + 1 ≤ fuel + 1) :
    Settled Prod.snd (s.length + 1) (readChain lines (fuel + 1) e s) (readChain lines (fuel + 2) e s) := by
  unfold Hcl.readChain
  refine .gap fun t _ => ?_
  split
  · exact .some (by grind)
  · rename_i read
    have shorter := readOperator_length read
    refine .gap fun t _ => (steady.operand lines t (by grind)).bind fun (right, r) _ => ?_
    exact (steady.chain lines _ r (by grind)).mono (by grind)

theorem Steady.readOperand (steady : Steady fuel) (bound : 16 * s.length + 3 ≤ fuel + 1) :
    Settled Prod.snd (s.length + 1) (readOperand lines (fuel + 1) s) (readOperand lines (fuel + 2) s) := by
  unfold Hcl.readOperand
  split
  · exact .gap fun t _ => (steady.operand lines t (by grind)).bind fun (e, r) _ => .some (by grind)
  · refine .gap fun t _ => (steady.operand lines t (by grind)).bind fun (e, r) _ => ?_
    dsimp only
    split <;> exact .some (by grind)
  · refine (steady.term lines s (by omega)).bind fun (e, r) _ => ?_
    exact (steady.access lines e r (by grind)).mono (by grind)

theorem Steady.readAccess (steady : Steady fuel) (e : Expr) (bound : 16 * s.length + 1 ≤ fuel + 1) :
    Settled Prod.snd (s.length + 1) (readAccess lines (fuel + 1) e s) (readAccess lines (fuel + 2) e s) := by
  unfold Hcl.readAccess
  refine .gap fun t _ => ?_
  split
  · exact (steady.access lines _ _ (by grind)).mono (by grind)
  · exact .some (by grind)
  · rename_i r _ _ _
    dsimp only
    split_ifs
    · exact .ident fun (name, r) _ => (steady.access lines _ r (by grind)).mono (by grind)
    · have digits := List.length_dropWhile_le Char.isDigit r
      exact (steady.access lines _ _ (by grind)).mono (by grind)
  · refine .gap fun t _ => ?_
    split
    · refine .gap fun t _ => ?_
      split
      · exact (steady.access lines _ _ (by grind)).mono (by grind)
      · exact .none
    · refine (steady.expr true t (by grind)).bind fun (key, r) _ => .gap fun t _ => ?_
      split
      · exact (steady.access lines _ _ (by grind)).mono (by grind)
      · exact .none
  · exact .some (by grind)

theorem Steady.readTerm (steady : Steady fuel) (bound : 16 * s.length + 2 ≤ fuel + 1) :
    Settled Prod.snd (s.length + 1) (readTerm lines (fuel + 1) s) (readTerm lines (fuel + 2) s) := by
  unfold Hcl.readTerm
  split
  · exact (steady.pieces true _ (by grind)).bind fun (pieces, r) _ => .some (by grind)
  · refine .part fun (text, rest) read => ?_
    have shorter := readHeredoc_length read
    refine (steady.pieces false text (by grind)).bind fun (pieces, r) _ => ?_
    dsimp only
    split_ifs <;> exact .some (by grind)
  · refine .gap fun t _ => (steady.expr true t (by grind)).bind fun (e, r) _ => .gap fun t _ => ?_
    split
    · exact .some (by grind)
    · exact .none
  · refine .gap fun t _ => ?_
    obtain ⟨same, short⟩ := steady.forHead t (by grind)
    rw [← same]
    split
    · rename_i r head
      have shorter := short _ head
      refine .gap fun t _ => (steady.expr true t (by grind)).bind fun (body, r) _ => .gap fun t _ => ?_
      refine (steady.forTest t (by grind)).bind fun (test, r) _ => .gap fun t _ => ?_
      split
      · exact .some (by grind)
      · exact .none
    · exact (steady.sequence ']' t (by grind)).bind fun (items, expand, r) _ => .some (by grind)
  · refine .gap fun t _ => ?_
    obtain ⟨same, short⟩ := steady.forHead t (by grind)
    rw [← same]
    split
    · rename_i r head
      have shorter := short _ head
      refine .gap fun t _ => (steady.expr true t (by grind)).bind fun (name, r) _ => .gap fun t _ => ?_
      split
      · refine .gap fun t _ => (steady.expr true t (by grind)).bind fun (body, r) _ => .gap fun t _ => ?_
        have dots := readSign_length ['.', '.', '.'] t
        generalize readSign ['.', '.', '.'] t = dotted at dots ⊢
        refine .gap fun t _ => (steady.forTest t (by grind)).bind fun (test, r) _ => .gap fun t _ => ?_
        split
        · exact .some (by grind)
        · exact .none
      · exact .none
    · exact (steady.object t (by grind)).bind fun (items, r) _ => .some (by grind)
  · split_ifs
    · exact .map (.same fun _ read => Nat.lt_succ_of_le (readNumber_length read)) fun _ short => short
    · refine .ident fun (name, r) _ => (steady.namespaced name r (by grind)).bind fun (name, r) _ => .gap fun t _ => ?_
      split
      · exact .gap fun t _ => (steady.sequence ')' t (by grind)).bind fun (args, expand, r) _ => .some (by grind)
      · split <;> exact .some (by grind)
  · exact .none

theorem Steady.readNamespaced (steady : Steady fuel) (name : String) (bound : 16 * s.length + 1 ≤ fuel + 1) :
    Settled Prod.snd (s.length + 1) (readNamespaced (fuel + 1) name s) (readNamespaced (fuel + 2) name s) := by
  unfold Hcl.readNamespaced
  split
  · exact .ident fun (part, r) _ => (steady.namespaced _ r (by grind)).mono (by grind)
  · exact .some (by grind)

theorem Steady.readSequence (steady : Steady fuel) (close : Char) (bound : 16 * s.length + 5 ≤ fuel + 1) :
    Settled (·.2.2) (s.length + 1) (readSequence close (fuel + 1) s) (readSequence close (fuel + 2) s) := by
  unfold Hcl.readSequence
  split
  · split_ifs
    · exact .some (by grind)
    · refine (steady.expr true _ (by grind)).bind fun (e, r) _ => .gap fun t _ => ?_
      split
      · refine .gap fun t _ => (steady.sequence close t (by grind)).bind fun (es, expand, r) _ => .some (by grind)
      · refine .gap fun t _ => ?_
        split
        · split_ifs
          · exact .some (by grind)
          · exact .none
        · exact .none
      · split_ifs
        · exact .some (by grind)
        · exact .none
      · exact .none
  · exact .none

theorem Steady.readObject (steady : Steady fuel) (bound : 16 * s.length + 5 ≤ fuel + 1) :
    Settled Prod.snd (s.length + 1) (readObject (fuel + 1) s) (readObject (fuel + 2) s) := by
  unfold Hcl.readObject
  split
  · exact .some (by grind)
  · refine (steady.expr false s (by grind)).bind fun (key, r) _ => .gap fun t _ => .part fun r assign => ?_
    have afterMark := readAssign_length assign
    refine .gap fun t _ => (steady.expr false t (by grind)).bind fun (value, r) _ => .part fun r separated => ?_
    have afterItem := readItemEnd_length separated
    exact (steady.object r (by grind)).bind fun (items, r) _ => .some (by grind)

theorem Steady.readForHead (steady : Steady fuel) (bound : 16 * s.length + 5 ≤ fuel + 1) :
    Settled (·.2.2.2) (s.length + 1) (readForHead (fuel + 1) s) (readForHead (fuel + 2) s) := by
  unfold Hcl.readForHead
  refine .ident fun (word, r) _ => ?_
  dsimp only
  split_ifs
  · exact .none
  · refine .part fun (key, value, r) names => ?_
    have shorter := readForNames_length names
    refine .gap fun t _ => (steady.expr true t (by grind)).bind fun (items, r) _ => .gap fun t _ => ?_
    split
    · exact .some (by grind)
    · exact .none

theorem Steady.readForTest (steady : Steady fuel) (bound : 16 * s.length + 5 ≤ fuel + 1) :
    Settled Prod.snd (s.length + 1) (readForTest (fuel + 1) s) (readForTest (fuel + 2) s) := by
  unfold Hcl.readForTest
  split
  · rename_i r word
    have shorter := readIdent_length word
    exact .gap fun t _ => (steady.expr true t (by grind)).bind fun (e, r) _ => .some (by grind)
  · exact .some (by grind)

theorem Steady.readPieces (steady : Steady fuel) (quoted : Bool) (bound : 16 * s.length + 1 ≤ fuel + 1) :
    Settled Prod.snd (s.length + 1) (readPieces quoted (fuel + 1) s) (readPieces quoted (fuel + 2) s) := by
  unfold Hcl.readPieces
  split
  · split_ifs
    · exact .none
    · exact .some (by grind)
  · exact (steady.pieces quoted _ (by grind)).bind fun (ps, r) _ => .some (by grind)
  · exact (steady.pieces quoted _ (by grind)).bind fun (ps, r) _ => .some (by grind)
  · refine (steady.interpolation _ (by grind)).bind fun r _ => ?_
    exact (steady.pieces quoted r (by grind)).bind fun (ps, r) _ => .some (by grind)
  · refine (steady.directive _ (by grind)).bind fun r _ => ?_
    exact (steady.pieces quoted r (by grind)).bind fun (ps, r) _ => .some (by grind)
  · split_ifs
    · exact .some (by grind)
    · refine .part fun (e, r) read => ?_
      have shorter := readEscape_length read
      exact (steady.pieces quoted r (by grind)).bind fun (ps, r) _ => .some (by grind)
    · exact (steady.pieces quoted _ (by grind)).bind fun (ps, r) _ => .some (by grind)

theorem Steady.readInterpolation (steady : Steady fuel) (bound : 16 * s.length + 5 ≤ fuel + 1) :
    Settled id (s.length + 1) (readInterpolation (fuel + 1) s) (readInterpolation (fuel + 2) s) := by
  unfold Hcl.readInterpolation
  have signed := readSign_length ['~'] s
  exact .gap fun t _ => (steady.expr true t (by grind)).bind fun (e, r) _ => .markupEnd (by grind)

theorem Steady.readDirective (steady : Steady fuel) (bound : 16 * s.length + 5 ≤ fuel + 1) :
    Settled id (s.length + 1) (readDirective (fuel + 1) s) (readDirective (fuel + 2) s) := by
  unfold Hcl.readDirective
  have signed := readSign_length ['~'] s
  refine .gap fun t _ => .ident fun (word, r) _ => ?_
  dsimp only
  split
  · exact .gap fun t _ => (steady.expr true t (by grind)).bind fun (e, r) _ => .markupEnd (by grind)
  · refine .part fun (key, value, r) names => ?_
    have shorter := readForNames_length names
    exact .gap fun t _ => (steady.expr true t (by grind)).bind fun (e, r) _ => .markupEnd (by grind)
  · exact .markupEnd (by grind)
  · exact .markupEnd (by grind)
  · exact .markupEnd (by grind)
  · exact .none

theorem steady : ∀ fuel, Steady fuel
  | 0 => by constructor <;> intros <;> omega
  | fuel + 1 =>
    have before := steady fuel
    { expr := fun _ _ => before.readExpr
      chain := fun _ e _ => before.readChain e
      operand := fun _ _ => before.readOperand
      access := fun _ e _ => before.readAccess e
      term := fun _ _ => before.readTerm
      namespaced := fun name _ => before.readNamespaced name
      sequence := fun close _ => before.readSequence close
      object := fun _ => before.readObject
      forHead := fun _ => before.readForHead
      forTest := fun _ => before.readForTest
      pieces := fun quoted _ => before.readPieces quoted
      interpolation := fun _ => before.readInterpolation
      directive := fun _ => before.readDirective }

theorem readLabels_settled (bound : 16 * s.length + 2 ≤ fuel) :
    Settled Prod.snd (s.length + 1) (readLabels fuel s) (readLabels (fuel + 1) s) := by
  induction fuel generalizing s with
  | zero => omega
  | succ fuel ih =>
    unfold readLabels
    refine .gap fun t _ => ?_
    split
    · refine ((steady fuel).pieces true _ (by grind)).bind fun (pieces, r) _ => .part fun label _ => ?_
      exact (ih (by grind)).bind fun (labels, r) _ => .some (by grind)
    · split
      · rename_i word
        have shorter := readIdent_length word
        exact (ih (by grind)).bind fun (labels, r) _ => .some (by grind)
      · exact .some (by grind)

/-- With so many steps, one more changes no answer of the readers of bodies. -/
structure SteadyBody (fuel : Nat) : Prop where
  items : ∀ inner seen s, 16 * s.length + 7 ≤ fuel →
    Settled Prod.snd (s.length + 1) (readItems inner fuel seen s) (readItems inner (fuel + 1) seen s)
  item : ∀ s, 16 * s.length + 6 ≤ fuel →
    Settled Prod.snd s.length (readItem fuel s) (readItem (fuel + 1) s)
  blockBody : ∀ s, 16 * s.length + 8 ≤ fuel →
    Settled Prod.snd (s.length + 1) (readBlockBody fuel s) (readBlockBody (fuel + 1) s)

theorem SteadyBody.readItems (steady : SteadyBody fuel) (inner : Bool) (seen : Seen)
    (bound : 16 * s.length + 7 ≤ fuel + 1) :
    Settled Prod.snd (s.length + 1) (readItems inner (fuel + 1) seen s) (readItems inner (fuel + 2) seen s) := by
  unfold Hcl.readItems
  refine .gap fun t _ => ?_
  dsimp only
  split
  · split_ifs
    · exact .none
    · exact .some (by grind)
  · split_ifs
    · exact .some (by grind)
    · exact .none
  · refine (steady.item t (by grind)).bind fun (item, r) _ => .part fun u ended => ?_
    have shorter := endLine_length ended
    dsimp only
    split
    · split_ifs
      · exact .none
      · exact (steady.items inner _ u (by grind)).bind fun (items, r) _ => .some (by grind)
    · exact (steady.items inner seen u (by grind)).bind fun (items, r) _ => .some (by grind)

theorem SteadyBody.readItem (steady : SteadyBody fuel) (bound : 16 * s.length + 6 ≤ fuel + 1) :
    Settled Prod.snd s.length (readItem (fuel + 1) s) (readItem (fuel + 2) s) := by
  unfold Hcl.readItem
  refine .ident fun (name, r) _ => .gap fun t _ => ?_
  split
  · exact .gap fun t _ => ((Hcl.steady fuel).expr false t (by grind)).bind fun (value, r) _ => .some (by grind)
  · refine (readLabels_settled (by grind)).bind fun (labels, r) _ => .gap fun t _ => ?_
    split
    · exact (steady.blockBody _ (by grind)).bind fun (body, r) _ => .some (by grind)
    · exact .none

theorem SteadyBody.readBlockBody (steady : SteadyBody fuel) (bound : 16 * s.length + 8 ≤ fuel + 1) :
    Settled Prod.snd (s.length + 1) (readBlockBody (fuel + 1) s) (readBlockBody (fuel + 2) s) := by
  unfold Hcl.readBlockBody
  refine .gap fun t _ => ?_
  split
  · exact .some (by grind)
  · split
    · rename_i ended
      have shorter := endLine_length ended
      split_ifs
      · exact .none
      · exact (steady.items true [] _ (by grind)).mono (by grind)
    · refine .ident fun (name, r) _ => .gap fun t _ => ?_
      split
      · refine .gap fun t _ => ((Hcl.steady fuel).expr false t (by grind)).bind fun (value, r) _ => .gap fun t _ => ?_
        split
        · exact .some (by grind)
        · exact .none
      · exact .none

theorem steadyBody : ∀ fuel, SteadyBody fuel
  | 0 => by constructor <;> intros <;> omega
  | fuel + 1 =>
    have before := steadyBody fuel
    { items := fun inner seen _ => before.readItems inner seen
      item := fun _ => before.readItem
      blockBody := fun _ => before.readBlockBody }

/-- The steps that a document is read with are enough: with any more it is read the same. -/
theorem parse?_eq_of_le {text : String} {fuel : Nat} (enough : 16 * text.toList.length + 16 ≤ fuel) :
    (readItems false fuel [] text.toList).map Prod.fst = parse? text :=
  congrArg (Option.map Prod.fst) <| Settled.eq_of_le
    (fun fuel more => (steadyBody fuel).items false [] text.toList (by omega)) enough

end Hcl

end ServiceKit
