import Mathlib.Data.List.TakeWhile
import Mathlib.Tactic.SplitIfs
import ServiceKit.Net.Ip

namespace ServiceKit

namespace Ip

/-- The characters that addresses are written with. -/
def Glyph (c : Char) : Prop :=
  (Integer.digitValue? 16 c).isSome ∨ c = '.' ∨ c = ':'

instance (c : Char) : Decidable (Glyph c) :=
  inferInstanceAs (Decidable (_ ∨ _ ∨ _))

/-- What is left of a text once some of these characters are read off its front. -/
def Eats (s rest : List Char) : Prop :=
  ∃ eaten, s = eaten ++ rest ∧ ∀ c ∈ eaten, Glyph c

namespace Eats

theorem refl (s : List Char) : Eats s s :=
  ⟨[], rfl, nofun⟩

theorem cons {c : Char} {s rest : List Char} (glyph : Glyph c) (later : Eats s rest) : Eats (c :: s) rest := by
  obtain ⟨eaten, rfl, glyphs⟩ := later
  exact ⟨c :: eaten, rfl, List.forall_mem_cons.mpr ⟨glyph, glyphs⟩⟩

theorem trans {s t rest : List Char} (first : Eats s t) (later : Eats t rest) : Eats s rest := by
  obtain ⟨eaten, rfl, glyphs⟩ := first
  obtain ⟨more, rfl, glyphs'⟩ := later
  exact ⟨eaten ++ more, (List.append_assoc ..).symm, List.forall_mem_append.mpr ⟨glyphs, glyphs'⟩⟩

end Eats

theorem glyph_of_digit {base : Nat} {c : Char} (small : base ≤ 16)
    (digit : (Integer.digitValue? base c).isSome) : Glyph c := by
  obtain ⟨n, value⟩ := Option.isSome_iff_exists.mp digit
  obtain ⟨found, below⟩ := Option.filter_eq_some_iff.mp value
  have within : decide (n < 16) = true := by
    have bound : n < base := by simpa using below
    exact decide_eq_true (by omega)
  exact Or.inl (Option.isSome_iff_exists.mpr ⟨n, Option.filter_eq_some_iff.mpr ⟨found, within⟩⟩)

theorem readGroup_eats {base most : Nat} {padded : Bool} {s rest : List Char} {n : Nat} (small : base ≤ 16)
    (read : readGroup base most padded s = some (n, rest)) : Eats s rest := by
  unfold readGroup at read
  dsimp only at read
  split_ifs at read
  cases read
  refine ⟨_, List.takeWhile_append_dropWhile.symm, fun c member => glyph_of_digit small ?_⟩
  exact List.mem_takeWhile_imp (p := fun c => (Integer.digitValue? base c).isSome) member

theorem readOctet_eats {padded first : Bool} {s rest : List Char} {n : Nat}
    (read : readOctet padded first s = some (n, rest)) : Eats s rest := by
  have group : ∀ body, ((readGroup 10 3 padded body).bind fun x => if x.1 < 256 then some x else none) =
      some (n, rest) → Eats body rest := by
    intro body read
    obtain ⟨⟨m, left⟩, atGroup, read⟩ := Option.bind_eq_some_iff.mp read
    split_ifs at read
    cases read
    exact readGroup_eats (by decide) atGroup
  unfold readOctet at read
  cases first with
  | true => exact group s read
  | false =>
    dsimp only at read
    rw [if_neg Bool.false_ne_true] at read
    split at read
    · exact (group _ read).cons (Or.inr (Or.inl rfl))
    · cases read

theorem readOctets_eats {padded : Bool} {s rest : List Char} {n : Nat}
    (read : readOctets padded s = some (n, rest)) : Eats s rest := by
  obtain ⟨⟨a, afterFirst⟩, first, read⟩ := Option.bind_eq_some_iff.mp read
  obtain ⟨⟨b, afterSecond⟩, second, read⟩ := Option.bind_eq_some_iff.mp read
  obtain ⟨⟨c, afterThird⟩, third, read⟩ := Option.bind_eq_some_iff.mp read
  obtain ⟨⟨d, afterFourth⟩, fourth, read⟩ := Option.bind_eq_some_iff.mp read
  cases read
  exact (readOctet_eats first).trans ((readOctet_eats second).trans
    ((readOctet_eats third).trans (readOctet_eats fourth)))

theorem readGroups_eats (padded : Bool) (limit : Nat) (first : Bool) (s : List Char) :
    Eats s (readGroups padded limit first s).2.2 := by
  induction limit generalizing first s with
  | zero => exact .refl s
  | succ limit ih =>
    unfold readGroups
    dsimp only
    split
    · exact .refl s
    · rename_i body start
      have lead : Eats s body := by
        split at start
        · cases start
          exact .refl _
        · split at start
          · cases start
            exact (Eats.refl _).cons (Or.inr (Or.inr rfl))
          · cases start
      split
      · rename_i dotted
        split at dotted
        · exact lead.trans (readOctets_eats dotted)
        · cases dotted
      · split
        · exact .refl s
        · rename_i group
          exact (lead.trans (readGroup_eats (by decide) group)).trans (ih false _)

theorem readV6_eats {padded : Bool} {gap : Nat} {s rest : List Char} {a : BitVec 128}
    (read : readV6 padded gap s = some (a, rest)) : Eats s rest := by
  have colon : Glyph ':' := Or.inr (Or.inr rfl)
  have start := readGroups_eats padded 8 true s
  unfold readV6 at read
  generalize readGroups padded 8 true s = groups at read start
  obtain ⟨head, dotted, left⟩ := groups
  dsimp only at read start
  split_ifs at read
  · cases read
    exact start
  · split at read
    · rename_i after
      cases read
      exact start.trans ((((readGroups_eats padded _ true after)).cons colon).cons colon)
    · cases read

theorem readV4_eats {padded : Bool} {s rest : List Char} {a : BitVec 32}
    (read : readV4 padded s = some (a, rest)) : Eats s rest := by
  obtain ⟨⟨n, left⟩, octets, same⟩ := Option.map_eq_some_iff.mp read
  cases same
  exact readOctets_eats octets

/-- An address that stands alone is made of such characters. -/
theorem glyphs_of_parse? {s : String} {ip : Ip} (read : parse? s = some ip) : ∀ c ∈ s.toList, Glyph c := by
  have whole : Eats s.toList [] := by
    unfold parse? at read
    split at read
    · rename_i short
      exact readV4_eats short
    · split at read
      · rename_i long
        exact readV6_eats long
      · cases read
  obtain ⟨eaten, same, glyphs⟩ := whole
  rwa [same, List.append_nil]

end Ip

end ServiceKit
