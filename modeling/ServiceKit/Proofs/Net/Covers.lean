import Mathlib.Data.Nat.Bitwise
import ServiceKit.Net.Cidr

namespace ServiceKit

/-- A bit of an address, counted from the left. -/
def Ip.leadingBit : Ip → Nat → Bool
  | .v4 a, i => a.getMsbD i
  | .v6 a, i => a.getMsbD i

namespace Cidr

/-- The addresses of a network are those of its kind that begin with the same bits. -/
def Covers (net : Cidr) (ip : Ip) : Prop :=
  net.addr.isV4 = ip.isV4 ∧ ∀ i < net.length, net.addr.leadingBit i = ip.leadingBit i

instance (net : Cidr) (ip : Ip) : Decidable (net.Covers ip) :=
  inferInstanceAs (Decidable (_ ∧ ∀ i < net.length, net.addr.leadingBit i = ip.leadingBit i))

/-- Two words agree after a division by a power of two exactly if they begin with the same bits. -/
theorem div_pow2_eq_iff {width : Nat} (a b : BitVec width) (length : Nat) :
    a.toNat / pow2 (width - length) = b.toNat / pow2 (width - length) ↔
      ∀ i < length, a.getMsbD i = b.getMsbD i := by
  constructor
  · intro same i before
    simp only [BitVec.getMsbD_eq_getLsbD]
    by_cases inside : i < width
    · have shifted := congrArg (·.testBit (width - 1 - i - (width - length))) same
      have index : width - 1 - i - (width - length) + (width - length) = width - 1 - i := by omega
      simp only [pow2, Nat.pow_eq, Nat.testBit_div_two_pow, index, BitVec.testBit_toNat] at shifted
      rw [shifted]
    · simp [inside]
  · intro agree
    refine Nat.eq_of_testBit_eq fun j => ?_
    simp only [pow2, Nat.pow_eq, Nat.testBit_div_two_pow, BitVec.testBit_toNat]
    by_cases inside : j + (width - length) < width
    · have bit := agree (width - 1 - (j + (width - length))) (by omega)
      have index : width - 1 - (width - 1 - (j + (width - length))) = j + (width - length) := by omega
      simpa [BitVec.getMsbD_eq_getLsbD, index, show width - 1 - (j + (width - length)) < width by omega]
        using bit
    · rw [BitVec.getLsbD_of_ge _ _ (by omega), BitVec.getLsbD_of_ge _ _ (by omega)]

theorem contains_iff_covers (net : Cidr) (ip : Ip) : net.contains ip = true ↔ net.Covers ip := by
  obtain ⟨addr, length⟩ := net
  cases addr with
  | v4 a =>
    cases ip with
    | v4 b =>
      simp only [contains, Covers, Ip.isV4, beq_self_eq_true, Bool.true_and, beq_iff_eq, true_and]
      exact div_pow2_eq_iff a b length
    | v6 b => simp [contains, Covers, Ip.isV4]
  | v6 a =>
    cases ip with
    | v4 b => simp [contains, Covers, Ip.isV4]
    | v6 b =>
      simp only [contains, Covers, Ip.isV4, beq_self_eq_true, Bool.true_and, beq_iff_eq, true_and]
      exact div_pow2_eq_iff a b length

end Cidr

end ServiceKit
