import Mathlib.Algebra.Order.Field.Power
import Mathlib.Data.Rat.Cast.Order
import Mathlib.Tactic.FieldSimp
import Mathlib.Tactic.Linarith
import Mathlib.Tactic.Positivity
import Mathlib.Tactic.Qify
import Mathlib.Tactic.Ring
import ServiceKit.Number.Binary64

namespace ServiceKit

namespace Binary64

theorem ratio_pos (x : Binary64) : 0 < x.ratio.2 := by
  unfold ratio
  split_ifs
  · exact Nat.one_pos
  · exact Nat.two_pow_pos _

/-- The number without its sign. -/
def magnitude (x : Binary64) : ℚ :=
  x.mant * 2 ^ x.exp

theorem ratio_eq (x : Binary64) : (x.ratio.1 : ℚ) / x.ratio.2 = x.magnitude := by
  unfold ratio magnitude
  split_ifs with whole
  · obtain ⟨e, exponent⟩ := Int.eq_ofNat_of_zero_le whole
    simp [exponent]
  · obtain ⟨e, exponent⟩ := Int.eq_ofNat_of_zero_le (by omega : 0 ≤ -x.exp)
    rw [exponent, Int.toNat_natCast, ← neg_neg x.exp, exponent, zpow_neg]
    simp [div_eq_mul_inv]

theorem unscale_eq (num den : Nat) (e : Int) :
    ((unscale num den e).1 : ℚ) / (unscale num den e).2 = num / den / 2 ^ e := by
  unfold unscale
  split_ifs with whole
  · obtain ⟨n, exponent⟩ := Int.eq_ofNat_of_zero_le whole
    simp [exponent, div_div]
  · obtain ⟨n, exponent⟩ := Int.eq_ofNat_of_zero_le (by omega : 0 ≤ -e)
    rw [exponent, Int.toNat_natCast, ← neg_neg e, exponent, zpow_neg]
    simp [div_eq_mul_inv, mul_right_comm]

theorem unscale_pos {num den : Nat} (positive : 0 < den) (e : Int) : 0 < (unscale num den e).2 := by
  unfold unscale
  split_ifs
  · exact Nat.mul_pos positive (Nat.two_pow_pos _)
  · exact positive

/-- What rounds to an even number or above is at most half a unit below it: a tie goes to the even
neighbour. -/
theorem le_roundHalfEven_iff {m num den : Nat} (positive : 0 < den) (even : m % 2 = 0) (nonzero : 0 < m) :
    m ≤ roundHalfEven num den ↔ (2 * m - 1) * den ≤ 2 * num := by
  have halves : 2 * num / den = 2 * (num / den) + 2 * (num % den) / den := by
    have parts : 2 * num = den * (2 * (num / den)) + 2 * (num % den) := by
      rw [Nat.mul_left_comm, ← Nat.mul_add, Nat.div_add_mod]
    rw [parts, Nat.mul_add_div positive]
  have below : num % den < den := Nat.mod_lt num positive
  rw [← Nat.le_div_iff_mul_le positive, halves]
  unfold roundHalfEven
  dsimp only
  split_ifs with low high tie
  · have none : 2 * (num % den) / den = 0 := Nat.div_eq_of_lt low
    omega
  all_goals
    have one : 2 * (num % den) / den = 1 := Nat.div_eq_of_lt_le (by omega) (by omega)
    omega

theorem div_le_roundHalfEven (num den : Nat) : num / den ≤ roundHalfEven num den := by
  unfold roundHalfEven
  dsimp only
  split_ifs <;> omega

/-- A whole number that a quotient has reached is not lost by rounding. -/
theorem le_roundHalfEven {m num den : Nat} (positive : 0 < den) (reached : (m : ℚ) ≤ num / den) :
    m ≤ roundHalfEven num den := by
  have whole : m * den ≤ num := by
    rw [le_div_iff₀ (by exact_mod_cast positive)] at reached
    exact_mod_cast reached
  exact ((Nat.le_div_iff_mul_le positive).mpr whole).trans (div_le_roundHalfEven num den)

/-- A quotient has a bit for each exponent up to the difference of the lengths of its terms. -/
theorem two_zpow_le_div {num den : Nat} {e : Int} (nonzero : num ≠ 0) (positive : 0 < den)
    (short : e ≤ (num.log2 : Int) - den.log2 - 1) : (2 : ℚ) ^ e ≤ num / den := by
  have below : (den : ℚ) ≤ 2 ^ ((den.log2 : Int) + 1) := by exact_mod_cast Nat.lt_log2_self.le
  have above : (2 : ℚ) ^ (num.log2 : Int) ≤ num := by exact_mod_cast Nat.log2_self_le nonzero
  rw [le_div_iff₀ (by exact_mod_cast positive)]
  calc (2 : ℚ) ^ e * den ≤ 2 ^ e * 2 ^ ((den.log2 : Int) + 1) := by gcongr
    _ = 2 ^ (e + (den.log2 + 1)) := (zpow_add₀ two_ne_zero ..).symm
    _ ≤ 2 ^ (num.log2 : Int) := zpow_le_zpow_right₀ one_le_two (by omega)
    _ ≤ num := above

/-- What a quotient is rounded to is a whole number of units. Unless the unit is the least one, the quotient
has 53 bits above it. -/
theorem exists_exponent {neg : Bool} {num den : Nat} {x : Binary64} (nonzero : num ≠ 0) (positive : 0 < den)
    (rounded : ofRatio? neg num den = some x) :
    ∃ e : Int, (e = leastExp ∨ (2 : ℚ) ^ (e + 52) ≤ num / den) ∧
      x.magnitude = roundHalfEven (unscale num den e).1 (unscale num den e).2 * 2 ^ e := by
  rw [ofRatio?, if_neg nonzero] at rounded
  -- The bound is made a variable, so that nothing below computes with it.
  obtain ⟨full, isFull⟩ : ∃ n, n = pow2 53 := ⟨_, rfl⟩
  have double : full = 2 * pow2 52 := by
    rw [isFull]
    decide
  rw [← isFull] at rounded
  dsimp -zeta only at rounded
  extract_lets guess e m at rounded
  have full_bits : e = leastExp ∨ (2 : ℚ) ^ (e + 52) ≤ num / den := by
    have start : guess = max ((num.log2 : Int) - den.log2 - 53) leastExp := rfl
    unfold e
    split_ifs with short
    · by_cases least : guess = leastExp
      · exact Or.inl least
      · exact Or.inr (two_zpow_le_div nonzero positive (by omega))
    · have scaled := unscale_eq num den guess
      have unit : (0 : ℚ) < 2 ^ guess := by positivity
      have bits : (full : ℚ) ≤ (unscale num den guess).1 / (unscale num den guess).2 := by
        rw [le_div_iff₀ (by exact_mod_cast unscale_pos positive guess)]
        exact_mod_cast (Nat.mul_comm .. ▸ Nat.le_of_not_lt short)
      rw [scaled, le_div_iff₀ unit, isFull] at bits
      refine Or.inr (le_trans (le_of_eq ?_) bits)
      rw [show guess + 1 + 52 = (53 : Nat) + guess by omega, zpow_add₀ two_ne_zero, zpow_natCast]
      norm_cast
  obtain ⟨-, made⟩ := Option.ite_none_right_eq_some.mp rounded
  obtain rfl := Option.some.inj made
  refine ⟨e, full_bits, ?_⟩
  change magnitude _ = m * 2 ^ e
  unfold magnitude
  by_cases carried : m = full
  · rw [if_pos carried, carried, double, Nat.cast_mul, Nat.cast_ofNat, zpow_add_one₀ two_ne_zero]
    ring
  · rw [if_neg carried]

/-- A quotient that has reached a power of two is not rounded to less. -/
theorem two_pow_le_of_ofRatio? {neg : Bool} {num den k : Nat} {x : Binary64} (positive : 0 < den)
    (reached : (2 : ℚ) ^ k ≤ num / den) (rounded : ofRatio? neg num den = some x) : 2 ^ k ≤ x.magnitude := by
  have nonzero : num ≠ 0 := by
    rintro rfl
    have power : (0 : ℚ) < 2 ^ k := by positivity
    simp only [Nat.cast_zero, zero_div] at reached
    exact absurd reached power.not_ge
  obtain ⟨e, bits, value⟩ := exists_exponent nonzero positive rounded
  have unit : (0 : ℚ) < 2 ^ e := by positivity
  have scaled := unscale_eq num den e
  have round {m : Nat} (le : m * 2 ^ e ≤ (num : ℚ) / den) : m * 2 ^ e ≤ x.magnitude := by
    have atUnit : (m : ℚ) ≤ (unscale num den e).1 / (unscale num den e).2 := by
      rwa [scaled, le_div_iff₀ unit]
    have kept := le_roundHalfEven (unscale_pos positive e) atUnit
    rw [value]
    exact mul_le_mul_of_nonneg_right (by exact_mod_cast kept) unit.le
  by_cases small : e ≤ k
  · -- The power is a whole number of units.
    have whole : ((2 ^ ((k : Int) - e).toNat : Nat) : ℚ) * 2 ^ e = 2 ^ k := by
      rw [Nat.cast_pow, Nat.cast_ofNat, ← zpow_natCast, ← zpow_add₀ two_ne_zero,
        Int.toNat_of_nonneg (by omega), Int.sub_add_cancel, zpow_natCast]
    rw [← whole] at reached ⊢
    exact round reached
  · -- One unit is more than the power.
    have normal : e ≠ leastExp := by
      have least : leastExp = -1074 := rfl
      omega
    have bit : (2 : ℚ) ^ e ≤ num / den :=
      (zpow_le_zpow_right₀ one_le_two (by omega)).trans (bits.resolve_left normal)
    calc (2 : ℚ) ^ k = 2 ^ (k : Int) := (zpow_natCast ..).symm
      _ ≤ 2 ^ e := zpow_le_zpow_right₀ one_le_two (by omega)
      _ = (1 : Nat) * 2 ^ e := by rw [Nat.cast_one, one_mul]
      _ ≤ x.magnitude := round (by rwa [Nat.cast_one, one_mul])

theorem ofDecimal?_whole (neg : Bool) (n : Nat) :
    ofDecimal? neg n 0 = none ∨ ofDecimal? neg n 0 = ofRatio? neg n 1 := by
  by_cases zero : n = 0
  · exact Or.inr (by rw [ofDecimal?, if_pos zero, ofRatio?, if_pos zero])
  · rw [ofDecimal?, if_neg zero]
    dsimp only
    split_ifs with high low natural
    · exact Or.inl rfl
    · omega
    · refine Or.inr ?_
      simp [pow10]
    · omega

/-- Digits write a number that is at least as large as any power of two that they have reached. -/
theorem two_pow_le_of_ofDecimal? {neg : Bool} {n k : Nat} {x : Binary64} (reached : 2 ^ k ≤ n)
    (read : ofDecimal? neg n 0 = some x) : 2 ^ k ≤ x.magnitude := by
  rcases ofDecimal?_whole neg n with tooLarge | same
  · cases tooLarge.symm.trans read
  · refine two_pow_le_of_ofRatio? Nat.one_pos ?_ (same.symm.trans read)
    rw [Nat.cast_one, div_one]
    exact_mod_cast reached

/-- A scaled magnitude is the product rounded once. -/
theorem exists_ratio_of_scaleMagnitude? {x y : Binary64} {factor : Nat} (scaled : x.scaleMagnitude? factor = some y) :
    ∃ num den : Nat, 0 < den ∧ (num : ℚ) / den = x.magnitude * (ofInt factor).magnitude ∧
      ofRatio? false num den = some y :=
  ⟨x.ratio.1 * (ofInt factor).ratio.1, x.ratio.2 * (ofInt factor).ratio.2,
    Nat.mul_pos x.ratio_pos (ofInt factor).ratio_pos,
    by rw [← ratio_eq, ← ratio_eq, div_mul_div_comm, Nat.cast_mul, Nat.cast_mul], scaled⟩

/-- A factor of one or more brings a number below no power of two that it has reached. -/
theorem two_pow_le_of_scaleMagnitude? {x y : Binary64} {factor k : Nat} (reached : 2 ^ k ≤ x.magnitude)
    (grows : 1 ≤ (ofInt factor).magnitude) (scaled : x.scaleMagnitude? factor = some y) :
    2 ^ k ≤ y.magnitude := by
  obtain ⟨num, den, positive, product, rounded⟩ := exists_ratio_of_scaleMagnitude? scaled
  refine two_pow_le_of_ofRatio? positive ?_ rounded
  rw [product]
  exact reached.trans (le_mul_of_one_le_right (le_trans (by positivity) reached) grows)

/-- What has reached the upper bound is clamped to it. -/
theorem roundClamped_of_le {high : Nat} {x : Binary64} (reached : (high : ℚ) ≤ x.magnitude) :
    x.roundClamped high = high := by
  have positive := x.ratio_pos
  have whole : high * x.ratio.2 ≤ x.ratio.1 := by
    rw [← ratio_eq, le_div_iff₀ (by exact_mod_cast positive)] at reached
    exact_mod_cast reached
  have kept : high ≤ roundHalfUp x.ratio.1 x.ratio.2 := by
    refine (Nat.le_div_iff_mul_le (Nat.mul_pos two_pos positive)).mpr ?_
    rw [Nat.mul_left_comm]
    omega
  exact Nat.min_eq_left kept

/-! ### Accuracy -/

/-- Bits and digits compared as for the range of decimals: 30103 digits are enough for 100000 bits. -/
theorem two_pow_le_ten_pow {bits digits : Nat} (share : bits * 30103 ≤ 100000 * digits) :
    2 ^ bits ≤ 10 ^ digits := by
  have base : 2 ^ 100000 ≤ 10 ^ 30103 := by decide +kernel
  refine (Nat.pow_le_pow_iff_left (by decide : 30103 ≠ 0)).mp ?_
  calc (2 ^ bits) ^ 30103 = 2 ^ (bits * 30103) := (pow_mul ..).symm
    _ ≤ 2 ^ (100000 * digits) := Nat.pow_le_pow_right (by decide) share
    _ = (2 ^ 100000) ^ digits := pow_mul ..
    _ ≤ (10 ^ 30103) ^ digits := Nat.pow_le_pow_left base digits
    _ = (10 ^ digits) ^ 30103 := pow_right_comm ..

/-- A whole number whose product with the denominator misses the numerator by half the denominator at most. -/
theorem abs_sub_div_le_half {m num den : Nat} (positive : 0 < den) (above : 2 * (den * m) ≤ 2 * num + den)
    (below : 2 * num ≤ 2 * (den * m) + den) : |(m : ℚ) - num / den| ≤ 1 / 2 := by
  have unit : (0 : ℚ) < den := by exact_mod_cast positive
  have above : 2 * ((den : ℚ) * m) ≤ 2 * num + den := by exact_mod_cast above
  have below : 2 * (num : ℚ) ≤ 2 * (den * m) + den := by exact_mod_cast below
  have common : (m : ℚ) - num / den = (den * m - num) / den := by field_simp
  rw [common, abs_div, abs_of_pos unit, div_le_iff₀ unit, abs_le]
  constructor <;> linarith

theorem roundHalfEven_near {num den : Nat} (positive : 0 < den) :
    |(roundHalfEven num den : ℚ) - num / den| ≤ 1 / 2 := by
  have parts : den * (num / den) + num % den = num := Nat.div_add_mod num den
  have part : num % den < den := Nat.mod_lt num positive
  have next : den * (num / den + 1) = den * (num / den) + den := Nat.mul_add_one ..
  unfold roundHalfEven
  dsimp only
  split_ifs <;> exact abs_sub_div_le_half positive (by omega) (by omega)

theorem roundHalfUp_near {num den : Nat} (positive : 0 < den) :
    |(roundHalfUp num den : ℚ) - num / den| ≤ 1 / 2 := by
  have parts := Nat.div_add_mod (2 * num + den) (2 * den)
  have part : (2 * num + den) % (2 * den) < 2 * den := Nat.mod_lt _ (by omega)
  rw [Nat.mul_assoc] at parts
  exact abs_sub_div_le_half positive (by unfold roundHalfUp; omega) (by unfold roundHalfUp; omega)

/-- A magnitude that misses a number by no more than rounding to the format does. -/
def Near (x : Binary64) (q : ℚ) : Prop :=
  |x.magnitude - q| ≤ q / 2 ^ 53 + 2 ^ (leastExp - 1)

theorem near_zero {neg : Bool} {q : ℚ} (natural : 0 ≤ q) (small : q ≤ 2 ^ (leastExp - 1)) :
    (zero neg).Near q := by
  have none : (zero neg).magnitude = 0 := by simp [magnitude, zero]
  rw [Near, none, zero_sub, abs_neg, abs_of_nonneg natural]
  exact small.trans (le_add_of_nonneg_left (by positivity))

/-- Rounding a quotient loses half a unit, and the unit is the least one or the quotient has 53 bits above
it. -/
theorem near_of_ofRatio? {neg : Bool} {num den : Nat} {x : Binary64} (positive : 0 < den)
    (rounded : ofRatio? neg num den = some x) : x.Near (num / den) := by
  by_cases nonzero : num = 0
  · rw [ofRatio?, if_pos nonzero] at rounded
    obtain rfl := Option.some.inj rounded
    rw [nonzero, Nat.cast_zero, zero_div]
    exact near_zero le_rfl (by positivity)
  · obtain ⟨e, bits, value⟩ := exists_exponent nonzero positive rounded
    have unit : (0 : ℚ) < 2 ^ e := by positivity
    have scaled : (num : ℚ) / den = (unscale num den e).1 / (unscale num den e).2 * 2 ^ e := by
      rw [unscale_eq, div_mul_cancel₀ _ unit.ne']
    have half : |x.magnitude - num / den| ≤ 1 / 2 * 2 ^ e := by
      rw [value, scaled, ← sub_mul, abs_mul, abs_of_pos unit]
      exact mul_le_mul_of_nonneg_right (roundHalfEven_near (unscale_pos positive e)) unit.le
    have natural : (0 : ℚ) ≤ num / den := by positivity
    refine half.trans ?_
    rcases bits with rfl | bits
    · have last : (1 / 2 * 2 ^ leastExp : ℚ) = 2 ^ (leastExp - 1) := by
        rw [zpow_sub_one₀ two_ne_zero]
        ring
      rw [last]
      exact le_add_of_nonneg_left (by positivity)
    · have power : (2 : ℚ) ^ (e + 52) = 2 ^ e * 2 ^ 52 := zpow_add₀ two_ne_zero e 52
      have last : (1 / 2 * 2 ^ e : ℚ) ≤ num / den / 2 ^ 53 := by
        rw [le_div_iff₀ (by positivity)]
        linarith
      exact last.trans (le_add_of_nonneg_right (by positivity))

/-- Decimals are rounded once, however many places they have. What is taken for zero by its exponent alone is
too small for the format. -/
theorem near_of_ofDecimal? {neg : Bool} {n places : Nat} {x : Binary64}
    (read : ofDecimal? neg n (-(places : Int)) = some x) : x.Near (n / 10 ^ places) := by
  by_cases nonzero : n = 0
  · rw [ofDecimal?, if_pos nonzero] at read
    obtain rfl := Option.some.inj read
    rw [nonzero, Nat.cast_zero, zero_div]
    exact near_zero le_rfl (by positivity)
  · rw [ofDecimal?, if_neg nonzero] at read
    dsimp only at read
    split_ifs at read with high low whole
    · obtain rfl := Option.some.inj read
      refine near_zero (by positivity) ?_
      have bits : n < 2 ^ (n.log2 + 1) := Nat.lt_log2_self
      have digits : 2 ^ (n.log2 + 1 + 1075) ≤ 10 ^ places := two_pow_le_ten_pow (by omega)
      have room : n * 2 ^ 1075 ≤ 10 ^ places := by
        rw [pow_add] at digits
        exact (Nat.mul_le_mul_right _ bits.le).trans digits
      have last : (2 : ℚ) ^ (leastExp - 1) = (2 ^ 1075)⁻¹ := by
        rw [← zpow_natCast, ← zpow_neg]
        rfl
      rw [last, div_le_iff₀ (by positivity), inv_mul_eq_div, le_div_iff₀ (by positivity)]
      exact_mod_cast room
    · obtain rfl : places = 0 := by omega
      have near := near_of_ofRatio? Nat.one_pos read
      simpa using near
    · rw [neg_neg, Int.toNat_natCast] at read
      have near := near_of_ofRatio? (Nat.pow_pos (by decide)) read
      rwa [Nat.cast_pow, Nat.cast_ofNat] at near

theorem near_of_scaleMagnitude? {x y : Binary64} {factor : Nat} (scaled : x.scaleMagnitude? factor = some y) :
    y.Near (x.magnitude * (ofInt factor).magnitude) := by
  obtain ⟨num, den, positive, product, rounded⟩ := exists_ratio_of_scaleMagnitude? scaled
  rw [← product]
  exact near_of_ofRatio? positive rounded

theorem roundClamped_near (high : Nat) (x : Binary64) :
    x.roundClamped high = high ∨ |(x.roundClamped high : ℚ) - x.magnitude| ≤ 1 / 2 := by
  have positive := x.ratio_pos
  rcases Nat.le_total high (roundHalfUp x.ratio.1 x.ratio.2) with clamped | free
  · exact Or.inl (Nat.min_eq_left clamped)
  · have same : x.roundClamped high = roundHalfUp x.ratio.1 x.ratio.2 := Nat.min_eq_right free
    have value := x.ratio_eq
    rw [same, ← value]
    exact Or.inr (roundHalfUp_near positive)

end Binary64

end ServiceKit
