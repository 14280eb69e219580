import Mathlib.Algebra.BigOperators.Ring.Finset
import Mathlib.Algebra.Order.BigOperators.Group.List
import Mathlib.Algebra.Order.Floor.Semifield
import Mathlib.Data.Rat.Floor
import Mathlib.Tactic.Linarith
import ServiceKit.Proofs.Value.Duration

namespace ServiceKit

namespace Integer

theorem decimal_append (front back : List Char) :
    decimal (front ++ back) = decimal front * 10 ^ back.length + decimal back := by
  induction front with
  | nil => simp [decimal]
  | cons c front ih =>
    rw [List.cons_append, decimal_cons, decimal_cons, ih, List.length_append, pow_add]
    ring

/-- The part of one that digits behind a point write. -/
def fraction (digits : List Char) : ℚ :=
  decimal digits / 10 ^ digits.length

theorem fraction_append (front back : List Char) :
    fraction (front ++ back) = fraction front + fraction back / 10 ^ front.length := by
  unfold fraction
  rw [decimal_append, List.length_append, pow_add]
  push_cast
  field_simp

theorem fraction_lt_one {digits : List Char} (all : ∀ c ∈ digits, c.isDigit) : fraction digits < 1 := by
  rw [fraction, div_lt_one (by positivity)]
  exact_mod_cast decimal_lt all

theorem fraction_nonneg (digits : List Char) : 0 ≤ fraction digits := by
  unfold fraction
  positivity

/-- Behind the first digits of a fraction there is less than one of the last of them. -/
theorem fraction_take {digits : List Char} (all : ∀ c ∈ digits, c.isDigit) (n : Nat) :
    fraction (digits.take n) ≤ fraction digits ∧ fraction digits < fraction (digits.take n) + 1 / 10 ^ n := by
  have parts := fraction_append (digits.take n) (digits.drop n)
  rw [List.take_append_drop] at parts
  have positive := fraction_nonneg (digits.drop n)
  have small : fraction (digits.drop n) < 1 := fraction_lt_one fun c member => all c (List.mem_of_mem_drop member)
  by_cases short : digits.length ≤ n
  · rw [List.take_of_length_le short]
    exact ⟨le_rfl, lt_add_of_pos_right _ (by positivity)⟩
  · have length : (digits.take n).length = n := by
      rw [List.length_take]
      omega
    rw [length] at parts
    rw [parts]
    exact ⟨le_add_of_nonneg_right (by positivity), by gcongr⟩

end Integer

namespace Value

namespace WrittenCount

/-- The nanoseconds that a count writes, with nothing cut off. -/
def exact (c : WrittenCount) : ℚ :=
  (Integer.decimal c.whole + Integer.fraction (c.frac.getD [])) * c.unit.nanos

/-- A count of whole nanoseconds whose digits are all read. -/
structure Whole (c : WrittenCount) : Prop where
  natural : ∃ n : Nat, c.exact = n
  short : (c.frac.getD []).length ≤ 18

/-- The nanoseconds of a count with its fraction cut after eighteen digits. -/
def cut (c : WrittenCount) : ℚ :=
  (Integer.decimal c.whole + Integer.fraction ((c.frac.getD []).take 18)) * c.unit.nanos

theorem nanos_eq_floor (c : WrittenCount) : c.nanos = ⌊c.cut⌋₊ := by
  let digits := (c.frac.getD []).take 18
  have parts : c.cut = (Integer.decimal digits * c.unit.nanos : Nat) / (10 ^ digits.length : Nat) +
      (Integer.decimal c.whole * c.unit.nanos : Nat) := by
    rw [cut, Integer.fraction]
    push_cast
    ring
  rw [parts, Nat.floor_add_natCast (by positivity), Nat.floor_div_eq_div, Nat.add_comm]
  rfl

theorem cut_bounds (c : WrittenCount) : c.cut ≤ c.exact ∧ c.exact < c.cut + c.unit.nanos / 10 ^ 18 := by
  have scale : (0 : ℚ) < c.unit.nanos := by exact_mod_cast c.unit.nanos_pos
  obtain ⟨below, above⟩ := Integer.fraction_take c.frac_digits 18
  refine ⟨mul_le_mul_of_nonneg_right (by linarith) scale.le, ?_⟩
  calc c.exact < (Integer.decimal c.whole + (Integer.fraction ((c.frac.getD []).take 18) + 1 / 10 ^ 18)) *
        c.unit.nanos := mul_lt_mul_of_pos_right (by linarith) scale
    _ = c.cut + c.unit.nanos / 10 ^ 18 := by rw [cut]; ring

theorem cut_nonneg (c : WrittenCount) : 0 ≤ c.cut := by
  have positive := Integer.fraction_nonneg ((c.frac.getD []).take 18)
  unfold cut
  positivity

/-- What a count that is read as so many nanoseconds does not reach. It loses less than one of them when it is
cut to whole ones, and before that less than its unit in the eighteenth digit. -/
def upper (c : WrittenCount) : ℚ :=
  c.nanos + 1 + c.unit.nanos / 10 ^ 18

theorem exact_bounds (c : WrittenCount) : (c.nanos : ℚ) ≤ c.exact ∧ c.exact < c.upper := by
  obtain ⟨below, above⟩ := c.cut_bounds
  have floor := Nat.floor_le c.cut_nonneg
  have next := Nat.lt_floor_add_one c.cut
  rw [← nanos_eq_floor] at floor next
  refine ⟨floor.trans below, ?_⟩
  rw [upper]
  linarith

theorem Whole.nanos_eq {c : WrittenCount} (whole : c.Whole) : (c.nanos : ℚ) = c.exact := by
  obtain ⟨⟨n, natural⟩, short⟩ := whole
  have uncut : c.cut = c.exact := by rw [cut, exact, List.take_of_length_le short]
  rw [nanos_eq_floor, uncut, natural, Nat.floor_natCast]

theorem sum_upper (cs : List WrittenCount) :
    (cs.map upper).sum = (cs.map nanos).sum + cs.length + (cs.map fun c => c.unit.nanos).sum / 10 ^ 18 := by
  induction cs with
  | nil => simp
  | cons c cs ih =>
    simp only [List.map_cons, List.sum_cons, List.length_cons, ih, upper]
    push_cast
    ring

end WrittenCount

/-- One plus may stand before the counts of a text. -/
def WritesCounts (s : String) (cs : List WrittenCount) : Prop :=
  cs ≠ [] ∧ (s.toList = cs.flatMap WrittenCount.text ∨ s.toList = '+' :: cs.flatMap WrittenCount.text)

/-- How near a number of nanoseconds is to the sum that counts write: it is not above it, and below it by less
than a nanosecond for each count and a unit of each in the eighteenth digit. For counts of whole nanoseconds
it is that sum. -/
structure Precise (cs : List WrittenCount) (nanos : Nat) : Prop where
  le_exact : (nanos : ℚ) ≤ (cs.map WrittenCount.exact).sum
  exact_lt : (cs.map WrittenCount.exact).sum <
    nanos + cs.length + (cs.map fun c => c.unit.nanos).sum / 10 ^ 18
  eq_exact : (∀ c ∈ cs, c.Whole) → (nanos : ℚ) = (cs.map WrittenCount.exact).sum

/-- The losses of counts add up. -/
theorem precise_sum {cs : List WrittenCount} (nonempty : cs ≠ []) :
    Precise cs (cs.map WrittenCount.nanos).sum := by
  have total : ((cs.map WrittenCount.nanos).sum : ℚ) = (cs.map fun c => (c.nanos : ℚ)).sum := by
    rw [Nat.cast_list_sum, List.map_map]
    rfl
  refine ⟨?_, ?_, fun whole => ?_⟩
  · rw [total]
    exact List.sum_le_sum fun c _ => c.exact_bounds.1
  · rw [← WrittenCount.sum_upper]
    exact List.sum_lt_sum_of_ne_nil nonempty _ _ fun c _ => c.exact_bounds.2
  · rw [total]
    exact congrArg List.sum (List.map_congr_left fun c member => (whole c member).nanos_eq)

theorem total_eq_of_writes {s : String} {d : Duration} {n : Nat} (read : readDurationText s = .ok d)
    (written : WritesDuration s n) : d.total = n := by
  rw [readDurationText, readSpan_written s (writesDuration_iff.mp written)] at read
  split_ifs at read
  cases read
  rfl

theorem exists_writes {s : String} {d : Duration} (read : readDurationText s = .ok d) :
    ∃ n, WritesDuration s n := by
  rcases writes_or_refused s (dropPlus s.toList) with ⟨n, written⟩ | ⟨fault, refused⟩
  · exact ⟨n, writesDuration_iff.mpr written⟩
  · cases refused.symm.trans read

/-- A lone zero is read as zero. Any other text that is read is made of counts, and what is lost of their sum
is less than a nanosecond for each and what stands behind the eighteenth digit of each. -/
theorem readDurationText_precise {s : String} {d : Duration} (read : readDurationText s = .ok d) :
    ((s = "0" ∨ s = "+0") ∧ d.total = 0) ∨
      (∃ cs, WritesCounts s cs) ∧ ∀ cs, WritesCounts s cs → Precise cs d.total := by
  have precise : ∀ cs, WritesCounts s cs → Precise cs d.total := by
    rintro cs ⟨nonempty, spelled⟩
    rw [total_eq_of_writes read ⟨_, spelled, .counts cs nonempty⟩]
    exact precise_sum nonempty
  obtain ⟨n, body, spelled, written⟩ := exists_writes read
  cases written with
  | zero =>
    have zero : s = "0" ∨ s = "+0" := spelled.imp String.toList_inj.mp String.toList_inj.mp
    exact Or.inl ⟨zero, total_eq_of_writes read ⟨['0'], spelled, .zero⟩⟩
  | counts cs nonempty => exact Or.inr ⟨⟨cs, nonempty, spelled⟩, precise⟩

/-- An hour and a half, and nine tenths of a nanosecond that get lost. -/
def hourAndHalf : List WrittenCount := [
  { whole := ['1'], frac := some ['5'], unit := .hour, name := "h"
    whole_digits := by simp, frac_digits := by simp, counted := by simp, named := by decide },
  { whole := ['0'], frac := some ['9'], unit := .nanosecond, name := "ns"
    whole_digits := by simp, frac_digits := by simp, counted := by simp, named := by decide }]

theorem precise_hourAndHalf :
    readDurationText "1.5h0.9ns" = .ok ⟨5400000000000⟩ ∧ Precise hourAndHalf 5400000000000 := by
  have spelled : "1.5h0.9ns".toList = hourAndHalf.flatMap WrittenCount.text := by decide
  have written : Writes (hourAndHalf.flatMap WrittenCount.text) 5400000000000 :=
    .counts hourAndHalf (by simp [hourAndHalf])
  have read : readDurationText "1.5h0.9ns" = .ok ⟨5400000000000⟩ :=
    (congrArg (readSpan _) spelled).trans (readSpan_written _ written)
  have precise := (readDurationText_precise read).resolve_left (by simp)
  exact ⟨read, precise.2 hourAndHalf ⟨by simp [hourAndHalf], Or.inl spelled⟩⟩

end Value

end ServiceKit
