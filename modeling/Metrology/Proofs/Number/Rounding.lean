import Mathlib.Algebra.Order.Field.Power
import Mathlib.Data.Nat.Digits.Defs
import Mathlib.Tactic.Linarith
import Metrology.Number.Rounding
import Metrology.Proofs.Number.Expansion

/-!
# Rounding

Rounding to an integer moves a number by one half at most (`abs_roundEven_sub_le`). Rounding to
significant digits goes by the place of the first digit (`magnitude_spec`): it is rounding to an
integer in units of the last place that is kept. So it moves a number by half such a unit at most
(`abs_roundTo_sub_le`), and by less if the expansion of the number does not end
(`abs_roundTo_sub_lt`); what it gives has no more digits than asked for (`hasDigits_roundTo`), and
the numbers that need no more digits are left alone (`roundTo_eq_iff`).
-/

namespace Metrology.Number

variable {q x : Rat} {digits : Nat}

/-! ## Rounding to an integer -/

/-- Rounding moves a number by at most one half. -/
theorem abs_roundEven_sub_le (x : Rat) : |(roundEven x : Rat) - x| ≤ 1 / 2 := by
  have low : (x.floor : Rat) ≤ x := Rat.floor_le x
  have high : x < x.floor + 1 := by exact_mod_cast Rat.lt_floor_add_one x
  unfold roundEven
  dsimp only
  rw [abs_le]
  -- below one half the number is rounded down, above it up, and at one half both are near enough
  split_ifs with less more even
  · constructor <;> linarith
  · push_cast
    constructor <;> linarith
  · constructor <;> linarith
  · push_cast
    constructor <;> linarith

theorem abs_roundEven_le {n : Int} (h : |x| ≤ n) : |roundEven x| ≤ n := by
  have near := abs_roundEven_sub_le x
  have triangle := abs_sub_abs_le_abs_sub (roundEven x : Rat) x
  have less : |(roundEven x : Rat)| < n + 1 := by linarith
  have less' : |roundEven x| < n + 1 := by exact_mod_cast less
  exact Int.lt_add_one_iff.1 less'

theorem abs_mul_den (q : Rat) : |q| * q.den = q.num.natAbs := by
  have positive : (0 : Rat) < q.den := by exact_mod_cast q.den_pos
  rw [← abs_of_pos positive, ← abs_mul, Rat.mul_den_eq_num, ← Int.cast_abs, Int.abs_eq_natAbs]
  rfl

theorem lt_pow_length (n : Nat) : (n : Rat) < 10 ^ ((Nat.toDigits 10 n).length : Int) := by
  have less : n < 10 ^ (Nat.toDigits 10 n).length :=
    (Nat.length_toDigits_le_iff (by decide) Nat.length_toDigits_pos).1 (Nat.le_refl _)
  rw [zpow_natCast]
  exact_mod_cast less

theorem pow_length_le {n : Nat} (positive : 0 < n) :
    (10 : Rat) ^ ((Nat.toDigits 10 n).length - 1 : Int) ≤ n := by
  obtain ⟨k, length⟩ := Nat.exists_eq_add_one.2 (Nat.length_toDigits_pos (b := 10) (n := n))
  have least : 10 ^ k ≤ n := by
    by_contra less
    rcases Nat.eq_zero_or_pos k with rfl | large
    · exact less positive
    · have shorter := (Nat.length_toDigits_le_iff (by decide) large).2 (Nat.lt_of_not_le less)
      omega
  rw [length, Nat.cast_add, Nat.cast_one, add_sub_cancel_right, zpow_natCast]
  exact_mod_cast least

/-- The magnitude is the number of digits in front of the point. -/
theorem magnitude_spec (nonzero : q ≠ 0) :
    (10 : Rat) ^ (magnitude q - 1) ≤ |q| ∧ |q| < (10 : Rat) ^ magnitude q := by
  have ten : (10 : Rat) ≠ 0 := by decide
  have positive (e : Int) : (0 : Rat) < 10 ^ e := zpow_pos (by decide) e
  have below : (0 : Rat) < q.den := by exact_mod_cast q.den_pos
  have whole := abs_mul_den q
  have lowN := pow_length_le (Int.natAbs_pos.2 (Rat.num_ne_zero.2 nonzero))
  have highN := lt_pow_length q.num.natAbs
  have lowD := pow_length_le q.den_pos
  have highD := lt_pow_length q.den
  unfold magnitude
  dsimp only
  -- the numbers of digits leave two candidates, which the numerator decides between
  generalize ((Nat.toDigits 10 q.num.natAbs).length : Int) = m at *
  generalize ((Nat.toDigits 10 q.den).length : Int) = n at *
  rw [← whole] at *
  split
  · next less =>
    refine ⟨le_of_mul_le_mul_right ?_ below, lt_of_mul_lt_mul_right less below.le⟩
    calc (10 : Rat) ^ (m - n - 1) * q.den ≤ 10 ^ (m - n - 1) * 10 ^ n :=
          mul_le_mul_of_nonneg_left highD.le (positive _).le
      _ = 10 ^ (m - 1) := by rw [← zpow_add₀ ten]; congr 1; omega
      _ ≤ |q| * q.den := lowN
  · next more =>
    rw [add_sub_cancel_right]
    refine ⟨le_of_mul_le_mul_right (not_lt.1 more) below, lt_of_mul_lt_mul_right ?_ below.le⟩
    calc |q| * q.den < 10 ^ m := highN
      _ = 10 ^ (m - n + 1) * 10 ^ (n - 1) := by rw [← zpow_add₀ ten]; congr 1; omega
      _ ≤ 10 ^ (m - n + 1) * q.den := mul_le_mul_of_nonneg_left lowD (positive _).le

/-! ## Rounding to digits -/

/-- A multiple of a power of ten, as a fraction. -/
theorem mul_zpow_eq (m e : Int) :
    (m : Rat) * 10 ^ e = (m * 10 ^ e.toNat : Int) / 10 ^ (-e).toNat := by
  have ten : (10 : Rat) ≠ 0 := by decide
  have split : e = e.toNat - (-e).toNat := by omega
  conv_lhs => rw [split, zpow_sub₀ ten, zpow_natCast, zpow_natCast]
  rw [Int.cast_mul, Int.cast_pow, Int.cast_ofNat, mul_div_assoc]

theorem ends_mul_zpow (m e : Int) : Ends (m * 10 ^ e) := ⟨_, _, mul_zpow_eq m e⟩

/-- The number needs no more significant digits than the given number of them. -/
def HasDigits (digits : Nat) (q : Rat) : Prop :=
  ∃ m e : Int, m.natAbs < 10 ^ digits ∧ q = m * 10 ^ e

/-- The unit of the last place that is kept. -/
def lastUnit (digits : Nat) (q : Rat) : Rat := 10 ^ (magnitude q - digits)

theorem lastUnit_pos (digits : Nat) (q : Rat) : 0 < lastUnit digits q :=
  zpow_pos (by decide) _

theorem roundTo_of_ne_zero (nonzero : q ≠ 0) (digits : Nat) :
    roundTo digits q = roundEven (q / lastUnit digits q) * lastUnit digits q :=
  if_neg nonzero

/-- In units of the last place that is kept, a number has as many digits as are kept. -/
theorem div_lastUnit_bounds (nonzero : q ≠ 0) (digits : Nat) :
    (10 : Rat) ^ (digits - 1 : Int) ≤ |q / lastUnit digits q| ∧
      |q / lastUnit digits q| < (10 : Rat) ^ digits := by
  have ten : (10 : Rat) ≠ 0 := by decide
  have unit := lastUnit_pos digits q
  obtain ⟨low, high⟩ := magnitude_spec nonzero
  rw [abs_div, abs_of_pos unit]
  constructor
  · rw [le_div_iff₀ unit, lastUnit, ← zpow_add₀ ten]
    have place : (digits - 1 : Int) + (magnitude q - digits) = magnitude q - 1 := by omega
    rwa [place]
  · rw [div_lt_iff₀ unit, lastUnit, ← zpow_natCast, ← zpow_add₀ ten]
    have place : (digits : Int) + (magnitude q - digits) = magnitude q := by omega
    rwa [place]

/-- What rounding changes, in units of the last place that is kept. -/
theorem abs_roundTo_sub (nonzero : q ≠ 0) (digits : Nat) :
    |roundTo digits q - q| =
      |roundEven (q / lastUnit digits q) - q / lastUnit digits q| * lastUnit digits q := by
  have unit := lastUnit_pos digits q
  rw [roundTo_of_ne_zero nonzero]
  generalize lastUnit digits q = u at unit
  rw [← abs_of_pos unit, ← abs_mul, abs_of_pos unit, sub_mul, div_mul_cancel₀ _ unit.ne']

/-- Rounding changes a number by at most half a unit of the last place that is kept. -/
theorem abs_roundTo_sub_le (digits : Nat) (q : Rat) :
    |roundTo digits q - q| ≤ lastUnit digits q / 2 := by
  by_cases zero : q = 0
  · rw [roundTo, if_pos zero, zero, sub_zero, abs_zero]
    exact (half_pos (lastUnit_pos digits 0)).le
  · calc |roundTo digits q - q|
        = |roundEven (q / lastUnit digits q) - q / lastUnit digits q| * lastUnit digits q :=
          abs_roundTo_sub zero digits
      _ ≤ 1 / 2 * lastUnit digits q :=
          mul_le_mul_of_nonneg_right (abs_roundEven_sub_le _) (lastUnit_pos digits q).le
      _ = lastUnit digits q / 2 := one_div_mul_eq_div _ _

/-- What rounding gives has no more significant digits than asked for. -/
theorem hasDigits_roundTo (least : 0 < digits) (q : Rat) : HasDigits digits (roundTo digits q) := by
  by_cases zero : q = 0
  · refine ⟨0, 0, Nat.pow_pos (by decide), ?_⟩
    rw [roundTo, if_pos zero, Int.cast_zero, zero_mul]
  have most : |roundEven (q / lastUnit digits q)| ≤ (10 ^ digits : Int) := by
    apply abs_roundEven_le
    push_cast
    exact (div_lastUnit_bounds zero digits).2.le
  rw [roundTo_of_ne_zero zero]
  generalize roundEven (q / lastUnit digits q) = r at most
  have size : r.natAbs ≤ 10 ^ digits := by
    rw [Int.abs_eq_natAbs] at most
    exact_mod_cast most
  rcases size.lt_or_eq with short | carried
  · exact ⟨r, _, short, rfl⟩
  · -- a carry into a new first digit leaves nothing but this digit
    refine ⟨r.sign, magnitude q, ?_, ?_⟩
    · have sign : r.sign.natAbs ≤ 1 := by
        rw [Int.natAbs_sign]
        split <;> decide
      exact sign.trans_lt (Nat.one_lt_pow least.ne' (by decide))
    · have product : (r : Rat) = r.sign * 10 ^ digits := by
        conv_lhs => rw [← Int.sign_mul_natAbs r, carried]
        push_cast
        rfl
      have place : (digits : Int) + (magnitude q - digits) = magnitude q := by omega
      rw [product, lastUnit, mul_assoc, ← zpow_natCast, ← zpow_add₀ (by decide), place]

/-- Rounding leaves a number with few enough digits alone. -/
theorem roundTo_of_hasDigits (h : HasDigits digits q) : roundTo digits q = q := by
  have ten : (10 : Rat) ≠ 0 := by decide
  have positive (e : Int) : (0 : Rat) < 10 ^ e := zpow_pos (by decide) e
  obtain ⟨m, e, short, same⟩ := h
  by_cases zero : q = 0
  · rw [roundTo, if_pos zero, zero]
  have size : |q| < 10 ^ (digits + e : Int) := by
    rw [same, abs_mul, abs_of_pos (positive e), zpow_add₀ ten, zpow_natCast, ← Int.cast_abs,
      Int.abs_eq_natAbs]
    refine mul_lt_mul_of_pos_right ?_ (positive e)
    exact_mod_cast short
  -- the last place that is kept is not in front of the last digit of the number
  have room : magnitude q - 1 < digits + e :=
    (zpow_lt_zpow_iff_right₀ (by decide)).1 ((magnitude_spec zero).1.trans_lt size)
  -- so the number is a whole number of the units to which it is rounded
  have whole : q / lastUnit digits q = (m * 10 ^ (e - (magnitude q - digits)).toNat : Int) := by
    have places : ((e - (magnitude q - digits)).toNat : Int) = e - (magnitude q - digits) :=
      Int.toNat_of_nonneg (by omega)
    rw [Int.cast_mul, Int.cast_pow, Int.cast_ofNat, ← zpow_natCast, places, zpow_sub₀ ten e,
      ← mul_div_assoc, ← same, lastUnit]
  rw [roundTo_of_ne_zero zero, whole, roundEven_intCast, ← whole,
    div_mul_cancel₀ _ (lastUnit_pos digits q).ne']

/-- Exactly the numbers with few enough digits are rounded to themselves. -/
theorem roundTo_eq_iff (least : 0 < digits) : roundTo digits q = q ↔ HasDigits digits q := by
  constructor
  · intro same
    rw [← same]
    exact hasDigits_roundTo least q
  · exact roundTo_of_hasDigits

/-- What rounding gives has an expansion that ends. -/
theorem ends_roundTo (digits : Nat) (q : Rat) : Ends (roundTo digits q) := by
  by_cases zero : q = 0
  · rw [roundTo, if_pos zero]
    exact ends_zero
  · rw [roundTo_of_ne_zero zero]
    exact ends_mul_zpow _ _

end Metrology.Number
