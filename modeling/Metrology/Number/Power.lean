import Metrology.Failure
import Metrology.Number.Double
import Metrology.Number.Positional

/-!
# Powers of numbers

A power with an integer exponent is exact. Any other is computed with doubles: base and
exponent are rounded to the nearest double, and the shortest decimal text of the result is read
as an exact number again.
-/

namespace Metrology.Number

/-- The largest precision that numbers can be written with. -/
def maxPrecision : Int := 999999999999999999

/-- The largest and the least precision that can be asked for at all. -/
def maxRequest : Int := 0x7FFFFFFFFFFFFFFF
def minRequest : Int := -0x8000000000000000

/-- The largest precision for which there is room in memory. -/
def roomyPrecision : Int := 100000000000

/-- The plain decimal text of `q`, with a precision that is only looked at where it counts. -/
def formatTo (precision : Int) (q : Rat) : Except Failure String :=
  match decimalPlaces? q with
  | some _ => .ok (format precision.toNat q)
  | none =>
    if precision < minRequest ∨ maxRequest < precision then .error .precisionSize
    else if precision < 1 ∨ maxPrecision < precision then .error .precisionRange
    else if roomyPrecision < precision then .error .outOfMemory
    else .ok (format precision.toNat q)

/-- The powers of 0, 1 and -1, which stay small whatever the exponent is: they depend on whether
it is zero, odd or even. -/
def smallPower (base : Rat) (n : Int) : Rat :=
  if n = 0 then 1 else if n % 2 = 0 then base * base else base

/-- A power with an exponent that is an integer. -/
def integerPower (base : Rat) (n : Int) : Except Failure Rat :=
  if base = 0 ∧ n < 0 then .error .divisionByZero
  else if base = 0 ∨ base = 1 ∨ base = -1 then .ok (smallPower base n)
  else .ok (base ^ n)

/-- On numbers that are their own cube, parity decides a power as repeated multiplication
does. -/
theorem smallPower_natCast {b : Rat} (cube : b * b * b = b) (k : Nat) :
    smallPower b k = b ^ k := by
  induction k with
  | zero => exact (Rat.pow_zero b).symm
  | succ k ih =>
    rw [Rat.pow_succ, ← ih]
    unfold smallPower
    rcases Nat.eq_zero_or_pos k with rfl | positive
    · exact (Rat.one_mul b).symm
    · have nonzero : ¬ (k : Int) = 0 := by omega
      have nonzero' : ¬ ((k + 1 : Nat) : Int) = 0 := by omega
      rw [if_neg nonzero, if_neg nonzero']
      by_cases even : (k : Int) % 2 = 0
      · have odd : ¬ ((k + 1 : Nat) : Int) % 2 = 0 := by omega
        rw [if_pos even, if_neg odd, cube]
      · have even' : ((k + 1 : Nat) : Int) % 2 = 0 := by omega
        rw [if_neg even, if_pos even']

/-- An exponent and its negative have the same parity. -/
theorem smallPower_neg (b : Rat) (n : Int) : smallPower b (-n) = smallPower b n := by
  unfold smallPower
  have zero : -n = 0 ↔ n = 0 := by omega
  have parity : -n % 2 = 0 ↔ n % 2 = 0 := by omega
  simp only [zero, parity]

/-- A small power is the power, wherever that is defined. -/
theorem smallPower_eq_zpow {b : Rat} (n : Int) (small : b = 0 ∨ b = 1 ∨ b = -1)
    (defined : b ≠ 0 ∨ 0 ≤ n) : smallPower b n = b ^ n := by
  have cube : b * b * b = b := by rcases small with rfl | rfl | rfl <;> decide +kernel
  rcases Int.eq_nat_or_neg n with ⟨k, rfl | rfl⟩
  · rw [smallPower_natCast cube, Rat.zpow_natCast]
  · rw [smallPower_neg, smallPower_natCast cube, Rat.zpow_neg, Rat.zpow_natCast]
    rcases small with rfl | rfl | rfl
    · have : k = 0 := by
        rcases defined with nonzero | small
        · exact absurd rfl nonzero
        · omega
      subst this
      decide +kernel
    · rw [← smallPower_natCast cube]
      unfold smallPower
      split
      · decide +kernel
      · split <;> decide +kernel
    · rw [← smallPower_natCast cube]
      unfold smallPower
      split
      · decide +kernel
      · split <;> decide +kernel

/-- Wherever an integer power is defined, it is the power. -/
theorem integerPower_eq_ok {base : Rat} {n : Int} (defined : base ≠ 0 ∨ 0 ≤ n) :
    integerPower base n = .ok (base ^ n) := by
  unfold integerPower
  have divides : ¬ (base = 0 ∧ n < 0) := by
    rintro ⟨zero, negative⟩
    rcases defined with nonzero | small
    · exact nonzero zero
    · omega
  rw [if_neg divides]
  split
  · next small => rw [smallPower_eq_zpow n small defined]
  · rfl

/-- A power of a base that is not negative, computed with doubles. -/
def doublePower (base exponent : Rat) : Except Failure Rat :=
  match Double.nearest base, Double.nearest exponent with
  | .finite s m e, .finite t n k =>
    if n = 0 then .ok 1
    else if m = 0 then (if t then .error .divisionByZero else .ok 0)
    else
      match (Double.power (.finite s m e) (.finite t n k)).shortestRat? with
      | some q => .ok q
      | none => .error .powerTooLarge
  | _, _ => .error .quotientTooLarge

/-- A power of numbers. -/
def power (base exponent : Rat) : Except Failure Rat :=
  if exponent.den = 1 then integerPower base exponent.num
  else if base < 0 then .error (.negativeBase (format defaultPrecision base))
  else doublePower base exponent

end Metrology.Number
