/-!
# Rounding

Rounding to the nearest integer, a half to the even neighbour, and from it rounding to a
number of significant decimal digits. All is exact rational arithmetic.
-/

namespace Metrology.Number

/-- The nearest integer; a half goes to the even neighbour. -/
def roundEven (q : Rat) : Int :=
  let low := q.floor
  let rest := q - low
  if rest < 1 / 2 then low
  else if 1 / 2 < rest then low + 1
  else if low % 2 = 0 then low
  else low + 1

/-- The number of digits in front of the decimal point, counted below zero for leading zeros
behind it: the `k` with `10 ^ (k - 1) ≤ |q| < 10 ^ k`, for `q` other than zero. -/
def magnitude (q : Rat) : Int :=
  let guess : Int := (Nat.toDigits 10 q.num.natAbs).length - (Nat.toDigits 10 q.den).length
  if (q.num.natAbs : Rat) < (10 : Rat) ^ guess * (q.den : Rat) then guess else guess + 1

/-- `q` rounded to `digits` significant decimal digits. -/
def roundTo (digits : Nat) (q : Rat) : Rat :=
  if q = 0 then 0
  else
    let unit := (10 : Rat) ^ (magnitude q - digits)
    roundEven (q / unit) * unit

/-- Rounding an integer changes nothing. -/
theorem roundEven_intCast (n : Int) : roundEven n = n := by
  have half : (0 : Rat) < 1 / 2 := by decide +kernel
  simp only [roundEven, Rat.floor_intCast, Rat.sub_self, if_pos half]

example : roundEven (5 / 2) = 2 ∧ roundEven (7 / 2) = 4 ∧ roundEven (-5 / 2) = -2 := by
  decide +kernel

end Metrology.Number
