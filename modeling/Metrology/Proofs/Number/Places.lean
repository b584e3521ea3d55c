import Mathlib.Data.Nat.GCD.Basic
import Mathlib.Order.Bounds.Basic
import Metrology.Proofs.Number.Plain

/-!
# Places behind the point

A number with so many places behind the point is whole when the point is moved by them
(`WholeAfter`), and the places that are counted are the fewest of this kind
(`decimalPlaces?_isLeast`). They are counted by two divisions that come to an end
(`dividedOut_factorOut`).

No places are counted of a number whose expansion never ends. The digits of an expansion are found
by long division (`leftOver_succ`, `fractionDigit_eq`): they are all zero from a place on exactly if
nothing is left over there (`fractionDigits_zero_iff`).
-/

namespace Metrology.Number

variable {q : Rat} {p n k : Nat}

/-! ## Dividing a factor out -/

/-- `DividedOut p n times rest`: dividing `n` by `p` again and again, as long as there is no
remainder, stops after so many times, and `rest` is left. -/
inductive DividedOut (p : Nat) : Nat → Nat → Nat → Prop
  | done {n : Nat} (stops : n % p ≠ 0) : DividedOut p n 0 n
  | divide {n times rest : Nat} (divides : n % p = 0) (next : DividedOut p (n / p) times rest) :
      DividedOut p n (times + 1) rest

/-- A positive number stays positive as long as it can be divided, so the divisions come to an
end. -/
theorem dividedOut_factorOut (base : 1 < p) (positive : 0 < n) :
    DividedOut p n (factorOut p n).1 (factorOut p n).2 := by
  induction n using factorOut.induct p with
  | case1 n h ih =>
    rw [factorOut, dif_pos h]
    have whole : p ∣ n := Nat.dvd_of_mod_eq_zero h.2
    exact .divide h.2 (ih (Nat.div_pos (Nat.le_of_dvd positive whole) h.1.1.le))
  | case2 n h =>
    -- the number is positive here too, so the divisions stop only because there is a remainder
    rw [factorOut, dif_neg h]
    refine .done ?_
    intro divides
    exact h ⟨⟨base, positive⟩, divides⟩

/-! ## Long division -/

/-- The digit in the `n`th place behind the point, counted from zero. -/
def fractionDigit (q : Rat) (n : Nat) : Nat := q.num.natAbs * 10 ^ (n + 1) / q.den % 10

/-- What is left to divide when `n` places have been found. -/
def leftOver (q : Rat) (n : Nat) : Nat := q.num.natAbs * 10 ^ n % q.den

theorem leftOver_lt (q : Rat) (n : Nat) : leftOver q n < q.den := Nat.mod_lt _ q.den_pos

theorem leftOver_succ (q : Rat) (n : Nat) : leftOver q (n + 1) = 10 * leftOver q n % q.den := by
  rw [leftOver, leftOver, Nat.mul_mod_mod, pow_succ, ← mul_assoc, mul_comm 10]

theorem fractionDigit_eq (q : Rat) (n : Nat) : fractionDigit q n = 10 * leftOver q n / q.den := by
  have digit : 10 * leftOver q n / q.den < 10 := by
    rw [Nat.div_lt_iff_lt_mul q.den_pos]
    have less := leftOver_lt q n
    omega
  -- the places before this one make up a multiple of ten in the quotient
  have split : q.num.natAbs * 10 ^ (n + 1) =
      10 * leftOver q n + q.den * (10 * (q.num.natAbs * 10 ^ n / q.den)) := by
    have quotient := Nat.mod_add_div (q.num.natAbs * 10 ^ n) q.den
    calc q.num.natAbs * 10 ^ (n + 1) = 10 * (q.num.natAbs * 10 ^ n) := by ring
      _ = 10 * (leftOver q n + q.den * (q.num.natAbs * 10 ^ n / q.den)) := by
        rw [leftOver, quotient]
      _ = _ := by ring
  rw [fractionDigit, split, Nat.add_mul_div_left _ _ q.den_pos, Nat.add_mul_mod_self_left,
    Nat.mod_eq_of_lt digit]

theorem leftOver_eq_zero_iff : leftOver q n = 0 ↔ q.den ∣ 10 ^ n := by
  rw [leftOver, ← Nat.dvd_iff_mod_eq_zero]
  exact Nat.Coprime.dvd_mul_left (Nat.Coprime.symm q.reduced)

/-- While the digits are zero, what is left over grows tenfold with every place. -/
theorem leftOver_add (zeros : ∀ n ≥ k, fractionDigit q n = 0) (n : Nat) :
    leftOver q (k + n) = 10 ^ n * leftOver q k := by
  induction n with
  | zero => rw [pow_zero, one_mul, Nat.add_zero]
  | succ n ih =>
    have small : 10 * leftOver q (k + n) < q.den := by
      have zero := zeros (k + n) (Nat.le_add_right k n)
      rw [fractionDigit_eq] at zero
      exact Nat.lt_of_div_eq_zero q.den_pos zero
    rw [← Nat.add_assoc, leftOver_succ, Nat.mod_eq_of_lt small, ih, pow_succ', mul_assoc]

/-- All digits are zero from a place on exactly if the denominator divides the power of ten that
belongs to this place. -/
theorem fractionDigits_zero_iff : (∀ n ≥ k, fractionDigit q n = 0) ↔ q.den ∣ 10 ^ k := by
  rw [← leftOver_eq_zero_iff]
  constructor
  · intro zeros
    by_contra left
    -- something that grows tenfold without end would not stay below the denominator
    have grown := leftOver_lt q (k + q.den)
    rw [leftOver_add zeros] at grown
    have large : q.den < 10 ^ q.den := Nat.lt_pow_self (by decide)
    have more := Nat.le_mul_of_pos_right (10 ^ q.den) (Nat.pos_of_ne_zero left)
    omega
  · intro nothing n le
    have left : leftOver q n = 0 := by
      induction n, le using Nat.le_induction with
      | base => exact nothing
      | succ n le ih => rw [leftOver_succ, ih, Nat.mul_zero, Nat.zero_mod]
    rw [fractionDigit_eq, left, Nat.mul_zero, Nat.zero_div]

/-! ## The fewest places -/

/-- Moving the point by so many places makes the number whole. -/
def WholeAfter (q : Rat) (k : Nat) : Prop := ∃ m : Int, 10 ^ k * q = m

theorem wholeAfter_iff : WholeAfter q k ↔ q.den ∣ 10 ^ k := by
  have nonzero : (10 : Rat) ^ k ≠ 0 := pow_ne_zero k (by decide)
  constructor
  · rintro ⟨m, whole⟩
    rw [eq_div_of_mul_eq nonzero ((mul_comm q _).trans whole)]
    exact den_div_pow_dvd m k
  · intro divides
    obtain ⟨m, same⟩ := exists_eq_div_pow divides
    exact ⟨m, by rw [same, mul_div_cancel₀ _ nonzero]⟩

/-- What is counted are the fewest places that suffice. -/
theorem isLeast_of_decimalPlaces? (counted : decimalPlaces? q = some k) :
    IsLeast {k | WholeAfter q k} k := by
  constructor
  · exact wholeAfter_iff.2 (den_dvd_of_decimalPlaces? counted)
  · intro p whole
    exact le_of_den_dvd counted (wholeAfter_iff.1 whole)

theorem exists_decimalPlaces?_iff :
    (∃ k, decimalPlaces? q = some k) ↔ ∃ k, WholeAfter q k := by
  constructor
  · rintro ⟨k, counted⟩
    exact ⟨k, (isLeast_of_decimalPlaces? counted).1⟩
  · rintro ⟨k, whole⟩
    exact exists_decimalPlaces? (wholeAfter_iff.1 whole)

theorem decimalPlaces?_eq_none_iff_digits :
    decimalPlaces? q = none ↔ ∀ k, ∃ n ≥ k, fractionDigit q n ≠ 0 := by
  rw [decimalPlaces?_eq_none_iff, ends_iff_den_dvd, not_exists]
  refine forall_congr' fun k => ?_
  rw [← fractionDigits_zero_iff]
  push Not
  rfl

theorem den_dvd_num_shifted (counted : decimalPlaces? q = some k) :
    (q.den : Int) ∣ q.num * 10 ^ k := by
  have divides : (q.den : Int) ∣ 10 ^ k := by exact_mod_cast den_dvd_of_decimalPlaces? counted
  exact divides.mul_left q.num

/-- The last of the places that are counted holds another digit than zero, whatever the sign. -/
theorem not_ten_dvd_shifted (counted : decimalPlaces? q = some k) (places : k ≠ 0) :
    ¬ 10 ∣ q.num * 10 ^ k / q.den := by
  intro zero
  have magnitude : (q.num * 10 ^ k / q.den).natAbs = q.num.natAbs * 10 ^ k / q.den := by
    rw [Int.natAbs_ediv_of_dvd (den_dvd_num_shifted counted), Int.natAbs_mul, Int.natAbs_pow,
      Int.natAbs_natCast]
    rfl
  have last : 10 ∣ q.num.natAbs * 10 ^ k / q.den := by
    rw [← magnitude]
    exact Int.natAbs_dvd_natAbs.2 zero
  exact shifted_mod_ten_ne_zero counted places (Nat.mod_eq_zero_of_dvd last)

/-- The two divisions of the denominator come to an end, and places are counted of exactly those
numbers that some power of ten makes whole. They are the fewest that do so: the denominator divides
the numerator after the point is moved by them, and the quotient does not end in zero if there are
any places. None are counted exactly if digits other than zero never cease behind the point. -/
theorem decimalPlaces?_isLeast (q : Rat) :
    (∃ twos odd fives rest, DividedOut 2 q.den twos odd ∧ DividedOut 5 odd fives rest ∧
      decimalPlaces? q = if rest = 1 then some (max twos fives) else none) ∧
    ((∃ k, decimalPlaces? q = some k) ↔ ∃ k, WholeAfter q k) ∧
    (∀ k, decimalPlaces? q = some k → IsLeast {k | WholeAfter q k} k ∧
      (q.den : Int) ∣ q.num * 10 ^ k ∧ (k ≠ 0 → ¬ 10 ∣ q.num * 10 ^ k / q.den)) ∧
    (decimalPlaces? q = none ↔ ∀ k, ∃ n ≥ k, fractionDigit q n ≠ 0) := by
  refine ⟨?_, exists_decimalPlaces?_iff, ?_, decimalPlaces?_eq_none_iff_digits⟩
  · have positive : 0 < (factorOut 2 q.den).2 :=
      Nat.pos_of_dvd_of_pos (factorOut_dvd 2 q.den) q.den_pos
    have twos := dividedOut_factorOut (p := 2) (by decide) q.den_pos
    have fives := dividedOut_factorOut (p := 5) (by decide) positive
    exact ⟨_, _, _, _, twos, fives, rfl⟩
  · intro k counted
    exact ⟨isLeast_of_decimalPlaces? counted, den_dvd_num_shifted counted,
      not_ten_dvd_shifted counted⟩

/-- The places of a negative number in whose denominator two occurs more often than five. -/
theorem decimalPlaces?_seven_eightieths :
    decimalPlaces? (-7 / 80) = some 4 ∧ IsLeast {k | WholeAfter (-7 / 80) k} 4 ∧
      (80 : Int) ∣ -7 * 10 ^ 4 ∧ 4 ≠ 0 ∧ ¬ (10 : Int) ∣ -7 * 10 ^ 4 / 80 := by
  have counted : decimalPlaces? (-7 / 80) = some 4 := by decide +kernel
  have num : (-7 / 80 : Rat).num = -7 := by decide +kernel
  have den : (-7 / 80 : Rat).den = 80 := by decide +kernel
  obtain ⟨least, divides, last⟩ := (decimalPlaces?_isLeast (-7 / 80)).2.2.1 4 counted
  rw [num, den] at divides last
  have places : 4 ≠ 0 := by decide
  exact ⟨counted, least, divides, places, last places⟩

end Metrology.Number
