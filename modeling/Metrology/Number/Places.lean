/-!
# Decimal places

Which rational numbers have a decimal expansion that ends, and after how many places. The
expansion of a fraction in lowest terms ends exactly when its denominator has no prime factor
but 2 and 5, and the larger of the two multiplicities counts the places.
-/

namespace Metrology.Number

/-- How many times `p` divides `n`, and the cofactor that is left. -/
def factorOut (p n : Nat) : Nat × Nat :=
  if _h : (1 < p ∧ 0 < n) ∧ n % p = 0 then
    ((factorOut p (n / p)).1 + 1, (factorOut p (n / p)).2)
  else (0, n)
termination_by n
decreasing_by all_goals exact Nat.div_lt_self _h.1.2 _h.1.1

/-- The number of decimal places of `q`, if its expansion ends. -/
def decimalPlaces? (q : Rat) : Option Nat :=
  let twos := factorOut 2 q.den
  let fives := factorOut 5 twos.2
  if fives.2 = 1 then some (max twos.1 fives.1) else none

/-- Factoring out loses nothing. -/
theorem factorOut_mul (p n : Nat) : Nat.pow p (factorOut p n).1 * (factorOut p n).2 = n := by
  induction n using factorOut.induct p with
  | case1 n h ih =>
    rw [factorOut, dif_pos h]
    have whole : p * (n / p) = n := Nat.mul_div_cancel' (Nat.dvd_of_mod_eq_zero h.2)
    calc Nat.pow p ((factorOut p (n / p)).1 + 1) * (factorOut p (n / p)).2
        = p * (Nat.pow p (factorOut p (n / p)).1 * (factorOut p (n / p)).2) := by
          rw [← Nat.mul_assoc, Nat.mul_comm p]
          rfl
      _ = p * (n / p) := by rw [ih]
      _ = n := whole
  | case2 n h =>
    rw [factorOut, dif_neg h]
    exact Nat.one_mul n

/-- The cofactor has no further factor `p`. -/
theorem not_dvd_factorOut {p n : Nat} (hp : 1 < p) (hn : 0 < n) : ¬ p ∣ (factorOut p n).2 := by
  induction n using factorOut.induct p with
  | case1 n h ih =>
    rw [factorOut, dif_pos h]
    have whole : p * (n / p) = n := Nat.mul_div_cancel' (Nat.dvd_of_mod_eq_zero h.2)
    refine ih (Nat.pos_of_ne_zero ?_)
    intro none_left
    rw [none_left, Nat.mul_zero] at whole
    omega
  | case2 n h =>
    rw [factorOut, dif_neg h]
    intro hdvd
    exact h ⟨⟨hp, hn⟩, Nat.mod_eq_zero_of_dvd hdvd⟩

example : decimalPlaces? (7 / 80) = some 4 := by decide +kernel
example : decimalPlaces? (1 / 3) = none := by decide +kernel

end Metrology.Number
