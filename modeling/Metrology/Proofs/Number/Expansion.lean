import Mathlib.Algebra.Order.Field.Basic
import Mathlib.Algebra.Order.Ring.Rat
import Mathlib.Data.Nat.Prime.Basic
import Mathlib.Data.Rat.Lemmas
import Metrology.Number.Places

/-!
# Expansions that end

A number has a decimal expansion that ends if it is an integer over a power of ten (`Ends`). By its
denominator in lowest terms this can be told in two ways: the denominator divides a power of ten
(`ends_iff_den_dvd`), and it has no prime factors but two and five (`ends_iff_primes`). The places
that are counted are those of such a number (`decimalPlaces?_eq_none_iff`), and fewer would not do
(`le_of_den_dvd`).
-/

namespace Metrology.Number

variable {q : Rat} {p k : Nat}

/-- The decimal expansion of the number ends. -/
def Ends (q : Rat) : Prop := ∃ (m : Int) (k : Nat), q = m / 10 ^ k

theorem ends_zero : Ends 0 := ⟨0, 0, by rw [Int.cast_zero, zero_div]⟩

theorem ten_pow (k : Nat) : 10 ^ k = 2 ^ k * 5 ^ k := Nat.mul_pow 2 5 k

theorem factorOut_dvd (p n : Nat) : (factorOut p n).2 ∣ n :=
  ⟨Nat.pow p (factorOut p n).1, by rw [Nat.mul_comm, factorOut_mul]⟩

theorem pow_factorOut_dvd (p n : Nat) : p ^ (factorOut p n).1 ∣ n :=
  ⟨(factorOut p n).2, (factorOut_mul p n).symm⟩

/-- The places that are counted suffice. -/
theorem den_dvd_of_decimalPlaces? (h : decimalPlaces? q = some p) : q.den ∣ 10 ^ p := by
  unfold decimalPlaces? at h
  dsimp only at h
  split at h
  · next nothing =>
    cases h
    have twos : 2 ^ (factorOut 2 q.den).1 * (factorOut 2 q.den).2 = q.den := factorOut_mul 2 q.den
    have fives : 5 ^ (factorOut 5 (factorOut 2 q.den).2).1 = (factorOut 2 q.den).2 := by
      have product := factorOut_mul 5 (factorOut 2 q.den).2
      rwa [nothing, Nat.mul_one] at product
    rw [ten_pow]
    conv_lhs => rw [← twos, ← fives]
    exact Nat.mul_dvd_mul (Nat.pow_dvd_pow 2 (Nat.le_max_left _ _))
      (Nat.pow_dvd_pow 5 (Nat.le_max_right _ _))
  · cases h

/-- Fewer places than are counted do not suffice. -/
theorem le_of_den_dvd (h : decimalPlaces? q = some p) (divides : q.den ∣ 10 ^ k) : p ≤ k := by
  rw [ten_pow] at divides
  unfold decimalPlaces? at h
  dsimp only at h
  split at h
  · cases h
    -- powers of two and powers of five are prime to each other, so each must be found in its own
    apply max_le
    · have twos := (pow_factorOut_dvd 2 q.den).trans divides
      have coprime : Nat.Coprime (2 ^ (factorOut 2 q.den).1) (5 ^ k) :=
        Nat.Coprime.pow _ _ (by decide)
      exact (Nat.pow_dvd_pow_iff_le_right (by decide)).1 (coprime.dvd_of_dvd_mul_right twos)
    · have fives := ((pow_factorOut_dvd 5 _).trans (factorOut_dvd 2 q.den)).trans divides
      have coprime : Nat.Coprime (5 ^ (factorOut 5 (factorOut 2 q.den).2).1) (2 ^ k) :=
        Nat.Coprime.pow _ _ (by decide)
      exact (Nat.pow_dvd_pow_iff_le_right (by decide)).1 (coprime.dvd_of_dvd_mul_left fives)
  · cases h

/-- A number whose denominator has no other prime factors than two and five has its places
counted. -/
theorem exists_decimalPlaces?_of_primes
    (primes : ∀ r : Nat, r.Prime → r ∣ q.den → r = 2 ∨ r = 5) : ∃ p, decimalPlaces? q = some p := by
  have odd := factorOut_dvd 2 q.den
  have rest := factorOut_dvd 5 (factorOut 2 q.den).2
  have positive : 0 < (factorOut 2 q.den).2 := Nat.pos_of_dvd_of_pos odd q.den_pos
  -- a prime factor of what is left would be a two or a five, and these were taken out
  have nothing : (factorOut 5 (factorOut 2 q.den).2).2 = 1 := by
    apply Nat.eq_one_iff_not_exists_prime_dvd.2
    intro r prime divides
    rcases primes r prime (divides.trans (rest.trans odd)) with rfl | rfl
    · exact not_dvd_factorOut (by decide) q.den_pos (divides.trans rest)
    · exact not_dvd_factorOut (by decide) positive divides
  exact ⟨_, if_pos nothing⟩

theorem eq_two_or_five {r : Nat} (prime : r.Prime) (divides : r ∣ 10 ^ k) : r = 2 ∨ r = 5 := by
  rw [ten_pow, prime.dvd_mul] at divides
  rcases divides with two | five
  · exact .inl ((Nat.prime_dvd_prime_iff_eq prime Nat.prime_two).1 (prime.dvd_of_dvd_pow two))
  · exact .inr ((Nat.prime_dvd_prime_iff_eq prime Nat.prime_five).1 (prime.dvd_of_dvd_pow five))

/-- A number that some power of ten makes whole has its places counted. -/
theorem exists_decimalPlaces? (h : q.den ∣ 10 ^ k) : ∃ p, decimalPlaces? q = some p :=
  exists_decimalPlaces?_of_primes fun _ prime divides => eq_two_or_five prime (divides.trans h)

theorem decimalPlaces?_of_den_one (whole : q.den = 1) : decimalPlaces? q = some 0 := by
  have divides : q.den ∣ 10 ^ 0 := by rw [whole, Nat.pow_zero]
  obtain ⟨p, counted⟩ := exists_decimalPlaces? divides
  have none : p ≤ 0 := le_of_den_dvd counted divides
  rw [counted, Nat.le_zero.1 none]

theorem den_div_pow_dvd (m : Int) (k : Nat) : ((m : Rat) / 10 ^ k).den ∣ 10 ^ k := by
  have divides := Rat.den_dvd m (10 ^ k)
  rw [Rat.divInt_eq_div] at divides
  exact_mod_cast divides

/-- A number that a power of ten makes whole is a fraction with this power below. -/
theorem exists_eq_div_pow (h : q.den ∣ 10 ^ k) : ∃ m : Int, q = m / 10 ^ k := by
  obtain ⟨n, power⟩ := h
  have ten : (10 : Rat) ^ k = q.den * n := by exact_mod_cast power
  have nonzero : (10 : Rat) ^ k ≠ 0 := pow_ne_zero k (by decide)
  refine ⟨q.num * n, ?_⟩
  rw [eq_div_iff nonzero, ten, ← mul_assoc, Rat.mul_den_eq_num, Int.cast_mul, Int.cast_natCast]

/-! ## Which expansions end -/

theorem ends_iff_den_dvd : Ends q ↔ ∃ k, q.den ∣ 10 ^ k := by
  constructor
  · rintro ⟨m, k, rfl⟩
    exact ⟨k, den_div_pow_dvd m k⟩
  · rintro ⟨k, divides⟩
    obtain ⟨m, same⟩ := exists_eq_div_pow divides
    exact ⟨m, k, same⟩

theorem Ends.exists_decimalPlaces? (ends : Ends q) : ∃ p, decimalPlaces? q = some p := by
  obtain ⟨k, divides⟩ := ends_iff_den_dvd.1 ends
  exact Number.exists_decimalPlaces? divides

theorem decimalPlaces?_eq_none_iff : decimalPlaces? q = none ↔ ¬ Ends q := by
  constructor
  · intro none ends
    obtain ⟨p, counted⟩ := ends.exists_decimalPlaces?
    rw [none] at counted
    cases counted
  · intro unending
    apply Option.eq_none_iff_forall_ne_some.2
    intro p counted
    exact unending (ends_iff_den_dvd.2 ⟨p, den_dvd_of_decimalPlaces? counted⟩)

end Metrology.Number
