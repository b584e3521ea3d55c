import Metrology.Number.Positional
import Metrology.Proofs.Number.Rounding

/-!
# Which numbers are shown as they are

Rounding to significant digits goes by the place of the first digit (`magnitude_spec`) and leaves a
number that needs no more digits alone, so that integers and numbers of few digits are shown as they
are (`shownValue_of_isExact`), and no other number is (`shownValue_eq_iff`). Whatever is shown has an
expansion that ends.
-/

namespace Metrology.Number

variable {q : Rat}

/-- An integer, or a number whose expansion ends after `exactDigits` significant digits at most. -/
def IsExact (q : Rat) : Prop :=
  q.den = 1 ∨ ∃ (m : Int) (k : Nat), m.natAbs < 10 ^ exactDigits ∧ q = m / 10 ^ k

theorem IsExact.ends (exact : IsExact q) : Ends q := by
  rcases exact with whole | ⟨m, k, -, same⟩
  · exact ends_iff_den_dvd.2 ⟨0, by rw [whole, Nat.pow_zero]⟩
  · exact ⟨m, k, same⟩

/-- A number with few enough digits is an integer if they end in front of the point. -/
theorem HasDigits.isExact (h : HasDigits exactDigits q) : IsExact q := by
  obtain ⟨m, e, short, rfl⟩ := h
  rcases Int.eq_nat_or_neg e with ⟨k, rfl | rfl⟩
  · refine .inl ?_
    rw [zpow_natCast]
    exact_mod_cast Rat.den_intCast (m * 10 ^ k)
  · refine .inr ⟨m, k, short, ?_⟩
    rw [zpow_neg, zpow_natCast, div_eq_mul_inv]

/-- An exact number that is no integer has few enough digits. -/
theorem IsExact.hasDigits (exact : IsExact q) (broken : q.den ≠ 1) : HasDigits exactDigits q := by
  obtain ⟨m, k, short, same⟩ := exact.resolve_left broken
  refine ⟨m, -k, short, ?_⟩
  rw [same, zpow_neg, zpow_natCast, div_eq_mul_inv]

/-- A number that needs few digits is shown as it is, whatever the precision. -/
theorem shownValue_of_isExact (exact : IsExact q) (precision : Nat) :
    shownValue precision q = q := by
  unfold shownValue
  split
  · rfl
  · next places more counted =>
    -- an integer would have no places counted
    have broken : q.den ≠ 1 := by
      intro whole
      rw [decimalPlaces?_of_den_one whole] at counted
      exact more (Option.some.inj counted).symm
    exact roundTo_of_hasDigits (exact.hasDigits broken)
  · next counted => exact absurd exact.ends (decimalPlaces?_eq_none_iff.1 counted)

/-- A number whose expansion ends is shown with the same value whatever the precision. -/
theorem shownValue_of_ends (ends : Ends q) (precision precision' : Nat) :
    shownValue precision q = shownValue precision' q := by
  obtain ⟨p, counted⟩ := ends.exists_decimalPlaces?
  unfold shownValue
  rw [counted]
  cases p with
  | zero => rfl
  | succ p => rfl

/-- Of the numbers whose expansion ends, those that need few digits are shown as they are, and no
others. -/
theorem shownValue_eq_iff (ends : Ends q) (precision : Nat) :
    shownValue precision q = q ↔ IsExact q := by
  constructor
  · intro same
    unfold shownValue at same
    split at same
    · next whole => exact .inl (Nat.dvd_one.1 (den_dvd_of_decimalPlaces? whole))
    · -- rounded to itself, the number has no more digits than are kept
      exact ((roundTo_eq_iff (by decide)).1 same).isExact
    · next counted => exact absurd ends (decimalPlaces?_eq_none_iff.1 counted)
  · intro exact
    exact shownValue_of_isExact exact precision

/-- A number whose expansion ends is shown to within half a unit of the last digit that is kept. -/
theorem abs_shownValue_sub_le (ends : Ends q) (precision : Nat) :
    |shownValue precision q - q| ≤ lastUnit exactDigits q / 2 := by
  unfold shownValue
  split
  · rw [sub_self, abs_zero]
    exact (half_pos (lastUnit_pos exactDigits q)).le
  · exact abs_roundTo_sub_le exactDigits q
  · next counted => exact absurd ends (decimalPlaces?_eq_none_iff.1 counted)

/-- A number whose expansion does not end is rounded to the digits asked for. -/
theorem shownValue_of_not_ends (unending : ¬ Ends q) (precision : Nat) :
    shownValue precision q = roundTo precision q := by
  unfold shownValue
  rw [decimalPlaces?_eq_none_iff.2 unending]

/-- The number of significant digits that are kept of a number, unless it is an integer. -/
def keptDigits (precision : Nat) (q : Rat) : Nat :=
  if (decimalPlaces? q).isSome then exactDigits else precision

/-- Every number is shown to within half a unit of the last digit that is kept. -/
theorem abs_shownValue_sub_le_kept (precision : Nat) (q : Rat) :
    |shownValue precision q - q| ≤ lastUnit (keptDigits precision q) q / 2 := by
  unfold keptDigits
  by_cases ends : Ends q
  · rw [if_pos (Option.isSome_iff_exists.2 ends.exists_decimalPlaces?)]
    exact abs_shownValue_sub_le ends precision
  · rw [decimalPlaces?_eq_none_iff.2 ends, shownValue_of_not_ends ends]
    exact abs_roundTo_sub_le precision q

/-- Every number is shown with an expansion that ends. -/
theorem ends_shownValue (precision : Nat) (q : Rat) : Ends (shownValue precision q) := by
  unfold shownValue
  split
  · next whole => exact ends_iff_den_dvd.2 ⟨0, den_dvd_of_decimalPlaces? whole⟩
  · exact ends_roundTo _ q
  · exact ends_roundTo _ q

/-- Whatever the precision, the numbers that need few digits are shown as they are, and no others. -/
theorem shownValue_eq_self_iff (precision : Nat) (q : Rat) :
    shownValue precision q = q ↔ IsExact q := by
  refine ⟨fun same => ?_, fun exact => shownValue_of_isExact exact precision⟩
  have ends := ends_shownValue precision q
  rw [same] at ends
  exact (shownValue_eq_iff ends precision).1 same

end Metrology.Number
