import Mathlib.Algebra.Field.Rat
import Mathlib.Algebra.Group.Basic
import Mathlib.Algebra.GroupWithZero.Basic
import Mathlib.Algebra.Order.Field.Basic
import Mathlib.Algebra.Order.Ring.Rat
import Metrology.Scale

/-!
# Conversion between scales

Conversion between scales of one dimension is an affine map (`convert_eq`). It keeps the SI value
(`toSI_of_convert`), and two conversions in a row are one (`convert_convert`), so that a conversion
can be undone (`convert_back`). Only the factors that are divided by must not be zero. Together the
conversions between the scales of a dimension are a groupoid (`convert_groupoid`).
-/

namespace Metrology.Scale

variable {s t u : Scale} {x y : Rat}

/-- Between scales of one dimension, conversion is one affine map; the shortcut for equal scales
agrees with it. -/
theorem convert_eq (same : s.dimension = t.dimension) (nonzero : t.factor ≠ 0) (x : Rat) :
    convert s t x = .ok ((x + s.offset) * s.factor / t.factor - t.offset) := by
  unfold convert
  rw [if_neg (by simp [same])]
  split
  · next equal =>
    subst equal
    rw [mul_div_cancel_right₀ _ nonzero, add_sub_cancel_right]
  · rw [fromSI, if_neg nonzero, toSI]

theorem dimension_eq_of_convert (h : convert s t x = .ok y) : s.dimension = t.dimension := by
  unfold convert at h
  split at h
  · cases h
  · next same => exact not_not.1 same

theorem convert_of_ne (differ : s.dimension ≠ t.dimension) (x : Rat) :
    convert s t x = .error (.mismatch s.dimension.text t.dimension.text "convert") :=
  if_pos differ

/-- A mismatch is reported for scales of different dimensions and for no others. -/
theorem mismatch_of_convert_iff :
    (∃ left right action, convert s t x = .error (.mismatch left right action)) ↔
      s.dimension ≠ t.dimension := by
  constructor
  · rintro ⟨left, right, action, failed⟩ same
    by_cases zero : t.factor = 0
    · -- the only other failure is that of a target with the factor zero
      unfold convert at failed
      rw [if_neg (not_not.2 same)] at failed
      split at failed
      · cases failed
      · rw [fromSI, if_pos zero] at failed
        cases failed
    · rw [convert_eq same zero] at failed
      cases failed
  · intro differ
    exact ⟨_, _, _, convert_of_ne differ x⟩

/-- An offset cancels in differences. -/
theorem toSI_sub_toSI (s : Scale) (x y : Rat) : s.toSI x - s.toSI y = (x - y) * s.factor := by
  rw [toSI, toSI, ← sub_mul, add_sub_add_right_eq_sub]

theorem convert_self (s : Scale) (x : Rat) : convert s s x = .ok x := by
  unfold convert
  rw [if_neg (by simp), if_pos rfl]

/-- Conversion keeps the SI value. -/
theorem toSI_of_convert (ht : t.factor ≠ 0) (h : convert s t x = .ok y) : t.toSI y = s.toSI x := by
  rw [convert_eq (dimension_eq_of_convert h) ht, Except.ok.injEq] at h
  rw [toSI, ← h, sub_add_cancel, div_mul_cancel₀ _ ht, toSI]

/-- Two conversions in a row are one. The first of the three scales may have the factor zero: then
every value on it is zero in SI. -/
theorem convert_convert (ht : t.factor ≠ 0) (hu : u.factor ≠ 0) (h : convert s t x = .ok y) :
    convert t u y = convert s u x := by
  have same := dimension_eq_of_convert h
  by_cases target : t.dimension = u.dimension
  · have value := toSI_of_convert ht h
    unfold toSI at value
    rw [convert_eq target hu, convert_eq (same.trans target) hu, value]
  · rw [convert_of_ne target, convert_of_ne (same ▸ target), same]

/-- A conversion between scales with factors other than zero can be undone. -/
theorem convert_back (hs : s.factor ≠ 0) (ht : t.factor ≠ 0) (h : convert s t x = .ok y) :
    convert t s y = .ok x := by
  rw [convert_convert ht hs h, convert_self]

/-- Between scales with positive factors, conversion keeps the order. -/
theorem lt_of_convert {x' y' : Rat} (hs : 0 < s.factor) (ht : 0 < t.factor)
    (h : convert s t x = .ok y) (h' : convert s t x' = .ok y') (less : x < x') : y < y' := by
  have same := dimension_eq_of_convert h
  rw [convert_eq same ht.ne', Except.ok.injEq] at h h'
  subst h h'
  apply sub_lt_sub_right
  apply div_lt_div_of_pos_right _ ht
  apply mul_lt_mul_of_pos_right _ hs
  exact add_lt_add_left less s.offset

/-- Conversions between scales of one dimension whose factors are not zero are a groupoid of affine
maps: to the same scale a value stays what it is, two conversions in a row are one, and each is undone
by the one that goes back. They keep the SI value, and the order if the factors are positive. Scales
of different dimensions, and only these, are reported as a mismatch. -/
theorem convert_groupoid (s t u : Scale) (x : Rat) :
    ((∃ left right action, convert s t x = .error (.mismatch left right action)) ↔
        s.dimension ≠ t.dimension) ∧
      (s.dimension = t.dimension → t.dimension = u.dimension →
        s.factor ≠ 0 → t.factor ≠ 0 → u.factor ≠ 0 →
          convert s s x = .ok x ∧
            ∃ y z, convert s t x = .ok y ∧ convert t u y = .ok z ∧ convert s u x = .ok z ∧
              convert t s y = .ok x ∧ t.toSI y = s.toSI x ∧
              y = (x + s.offset) * s.factor / t.factor - t.offset ∧
              (0 < s.factor → 0 < t.factor →
                ∀ x' y', convert s t x' = .ok y' → x < x' → y < y')) := by
  constructor
  · exact mismatch_of_convert_iff
  · intro hst htu hs ht hu
    have first := convert_eq hst ht x
    have second := convert_eq htu hu ((x + s.offset) * s.factor / t.factor - t.offset)
    refine ⟨convert_self s x, _, _, first, second, ?_, ?_, ?_, rfl, ?_⟩
    · rw [← convert_convert ht hu first, second]
    · exact convert_back hs ht first
    · exact toSI_of_convert ht first
    · intro positive positive' x' y' converted less
      exact lt_of_convert positive positive' first converted less

/-- A scale of temperature with eighty degrees between the freezing and the boiling of water. -/
def reaumur : Scale :=
  { dimension := .ofTemperature, factor := 5 / 4, offset := 5463 / 25
    offset_eq_zero := fun other => absurd rfl other }

/-- A scale of temperature that falls from the boiling of water, where it has its zero. -/
def delisle : Scale :=
  { dimension := .ofTemperature, factor := -2 / 3, offset := -22389 / 40
    offset_eq_zero := fun other => absurd rfl other }

/-- Water boils at eighty degrees, at 373.15 kelvin, and at zero. -/
theorem boiling_water :
    convert reaumur (linear .ofTemperature) 80 = .ok (7463 / 20) ∧
      convert (linear .ofTemperature) delisle (7463 / 20) = .ok 0 ∧
      convert reaumur delisle 80 = .ok 0 ∧
      convert (linear .ofTemperature) reaumur (7463 / 20) = .ok 80 ∧
      ∀ x y, convert reaumur (linear .ofTemperature) x = .ok y → 80 < x → 7463 / 20 < y := by
  obtain ⟨-, groupoid⟩ := convert_groupoid reaumur (linear .ofTemperature) delisle 80
  obtain ⟨-, y, z, there, further, direct, back, -, value, order⟩ :=
    groupoid rfl rfl (by decide +kernel) (by decide +kernel) (by decide +kernel)
  have kelvin : y = 7463 / 20 := value.trans (by decide +kernel)
  subst kelvin
  have zero : convert reaumur delisle 80 = .ok 0 := by decide +kernel
  rw [zero] at direct
  cases direct
  exact ⟨there, further, zero, back, order (by decide +kernel) (by decide +kernel)⟩

end Metrology.Scale
