import Metrology.Proofs.Success
import Metrology.Quantity.Arithmetic

/-!
# What a step of arithmetic does

A product or a quotient either keeps the label and the scale of one operand, which stands beside a
pure number, or composes labels and scales of two quantities neither of which is one. Each lemma
says all that an operation can do, so that what it keeps is proved case by case.
-/

namespace Metrology.Quantity

variable {a b r : Quantity}

theorem mul_cases (a b : Quantity) :
    (b.isScalar = true ∧ ∃ x, a.mul (.quantity b) = a.withValue x) ∨
      (a.isScalar = true ∧ ∃ x, a.mul (.quantity b) = b.withValue x) ∨
      (¬ a.isScalar = true ∧ ¬ b.isScalar = true ∧
        a.mul (.quantity b) =
          ⟨a.value * b.value, a.scale.mul b.scale, Label.product a.label b.label⟩) := by
  by_cases scalarB : b.isScalar = true
  · exact .inl ⟨scalarB, _, by rw [mul, if_pos scalarB]⟩
  by_cases scalarA : a.isScalar = true
  · exact .inr (.inl ⟨scalarA, _, by rw [mul, if_neg scalarB, if_pos scalarA]⟩)
  · exact .inr (.inr ⟨scalarA, scalarB, by rw [mul, if_neg scalarB, if_neg scalarA]⟩)

theorem divInto_cases {n : Rat} (h : b.divInto n = .ok r) :
    ∃ x scale, b.scale.inverse = .ok scale ∧ r = ⟨x, scale, Label.quotient "" b.label⟩ := by
  unfold divInto at h
  split at h
  · cases h
  · obtain ⟨scale, inverse, rfl⟩ := map_eq_ok_iff.1 h
    exact ⟨_, scale, inverse, rfl⟩

theorem div_number_cases {n : Rat} (h : a.div (.number n) = .ok r) : ∃ x, r = a.withValue x := by
  unfold div at h
  dsimp only at h
  split at h
  · cases h
  · cases h
    exact ⟨_, rfl⟩

theorem div_cases (h : a.div (.quantity b) = .ok r) :
    (b.isScalar = true ∧ ∃ x, r = a.withValue x) ∨
      (a.isScalar = true ∧ ¬ b.isScalar = true ∧ b.divInto a.value = .ok r) ∨
      (¬ a.isScalar = true ∧ ¬ b.isScalar = true ∧
        ∃ x scale, a.scale.div b.scale = .ok scale ∧
          r = ⟨x, scale, Label.quotient a.label b.label⟩) := by
  unfold div at h
  dsimp only at h
  split at h
  · cases h
  split at h
  · next scalarB =>
    cases h
    exact .inl ⟨scalarB, _, rfl⟩
  · next scalarB =>
    split at h
    · next scalarA => exact .inr (.inl ⟨scalarA, scalarB, h⟩)
    · next scalarA =>
      obtain ⟨scale, quotient, rfl⟩ := map_eq_ok_iff.1 h
      exact .inr (.inr ⟨scalarA, scalarB, _, scale, quotient, rfl⟩)

theorem pow_cases {n : Int} (h : a.pow n = .ok r) :
    ∃ x scale, a.scale.pow n = .ok scale ∧ r = ⟨x, scale, Label.power a.label n⟩ := by
  unfold pow at h
  split at h
  · next scale power =>
    obtain ⟨value, -, rfl⟩ := map_eq_ok_iff.1 h
    exact ⟨value, scale, power, rfl⟩
  · cases h

/-- Sums and differences keep the label and the scale of the left operand. -/
theorem add_cases {o : Amount} (h : a.add o = .ok r) : ∃ x, r = a.withValue x := by
  obtain ⟨x, -, rfl⟩ := map_eq_ok_iff.1 h
  exact ⟨_, rfl⟩

theorem sub_cases {o : Amount} (h : a.sub o = .ok r) : ∃ x, r = a.withValue x := by
  obtain ⟨x, -, rfl⟩ := map_eq_ok_iff.1 h
  exact ⟨_, rfl⟩

end Metrology.Quantity
