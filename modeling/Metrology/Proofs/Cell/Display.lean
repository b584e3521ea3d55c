import Mathlib.Tactic.NormNum
import Metrology.Cell.Display
import Metrology.FunctionTable.Standard
import Metrology.Proofs.Label
import Metrology.Proofs.Number.Printed
import Metrology.Proofs.Quantity.Written
import Metrology.Proofs.Setting

/-!
# Quantities without label

A quantity without label is shown in its normal form, whose label names its unit without a hint
(`unit_label_of_normalize`), so that the text is read back as a quantity with the SI value of the
one that is shown, up to the digits that are kept. The exception are the quantities of dimension one
on a scale with a factor: they are shown as if they were pure numbers (`render_unlabelled`).
-/

namespace Metrology

open Text

namespace Catalog

variable {c : Catalog} {text : String} {hint : Option Dimension} {t : Scale}

/-- A text that names a unit is free of stray characters in normal form. -/
theorem clean_of_unit (read : c.unit text hint = .ok t) :
    ∀ b ∈ (Symbol.normalize text).toList, b ∉ UnitExpr.strayChars := by
  unfold unit at read
  dsimp only at read
  split at read
  · next empty =>
    intro b mem
    rw [empty] at mem
    cases mem
  · split at read
    · next spelled => exact (UnitExpr.spells_of_ofChars spelled).1
    · next spelled => exact (UnitExpr.spells_of_ofChars spelled).1
    · cases read

/-- A text with a mark in it names no unit: normalization leaves the mark where it is. -/
theorem unmarked_of_unit (read : c.unit text hint = .ok t) : '@' ∉ text.toList := by
  intro mem
  have barrier : IsBarrier '@' '@' :=
    .of_apart (decompose_of_apart (by decide) (by decide)) (by decide) (by decide)
  have kept : '@' ∈ (Symbol.normalize text).toList := by
    obtain ⟨front, rest, split⟩ := List.append_of_mem (mem_trim (by decide) mem)
    rw [Label.normalize_eq_ofList, String.toList_ofList, Label.characters, split,
      Symbol.form_append_cons barrier (by decide)]
    exact List.mem_append_right _ List.mem_cons_self
  exact clean_of_unit read '@' kept (by decide)

end Catalog

namespace Quantity

open Number

variable {q : Quantity}

/-- Without a label, the text of a quantity is that of its value. -/
theorem textTo_of_label_eq_empty (unlabelled : q.label = "") (precision : Int) :
    q.textTo precision = formatTo precision q.value := by
  unfold textTo
  cases formatTo precision q.value with
  | ok text => exact congrArg Except.ok (if_pos unlabelled)
  | error f => rfl

/-- Only temperatures have an offset. -/
theorem siValue_of_isDimensionless (pure : q.isDimensionless = true) :
    q.siValue = q.value * q.scale.factor := by
  have dimension : q.scale.dimension = Dimension.one := of_decide_eq_true pure
  have offset : q.scale.offset = 0 := by
    apply q.scale.offset_eq_zero
    rw [dimension]
    decide
  rw [siValue, Scale.toSI, offset, add_zero]

end Quantity

/-! ## Reading back -/

namespace UnitFunction

open Number

/-- The text of a quantity whose label names its unit is read as a quantity in this unit. The SI
values of the two differ by half a unit of the last digit kept at most, and they are the same if and
only if few digits are needed. -/
theorem spelled_of_textTo {s : Setting} {q : Quantity}
    (named : s.catalog.unit q.label = .ok q.scale) (printable : IsPrintable s.precision q.value) :
    ∃ text r, q.textTo s.precision = .ok text ∧ spelled s text = .ok r ∧ r.scale = q.scale ∧
      |r.siValue - q.siValue| ≤
        lastUnit (keptDigits s.precision q.value) q.value / 2 * q.scale.factor ∧
      (r.siValue = q.siValue ↔ IsExact q.value) := by
  have positive : 0 < q.scale.factor := Catalog.factor_pos_of_unit named
  refine ⟨q.labelled (format s.precision q.value),
    ⟨shownValue s.precision q.value, q.scale, strip q.label⟩, ?_, ?_, rfl, ?_, ?_⟩
  · rw [Quantity.textTo, formatTo_of_isPrintable printable]
    rfl
  · have read := q.quantity_labelled s.precision (Catalog.unmarked_of_unit named)
    rw [spelled, read]
    dsimp only [bind, Except.bind]
    rw [Quantity.inUnit, Label.unit_strip, named]
    rfl
  · rw [Quantity.siValue, Quantity.siValue, Scale.toSI_sub_toSI, abs_mul, abs_of_pos positive]
    exact mul_le_mul_of_nonneg_right (abs_shownValue_sub_le_kept _ _) positive.le
  · rw [← shownValue_eq_self_iff s.precision, ← sub_eq_zero, Quantity.siValue, Quantity.siValue,
      Scale.toSI_sub_toSI, mul_eq_zero_iff_right positive.ne', sub_eq_zero]

end UnitFunction

/-! ## Displaying -/

namespace Cell

open Catalog Number UnitFunction

variable {s : Setting} {q n : Quantity}

theorem render_of_isDimensionless (pure : q.isDimensionless = true) :
    render s (quantity q) = q.textTo s.precision := by
  rw [render, if_neg]
  rintro ⟨-, scaled⟩
  rw [pure] at scaled
  cases scaled

theorem render_of_not_isDimensionless (unlabelled : q.label = "")
    (measured : q.isDimensionless = false) (normal : s.normalize q = .ok n) :
    render s (quantity q) = n.textTo s.precision := by
  rw [render, if_pos ⟨unlabelled, measured⟩, normal]

/-- The normal form of a quantity of dimension one is a pure number. -/
theorem normalize_of_isDimensionless (usual : s.catalog = standard)
    (pure : q.isDimensionless = true) :
    s.normalize q = .ok { value := q.value * q.scale.factor } := by
  have dimension : q.dimension = Dimension.one := of_decide_eq_true pure
  have bare : s.preferredLabel q.dimension = "" := by
    rw [dimension]
    exact Setting.preferredLabel_one usual
  rw [← Quantity.siValue_of_isDimensionless pure]
  exact if_pos bare

/-- A quantity of dimension one is shown as its normal form if and only if its factor cannot be seen
in the digits that are shown. -/
theorem render_eq_textTo_iff (usual : s.catalog = standard) (unlabelled : q.label = "")
    (pure : q.isDimensionless = true) (normal : s.normalize q = .ok n)
    (raw : IsPrintable s.precision q.value)
    (scaled : IsPrintable s.precision (q.value * q.scale.factor)) :
    render s (quantity q) = n.textTo s.precision ↔
      shownValue s.precision q.value = shownValue s.precision (q.value * q.scale.factor) := by
  rw [normalize_of_isDimensionless usual pure] at normal
  cases normal
  rw [render_of_isDimensionless pure, Quantity.textTo_of_label_eq_empty unlabelled,
    Quantity.textTo_of_label_eq_empty rfl, formatTo_of_isPrintable raw,
    formatTo_of_isPrintable scaled, Except.ok.injEq, format_eq_iff]

/-- What is shown of a quantity without label. The standard catalog has a normal form of it, labelled
as the policy prefers. The label names the unit of the normal form without a hint, so that the text
of the normal form is read as a quantity in this unit, whose SI value is that of the quantity if few
digits are needed, and up to half a unit of the last digit kept if not. This text is what is shown of
every quantity that is not of dimension one, and of pure numbers. A quantity of dimension one on a
scale with a factor is shown as the number that it carries, as if it had no factor. -/
theorem render_unlabelled (usual : s.catalog = standard) (unlabelled : q.label = "")
    (small : q.dimension.maxExponent ≤ exponentLimit) :
    ∃ n, s.normalize q = .ok n ∧ n.label = s.preferredLabel q.dimension ∧
      s.catalog.unit n.label = .ok n.scale ∧ n.dimension = q.dimension ∧ n.siValue = q.siValue ∧
      (q.isDimensionless = false ∨ q.scale.factor = 1 →
        render s (quantity q) = n.textTo s.precision) ∧
      (q.isDimensionless = true →
        render s (quantity q) = formatTo s.precision q.value ∧
          n.textTo s.precision = formatTo s.precision (q.value * q.scale.factor) ∧
          (IsPrintable s.precision q.value → IsPrintable s.precision n.value →
            (render s (quantity q) = n.textTo s.precision ↔
              shownValue s.precision q.value =
                shownValue s.precision (q.value * q.scale.factor)))) ∧
      (IsPrintable s.precision n.value →
        ∃ text r, n.textTo s.precision = .ok text ∧ spelled s text = .ok r ∧ r.scale = n.scale ∧
          |r.siValue - q.siValue| ≤
            lastUnit (keptDigits s.precision n.value) n.value / 2 * n.scale.factor ∧
          (r.siValue = q.siValue ↔ IsExact n.value)) := by
  obtain ⟨n, normal, dimension, value⟩ := Setting.exists_normalize usual small
  have named := Setting.unit_label_of_normalize usual small normal
  refine ⟨n, normal, (Setting.unit_hint_of_normalize normal).1, named, dimension, value, ?_, ?_, ?_⟩
  · rintro (measured | plain)
    · exact render_of_not_isDimensionless unlabelled measured normal
    · cases pure : q.isDimensionless with
      | false => exact render_of_not_isDimensionless unlabelled pure normal
      | true =>
        rw [normalize_of_isDimensionless usual pure, plain, mul_one] at normal
        cases normal
        rw [render_of_isDimensionless pure, Quantity.textTo_of_label_eq_empty unlabelled,
          Quantity.textTo_of_label_eq_empty rfl]
  · intro pure
    have shown := render_eq_textTo_iff usual unlabelled pure normal
    rw [normalize_of_isDimensionless usual pure] at normal
    cases normal
    refine ⟨?_, Quantity.textTo_of_label_eq_empty rfl _, shown⟩
    rw [render_of_isDimensionless pure, Quantity.textTo_of_label_eq_empty unlabelled]
  · intro printable
    rw [← value]
    exact spelled_of_textTo named printable

/-- A length without label is shown in metres. -/
theorem render_millimetres :
    render {} (quantity ⟨1609344, .linear .ofLength (1 / 1000), ""⟩) = .ok "1609.344 m" ∧
      ∃ r, spelled {} "1609.344 m" = .ok r ∧ r.siValue = 1609344 / 1000 := by
  have metres : (Simplifier.ofCatalog standard).siLabel .ofLength = "m" :=
    siLabel_of_underived (by decide +kernel)
  have small : Dimension.ofLength.maxExponent ≤ exponentLimit := by decide
  have metre : Quantity.siValue ⟨1609344, .linear .ofLength (1 / 1000), ""⟩ = 1609344 / 1000 := by
    norm_num [Quantity.siValue, Scale.toSI, Scale.linear]
  have coherent := Simplifier.unit_siLabel hasBaseUnits_standard hasDerivedNames_standard small
  obtain ⟨⟨x, scale, label⟩, -, preferred, named, -, value, same, -, back⟩ :=
    render_unlabelled (s := {}) (q := ⟨1609344, .linear .ofLength (1 / 1000), ""⟩) rfl rfl small
  obtain rfl : label = "m" := preferred.trans metres
  rw [metres] at coherent
  obtain rfl : scale = .linear .ofLength := Except.ok.inj (named.symm.trans coherent)
  rw [metre] at value
  obtain rfl : x = 1609344 / 1000 := by simpa [Quantity.siValue, Scale.toSI, Scale.linear] using value
  have short : IsExact (1609344 / 1000) := .inr ⟨1609344, 3, by decide, by norm_num⟩
  obtain ⟨text, r, printed, read, -, -, kept⟩ := back (.inl short.ends)
  have shown : Quantity.textTo 15 ⟨1609344 / 1000, .linear .ofLength, "m"⟩ = .ok "1609.344 m" := by
    decide +kernel
  obtain rfl : text = "1609.344 m" := Except.ok.inj (printed.symm.trans shown)
  exact ⟨(same (.inl rfl)).trans shown, r, read, (kept.2 short).trans metre⟩

/-- Two kibibytes without label are shown as the number 2, although they are 16384 bits. -/
theorem not_render_unlabelled :
    ¬ ∀ (s : Setting) (q : Quantity), s.catalog = standard → q.label = "" →
      q.dimension.maxExponent ≤ exponentLimit →
        ∃ n, s.normalize q = .ok n ∧ render s (quantity q) = n.textTo s.precision := by
  intro normal
  obtain ⟨n, same, shown⟩ := normal {} ⟨2, .linear .one 8192, ""⟩ rfl rfl (by decide)
  have raw : IsExact 2 := .inl rfl
  have scaled : IsExact (2 * 8192) := .inl (by norm_num)
  have digits := (render_eq_textTo_iff rfl rfl rfl same (.inl raw.ends) (.inl scaled.ends)).1 shown
  have factor : (Scale.linear .one 8192).factor = 8192 := rfl
  rw [factor, shownValue_of_isExact raw, shownValue_of_isExact scaled] at digits
  norm_num at digits

end Cell

end Metrology
