import Metrology.Proofs.FunctionTable.Conversion
import Metrology.Proofs.Quantity.WrittenConversion
import Metrology.Proofs.UnitExpr.WrittenWords

/-!
# Conversion by one text

The call of `in_units` takes a number with both unit texts in one, and a quantity with the text of
the target or of a conversion. With an arrow between the texts, a number is converted as by
`convert` (`callInUnits_arrow`). A text that is a conversion as well as a unit text is taken for a
conversion, which happens only to texts with `to` or `in` among their names or with an arrow in a
name; with all others, a quantity is converted as by `convert` (`callInUnits_of_read`).
-/

namespace Metrology

open Catalog Text

/-- A unit text that reads as a conversion has one of the words among its names, or the character of
an arrow. -/
theorem UnitExpr.WrittenAs.names_of_conversion {text source target : String} {w : UnitExpr}
    (written : WrittenAs text w) (split : Written.conversion text = .ok (source, target)) :
    '→' ∈ text.toList ∨ "to" ∈ w.names ∨ "in" ∈ w.names := by
  obtain ⟨before, mark, after, front, rest, marks, -, cut, filled, filled', -, -⟩ :=
    Written.conversion_eq_ok_iff.1 split
  have whole := congrArg String.toList (eq_append_of_cutString cut)
  rw [String.toList_append, String.toList_append] at whole
  have hfront : ¬ Blanks front.toList := mt strip_eq_empty_iff.2 filled
  have hrest : ¬ Blanks rest.toList := mt strip_eq_empty_iff.2 filled'
  have listed : mark ∈ Written.conversionMarks := marks ▸ by simp
  simp only [Written.conversionMarks, List.mem_cons, List.not_mem_nil, or_false] at listed
  rcases listed with rfl | rfl | rfl | rfl
  · exact (written.false_of_arrow whole hfront).elim
  · exact .inl (whole ▸ by simp)
  · exact .inr (.inl (written.mem_names_of_spaced "to".toList (by decide)
      (by decide) whole hfront hrest))
  · exact .inr (.inr (written.mem_names_of_spaced "in".toList (by decide)
      (by decide) whole hfront hrest))

namespace FunctionTable

/-- The call that converts a quantity to the unit of a text. -/
def callConvertTo (s : Setting) (q : Quantity) (target : String) : Except Failure Cell :=
  standard.call s "convert" [.quantity q, .text target]

/-- The call that converts a number or a quantity as one text says. -/
def callInUnits (s : Setting) (c : Cell) (text : String) : Except Failure Cell :=
  standard.call s "in_units" [c, .text text]

theorem callConvertTo_eq (s : Setting) (q : Quantity) (target : String) :
    callConvertTo s q target = Cell.recover ((q.convert s.catalog target).map .quantity) := by
  have call : callConvertTo s q target =
      Cell.recover (UnitFunction.convert.run [.quantity q, .text target] s) := rfl
  rw [call]
  simp only [UnitFunction.convert, UnitFunction.takeQuantity, UnitFunction.takeText]

theorem callConvertTo_eq_quantity_iff {s : Setting} {q r : Quantity} {target : String} :
    callConvertTo s q target = .ok (.quantity r) ↔ q.convert s.catalog target = .ok r := by
  rw [callConvertTo_eq, recover_eq_ok_iff (by simp), map_eq_ok_iff]
  simp

/-- A quantity is converted to the target that the text names. -/
theorem callInUnits_quantity (s : Setting) (q : Quantity) (text : String) :
    callInUnits s (.quantity q) text = callConvertTo s q (UnitFunction.targetOf text) := rfl

theorem callInUnits_number (s : Setting) (x : Numeral) (text : String) :
    callInUnits s (.number x) text = Cell.recover (x.exact >>= fun q =>
      Written.conversion text >>= fun (source, target) =>
        UnitFunction.convertNumber s q source target) := rfl

/-! ## Numbers -/

/-- With an arrow between two texts, a number is converted as with two texts, whatever the texts
are, and what cannot be converted is answered by the same error value. -/
theorem callInUnits_arrow (s : Setting) (x : Numeral) {a b : String} (ha : strip a = a)
    (hb : strip b = b) (filledA : a ≠ "") (filledB : b ≠ "")
    (absent : ¬ "->".toList <:+: a.toList) :
    callInUnits s (.number x) (a ++ "->" ++ b) = callConvert s x a b := by
  rw [callInUnits_number, Written.conversion_arrow ha hb filledA filledB absent, callConvert_eq]
  simp only [ok_bind]

/-- Kilometres and miles. -/
theorem callInUnits_arrow_miles :
    callInUnits {} (.number (.integer 5)) "km->mi" = callConvert {} (.integer 5) "km" "mi" :=
  callInUnits_arrow {} (.integer 5) (a := "km") (b := "mi") (by decide) (by decide) (by decide)
    (by decide) (by decide)

/-! ## Quantities -/

theorem callConvertTo_fahrenheit : ∃ u v y, Catalog.standard.unit "C" = .ok u ∧
    callConvertTo {} ⟨100, u, "C"⟩ "F" = .ok (.quantity ⟨y, v, "F"⟩) := by
  obtain ⟨u, readC, dimension, -, -⟩ := unit_of_listing (l := celsius) (by simp) (by decide)
  obtain ⟨v, readF, dimension', -, -⟩ := unit_of_listing (l := fahrenheit) (by simp) (by decide)
  have same : v.dimension = u.dimension := dimension'.trans dimension.symm
  have hinted := unit_hint_self consistent_standard readF
  rw [same] at hinted
  have value := Scale.convert_eq same.symm (factor_pos_of_unit readF).ne' 100
  exact ⟨u, v, _, readC, callConvertTo_eq_quantity_iff.2
    (Quantity.convert_eq_ok_iff.2 ⟨v, _, hinted, same, value, rfl⟩)⟩

theorem celsius_in_fahrenheit :
    UnitExpr.ofText "C in F" = .ok (((UnitExpr.name "C").mul (.name "in")).mul (.name "F")) ∧
      Written.conversion "C in F" = .ok ("C", "F") := by
  decide

/-- A quantity is converted to a unit text as by `convert`, if the text does not read as a
conversion as well. If it does, it has `to` or `in` among its names or an arrow in a name, and where
both sides are unit texts the quantity is converted to the second one. -/
theorem callInUnits_of_read (s : Setting) (q : Quantity) {text : String} {e : UnitExpr}
    (read : UnitExpr.ofText text = .ok e) :
    ((∀ source target, Written.conversion text ≠ .ok (source, target)) →
      callInUnits s (.quantity q) text = callConvertTo s q text) ∧
    ∀ source target, Written.conversion text = .ok (source, target) →
      ('→' ∈ text.toList ∨
        ∃ w, UnitExpr.WrittenAs text w ∧ ("to" ∈ w.names ∨ "in" ∈ w.names)) ∧
      ∀ e₁ e₂, UnitExpr.ofText source = .ok e₁ → UnitExpr.ofText target = .ok e₂ →
        callInUnits s (.quantity q) text = callConvertTo s q target := by
  rw [callInUnits_quantity, UnitFunction.targetOf]
  constructor
  · intro whole
    cases split : Written.conversion text with
    | ok sides => exact absurd split (whole sides.1 sides.2)
    | error f => rfl
  · intro source target split
    obtain ⟨w, written⟩ := UnitExpr.exists_writtenAs read
    refine ⟨(written.names_of_conversion split).imp_right fun words => ⟨w, written, words⟩, ?_⟩
    intro _ _ _ _
    rw [split]

/-- A hundred degrees Celsius are converted to `F` as by `convert`, and to the same unit by a text
that spells a product with an inch as well. -/
theorem callInUnits_fahrenheit : ∃ u v y, Catalog.standard.unit "C" = .ok u ∧
    callInUnits {} (.quantity ⟨100, u, "C"⟩) "F" = callConvertTo {} ⟨100, u, "C"⟩ "F" ∧
    callInUnits {} (.quantity ⟨100, u, "C"⟩) "C in F" = .ok (.quantity ⟨y, v, "F"⟩) := by
  obtain ⟨u, v, y, readC, converted⟩ := callConvertTo_fahrenheit
  have celsius : UnitExpr.ofText "C" = .ok (.name "C") := by decide
  have fahrenheit : UnitExpr.ofText "F" = .ok (.name "F") := by decide
  have whole : Written.conversion "F" = .error (.malformed (.noConversion "F")) := by
    decide
  obtain ⟨read, split⟩ := celsius_in_fahrenheit
  refine ⟨u, v, y, readC, (callInUnits_of_read {} _ fahrenheit).1 (by simp [whole]), ?_⟩
  rw [((callInUnits_of_read {} _ read).2 _ _ split).2 _ _ celsius fahrenheit]
  exact converted

/-- As a unit text it would be left as it stands, and so the two calls differ. -/
theorem not_callInUnits_of_read :
    ¬ ∀ (s : Setting) (q : Quantity) (text : String) (e : UnitExpr),
      UnitExpr.ofText text = .ok e →
        callInUnits s (.quantity q) text = callConvertTo s q text := by
  intro always
  obtain ⟨u, v, y, -, converted⟩ := callConvertTo_fahrenheit
  obtain ⟨read, split⟩ := celsius_in_fahrenheit
  have call := callInUnits_quantity {} ⟨100, u, "C"⟩ "C in F"
  rw [UnitFunction.targetOf, split] at call
  dsimp only at call
  rw [converted, always {} _ _ _ read, callConvertTo_eq_quantity_iff,
    Quantity.convert_eq_ok_iff] at call
  -- a quantity shows the text that it was converted to
  obtain ⟨_, _, -, -, -, shown⟩ := call
  have label : "C in F" = "F" := congrArg Quantity.label shown
  exact absurd label (by decide)

end FunctionTable

end Metrology
