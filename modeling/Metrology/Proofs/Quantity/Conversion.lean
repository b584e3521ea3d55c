import Metrology.Proofs.Catalog.Units
import Metrology.Quantity

/-!
# Conversion of quantities

A quantity is converted by a unit text, which is read with the dimension of the quantity as a hint.
Conversion keeps the dimension and the SI value, and where a quantity is converted again, the unit
in between leaves no trace (`convert_of_convert`). A quantity that is written in a unit text is
itself when it is converted to the same text (`convert_written`).
-/

namespace Metrology.Quantity

open Catalog

variable {c : Catalog} {q r : Quantity} {a : String}

theorem inUnit_of_unit {s : Scale} (h : c.unit a = .ok s) (x : Rat) :
    inUnit c x a = .ok ⟨x, s, a⟩ := by
  rw [inUnit, h]
  rfl

/-- A quantity is converted if the text, read with its dimension as a hint, names a unit of that
dimension. -/
theorem convert_eq_ok_iff {target : String} :
    q.convert c target = .ok r ↔
      ∃ v y, c.unit target (some q.dimension) = .ok v ∧ v.dimension = q.dimension ∧
        Scale.convert q.scale v q.value = .ok y ∧ (⟨y, v, target⟩ : Quantity) = r := by
  unfold convert
  cases c.unit target (some q.dimension) with
  | error f => simp
  | ok v =>
    by_cases same : v.dimension = q.dimension
    · simp [same, map_eq_ok_iff]
    · simp [same]

/-- What a quantity is converted to has its dimension and its SI value, and is converted further to
exactly what the quantity itself is converted to. -/
theorem convert_of_convert (h : q.convert c a = .ok r) :
    r.dimension = q.dimension ∧ r.siValue = q.siValue ∧
      ∀ (b : String) (r' : Quantity), r.convert c b = .ok r' ↔ q.convert c b = .ok r' := by
  obtain ⟨u, x, read, same, value, rfl⟩ := convert_eq_ok_iff.1 h
  have nonzero : u.factor ≠ 0 := (factor_pos_of_unit read).ne'
  have dimension : (⟨x, u, a⟩ : Quantity).dimension = q.dimension := same
  refine ⟨dimension, Scale.toSI_of_convert nonzero value, fun b r' => ?_⟩
  rw [convert_eq_ok_iff, convert_eq_ok_iff, dimension]
  -- the second text is read alike, and the two conversions of the value are one
  constructor
  · rintro ⟨v, y, readB, sameB, valueB, rfl⟩
    rw [Scale.convert_convert nonzero (factor_pos_of_unit readB).ne' value] at valueB
    exact ⟨v, y, readB, sameB, valueB, rfl⟩
  · rintro ⟨v, y, readB, sameB, valueB, rfl⟩
    rw [← Scale.convert_convert nonzero (factor_pos_of_unit readB).ne' value] at valueB
    exact ⟨v, y, readB, sameB, valueB, rfl⟩

/-- Two temperatures, a charge that shares the symbol of one of them, and a temperature that is
refused for the symbol of the other. -/
def temperatures : List BuildStep :=
  [.define { Listing.plain "temperature" .ofTemperature "C" "celsius" 1 with offset := 5463 / 20 },
    .define { Listing.plain "temperature" .ofTemperature "F" "fahrenheit" (5 / 9) with
      offset := 45967 / 100 },
    .define (.plain "electrical" .charge "C" "coulomb" 1),
    .define (.plain "temperature" .ofTemperature "K" "kelvin" 1 ["F"])]

def celsius : Scale :=
  { dimension := .ofTemperature, offset := 5463 / 20, offset_eq_zero := fun other => absurd rfl other }

def fahrenheit : Scale :=
  { dimension := .ofTemperature, factor := 5 / 9, offset := 45967 / 100
    offset_eq_zero := fun other => absurd rfl other }

/-- 68 degrees Fahrenheit that were 20 degrees Celsius have kept their SI value, and are these again
when they are converted back. -/
theorem fahrenheit_of_celsius :
    convert (Builder.run {} temperatures).catalog "F" ⟨20, celsius, "C"⟩ =
        .ok ⟨68, fahrenheit, "F"⟩ ∧
      siValue ⟨68, fahrenheit, "F"⟩ = siValue ⟨20, celsius, "C"⟩ ∧
      convert (Builder.run {} temperatures).catalog "C" ⟨68, fahrenheit, "F"⟩ =
        .ok ⟨20, celsius, "C"⟩ := by
  have there : convert (Builder.run {} temperatures).catalog "F" ⟨20, celsius, "C"⟩ =
      .ok ⟨68, fahrenheit, "F"⟩ := by
    decide +kernel
  have itself : convert (Builder.run {} temperatures).catalog "C" ⟨20, celsius, "C"⟩ =
      .ok ⟨20, celsius, "C"⟩ := by
    decide +kernel
  obtain ⟨-, kept, back⟩ := convert_of_convert there
  exact ⟨there, kept, (back "C" _).2 itself⟩

/-- In a catalog that any steps of building lead to, a unit text names the same unit with its own
dimension as a hint, and so a quantity that is written in it is converted to itself. -/
theorem convert_written (steps : List BuildStep) {text : String} {s : Scale}
    (h : (Builder.run {} steps).catalog.unit text = .ok s) :
    (Builder.run {} steps).catalog.unit text (some s.dimension) = .ok s ∧
      ∀ value : Rat,
        inUnit (Builder.run {} steps).catalog value text = .ok ⟨value, s, text⟩ ∧
          convert (Builder.run {} steps).catalog text ⟨value, s, text⟩ =
            .ok ⟨value, s, text⟩ := by
  have hinted := unit_hint_self (Builder.consistent_run consistent_empty steps) h
  refine ⟨hinted, fun value => ⟨?_, ?_⟩⟩
  · rw [inUnit, h]
    rfl
  · exact convert_eq_ok_iff.2 ⟨s, value, hinted, rfl, Scale.convert_self s value, rfl⟩

/-- The symbol `C` stands for Celsius with and without the hint, beside the coulomb. -/
theorem celsius_written :
    (Builder.run {} temperatures).catalog.unit "C" (some .ofTemperature) = .ok celsius ∧
      convert (Builder.run {} temperatures).catalog "C" ⟨20, celsius, "C"⟩ =
        .ok ⟨20, celsius, "C"⟩ := by
  have plain : (Builder.run {} temperatures).catalog.unit "C" = .ok celsius := by decide +kernel
  obtain ⟨hinted, written⟩ := convert_written temperatures plain
  exact ⟨hinted, (written 20).2⟩

end Metrology.Quantity
