import Metrology.Proofs.Label.BaseUnits
import Metrology.Proofs.Simplifier

/-!
# Labels of coherent units

A coherent unit is shown under the symbol of a derived unit, or composed of base units. Either label
is read back as this unit in every catalog that has the base units and whose derived units have
symbols that are single names (`Simplifier.unit_siLabel`). The symbol of a derived unit may belong
to a unit of another dimension; then it is not shown.
-/

namespace Metrology

open UnitExpr

variable {c : Catalog}

namespace Catalog

theorem hasBaseUnits_iff : c.HasBaseUnits ↔
    ∀ p ∈ baseDimensions, (c.get? p.1).any (fun r => r.entry.scale = Scale.linear p.2) = true := by
  simp only [HasBaseUnits, Option.any_eq_true, decide_eq_true_eq]

instance : Decidable c.HasBaseUnits := decidable_of_iff _ hasBaseUnits_iff.symm

/-- The symbols of the derived units are single names in normal form. -/
def HasDerivedNames (c : Catalog) : Prop :=
  ∀ r ∈ c.derivedRecords, isName (Symbol.normalize r.entry.symbol).toList = true

instance : Decidable c.HasDerivedNames :=
  inferInstanceAs (Decidable (∀ r ∈ c.derivedRecords,
    isName (Symbol.normalize r.entry.symbol).toList = true))

/-- A symbol that is a single name means the unit that owns it. -/
theorem unit_of_get? {text : String} {r : Record}
    (single : isName (Symbol.normalize text).toList = true) (owned : c.get? text = some r) :
    c.unit text = .ok r.entry.scale := by
  -- the name is looked up in the normal form of a text that is one already
  have found : c.get? (Symbol.normalize text) = some r := by
    rw [get?, Symbol.normalize_normalize]
    exact owned
  rw [unit_of_name (ofText_of_isName single), named, found]

end Catalog

/-- The preferred label of a coherent unit is read back as this unit. -/
theorem Simplifier.unit_siLabel (base : c.HasBaseUnits) (names : c.HasDerivedNames) {d : Dimension}
    (small : d.maxExponent ≤ exponentLimit) :
    c.unit ((ofCatalog c).siLabel d) = .ok (Scale.linear d) := by
  -- a symbol that belongs to another unit is not shown, so every label means what it should
  rcases siLabel_cases c d with composed | ⟨r, listed, scale, owned, symbol⟩
  · rw [composed]
    exact unit_ofDimension base small
  · rw [symbol, Catalog.unit_of_get? (names r listed) owned, scale]

/-- In every catalog that has the base units, and whose derived units have single names as symbols,
the two labels of a coherent unit, in base units and under its preferred name, are read as this unit
without a hint. The first of them is the label of a quantity in its base form. -/
theorem coherent_labels_read_back (base : c.HasBaseUnits) (names : c.HasDerivedNames)
    {d : Dimension} (small : d.maxExponent ≤ exponentLimit) :
    c.unit (Label.ofDimension d) = .ok (Scale.linear d) ∧
      c.unit ((Simplifier.ofCatalog c).siLabel d) = .ok (Scale.linear d) ∧
      ∀ q : Quantity, q.dimension = d → c.unit q.toBase.label = .ok q.toBase.scale := by
  refine ⟨unit_ofDimension base small, Simplifier.unit_siLabel base names small, ?_⟩
  rintro q rfl
  exact unit_ofDimension base small

/-- The base units, a mass that is registered under the symbol of the newton, and then the newton
and the hertz. -/
def newtonTaken : Catalog :=
  (Builder.run {} [
    .define (.plain "length" .ofLength "m" "metre" 1),
    .define (.plain "mass" .ofMass "kg" "kilogram" 1),
    .define (.plain "time" .ofTime "s" "second" 1),
    .define (.plain "current" .ofCurrent "A" "ampere" 1),
    .define (.plain "temperature" .ofTemperature "K" "kelvin" 1),
    .define (.plain "amount" .ofAmount "mol" "mole" 1),
    .define (.plain "luminosity" .ofLuminosity "cd" "candela" 1),
    .define (.plain "mass" .ofMass "N" "nail" 3),
    .define (.named "force" .force "N" "newton" 1),
    .define (.named "frequency" .frequency "Hz" "hertz" 1)]).catalog

/-- The hertz is shown by name. The newton is not, since its symbol is read as a mass. -/
theorem newton_read_back :
    newtonTaken.unit "N" = .ok (Scale.linear .ofMass 3) ∧
      (Simplifier.ofCatalog newtonTaken).siLabel .frequency = "Hz" ∧
      newtonTaken.unit "Hz" = .ok (Scale.linear .frequency) ∧
      (Simplifier.ofCatalog newtonTaken).siLabel .force = "kg*m/s^2" ∧
      newtonTaken.unit "kg*m/s^2" = .ok (Scale.linear .force) := by
  have base : newtonTaken.HasBaseUnits := by decide
  have names : newtonTaken.HasDerivedNames := by decide
  have hertz : (Simplifier.ofCatalog newtonTaken).siLabel .frequency = "Hz" := by decide
  have newton : (Simplifier.ofCatalog newtonTaken).siLabel .force = "kg*m/s^2" := by
    decide
  have force := coherent_labels_read_back base names (d := .force) (by decide)
  have frequency := coherent_labels_read_back base names (d := .frequency) (by decide)
  rw [newton] at force
  rw [hertz] at frequency
  exact ⟨by decide, hertz, frequency.2.1, newton, force.2.1⟩

end Metrology
