import Mathlib.Tactic.NormNum
import Metrology.FunctionTable.Standard
import Metrology.Proofs.Catalog.Homonyms
import Metrology.Proofs.Quantity.Conversion

/-!
# Conversion by name

The call of `convert` with a number and two unit texts reads the first text on its own and the
second one with the dimension of the first as a hint. In the standard catalog the call with the
texts exchanged leads back to the number, except that a charge in `C` or a capacitance in `F`
cannot be read on its own (`callConvert_back`).
-/

namespace Metrology

open Catalog

namespace FunctionTable

/-- The call that converts a number from one unit text to another. -/
def callConvert (s : Setting) (x : Numeral) (source target : String) : Except Failure Cell :=
  standard.call s "convert" [.number x, .text source, .text target]

/-- What the call does, step by step. -/
theorem callConvert_eq (s : Setting) (x : Numeral) (source target : String) :
    callConvert s x source target =
      Cell.recover (x.exact >>= fun q => UnitFunction.convertNumber s q source target) := rfl

/-- Whatever is no error value was there before failures were made error values. -/
theorem recover_eq_ok_iff {result : Except Failure Cell} {c : Cell} (value : ∀ e, .error e ≠ c) :
    Cell.recover result = .ok c ↔ result = .ok c := by
  unfold Cell.recover
  split
  · exact Iff.rfl
  · split
    · simp [value]
    · simp

/-- A number is converted exactly if both texts name units of one dimension and the conversion
between them is defined. -/
theorem convertNumber_eq_ok_iff {s : Setting} {q : Rat} {source target : String} {cell : Cell} :
    UnitFunction.convertNumber s q source target = .ok cell ↔
      ∃ u v y, s.catalog.unit source = .ok u ∧
        s.catalog.unit target (some u.dimension) = .ok v ∧ v.dimension = u.dimension ∧
        Scale.convert u v q = .ok y ∧ .ofRat y = cell := by
  simp only [UnitFunction.convertNumber, Quantity.inUnit, bind_eq_ok_iff, map_eq_ok_iff]
  constructor
  · rintro ⟨_, ⟨u, read, rfl⟩, converted, conversion, made⟩
    obtain ⟨v, y, readTarget, same, value, rfl⟩ := Quantity.convert_eq_ok_iff.1 conversion
    cases made
    exact ⟨u, v, y, read, readTarget, same, value, rfl⟩
  · rintro ⟨u, v, y, read, readTarget, same, value, rfl⟩
    exact ⟨_, ⟨u, read, rfl⟩, _, Quantity.convert_eq_ok_iff.2 ⟨v, y, readTarget, same, value, rfl⟩,
      rfl⟩

/-- The call yields a number exactly where the texts name units of one dimension. -/
theorem callConvert_eq_number_iff {s : Setting} {x y : Numeral} {source target : String} :
    callConvert s x source target = .ok (.number y) ↔
      ∃ q u v z, x.exact = .ok q ∧ s.catalog.unit source = .ok u ∧
        s.catalog.unit target (some u.dimension) = .ok v ∧ v.dimension = u.dimension ∧
        Scale.convert u v q = .ok z ∧ y = .fraction z := by
  rw [callConvert_eq, recover_eq_ok_iff (by simp), bind_eq_ok_iff]
  constructor
  · rintro ⟨q, exact, converted⟩
    obtain ⟨u, v, z, read, readTarget, same, value, cell⟩ := convertNumber_eq_ok_iff.1 converted
    cases cell
    exact ⟨q, u, v, z, exact, read, readTarget, same, value, rfl⟩
  · rintro ⟨q, u, v, z, exact, read, readTarget, same, value, rfl⟩
    exact ⟨q, exact, convertNumber_eq_ok_iff.2 ⟨u, v, z, read, readTarget, same, value, rfl⟩⟩

/-- Texts whose units differ in dimension are answered by an error value. -/
theorem callConvert_of_ne {s : Setting} {x : Numeral} {q : Rat} {source target : String}
    {u v : Scale} (exact : x.exact = .ok q) (read : s.catalog.unit source = .ok u)
    (readTarget : s.catalog.unit target (some u.dimension) = .ok v)
    (differ : v.dimension ≠ u.dimension) :
    ∃ e, callConvert s x source target = .ok (.error e) := by
  refine ⟨ErrorValue.ofFailure (.mismatch source target "convert"), ?_⟩
  have failed : UnitFunction.convertNumber s q source target =
      .error (.mismatch source target "convert") := by
    simp only [UnitFunction.convertNumber, Quantity.inUnit, read, Quantity.convert,
      Quantity.dimension, Except.map, bind, Except.bind, readTarget, differ, ne_eq,
      not_false_eq_true, if_true]
  rw [callConvert_eq, exact, ok_bind, failed]
  rfl

/-- The texts that can name a unit only behind a hint: `C` for a charge and `F` for a capacitance,
where on their own they name temperatures. -/
def NeedsHint (source target : String) : Prop :=
  ∃ u name, Catalog.standard.unit source = .ok u ∧ UnitExpr.ofText target = .ok (.name name) ∧
    ((Symbol.normalize name = "C" ∧ u.dimension = Dimension.charge) ∨
      (Symbol.normalize name = "F" ∧ u.dimension = Dimension.capacitance))

/-- Such a text is a homonym of a temperature and of a unit of the other text's dimension. -/
theorem NeedsHint.homonym {source target : String} (h : NeedsHint source target) {u : Scale}
    (read : Catalog.standard.unit source = .ok u) :
    ∃ name, UnitExpr.ofText target = .ok (.name name) ∧
      (Symbol.normalize name, Dimension.ofTemperature) ∈ homonyms ∧
      (Symbol.normalize name, u.dimension) ∈ homonyms ∧
      u.dimension ≠ Dimension.ofTemperature := by
  obtain ⟨u', name, readU, spelled, symbol⟩ := h
  rw [read] at readU
  cases readU
  refine ⟨name, spelled, ?_⟩
  rcases symbol with ⟨key, dimension⟩ | ⟨key, dimension⟩
  · rw [key, dimension]
    decide
  · rw [key, dimension]
    decide

/-- Such a text names a temperature on its own, and the other text no temperature. -/
theorem NeedsHint.own {source target : String} (h : NeedsHint source target) {u : Scale}
    (read : Catalog.standard.unit source = .ok u) :
    u.dimension ≠ Dimension.ofTemperature ∧
      ∃ v, Catalog.standard.unit target = .ok v ∧ v.dimension = Dimension.ofTemperature := by
  obtain ⟨name, spelled, key, -, differ⟩ := h.homonym read
  obtain ⟨r, found, temperature⟩ := owner_of_homonym key
  refine ⟨differ, r.entry.scale, ?_, temperature⟩
  rw [unit_of_name spelled, named_of_symbol found]

/-- Behind the hint it names a unit of the other text's dimension. -/
theorem NeedsHint.hinted {source target : String} (h : NeedsHint source target) {u : Scale}
    (read : Catalog.standard.unit source = .ok u) :
    ∃ v, Catalog.standard.unit target (some u.dimension) = .ok v ∧ v.dimension = u.dimension := by
  obtain ⟨name, spelled, -, key, -⟩ := h.homonym read
  obtain ⟨r, found, dimension⟩ := binding_of_homonym key
  refine ⟨r.entry.scale, ?_, dimension⟩
  rw [unit_of_name spelled, named_of_binding found]

/-- Every other text means the same with the hint and without. -/
theorem hinted_of_not_needsHint {source target : String} (h : ¬ NeedsHint source target) {u : Scale}
    (read : Catalog.standard.unit source = .ok u) :
    Catalog.standard.unit target (some u.dimension) = Catalog.standard.unit target := by
  rcases unit_hint_cases consistent_standard target u.dimension with
    own | ⟨name, r, r', spelled, shadows, -, -⟩
  · exact own
  · exact absurd ⟨u, name, read, spelled, (cases_of_shadows shadows).2⟩ h

theorem callConvert_of_needsHint {s : Setting} (hs : s.catalog = Catalog.standard)
    {source target : String} (needs : NeedsHint source target) {y : Numeral} {z : Rat}
    (exact : y.exact = .ok z) : ∃ e, callConvert s y target source = .ok (.error e) := by
  -- the other text is no temperature, so the hint does not change how it is read
  obtain ⟨u, -, read, -⟩ := id needs
  obtain ⟨differ, v, own, temperature⟩ := needs.own read
  have readSource : Catalog.standard.unit source (some Dimension.ofTemperature) = .ok u := by
    rcases unit_hint_cases consistent_standard source Dimension.ofTemperature with
      plain | ⟨name, r, r', -, shadows, -, -⟩
    · rw [plain, read]
    · rcases (cases_of_shadows shadows).2 with ⟨-, charge⟩ | ⟨-, capacitance⟩
      · exact absurd charge (by decide)
      · exact absurd capacitance (by decide)
  rw [← hs] at own readSource
  rw [← temperature] at readSource differ
  exact callConvert_of_ne exact own readSource differ

/-- A text that keeps its unit without the hint leads back. -/
theorem callConvert_of_own {s : Setting} (hs : s.catalog = Catalog.standard)
    {source target : String} {u v : Scale} {q z : Rat} (read : Catalog.standard.unit source = .ok u)
    (own : Catalog.standard.unit target = .ok v) (same : v.dimension = u.dimension)
    (value : Scale.convert u v q = .ok z) :
    callConvert s (.fraction z) target source = .ok (.ofRat q) := by
  have readSource := unit_hint_self consistent_standard read
  have back := Scale.convert_back (factor_pos_of_unit read).ne' (factor_pos_of_unit own).ne' value
  rw [← hs, ← same] at readSource
  exact callConvert_eq_number_iff.2 ⟨z, v, u, q, rfl, hs ▸ own, readSource, same.symm, back, rfl⟩

/-- In the standard catalog, a number that is converted from one unit text to another is converted
back to itself, unless the second text names its unit only behind a hint. Then the way back is an
error. -/
theorem callConvert_back {s : Setting} (hs : s.catalog = Catalog.standard) {x y : Numeral}
    {source target : String} (there : callConvert s x source target = .ok (.number y)) :
    (¬ NeedsHint source target ∧
      ∃ q, x.exact = .ok q ∧ callConvert s y target source = .ok (.ofRat q)) ∨
    (NeedsHint source target ∧ ∃ e, callConvert s y target source = .ok (.error e)) := by
  obtain ⟨q, u, v, z, exact, read, readTarget, same, value, rfl⟩ :=
    callConvert_eq_number_iff.1 there
  rw [hs] at read readTarget
  rcases unit_hint_cases consistent_standard target u.dimension with
    own | ⟨name, r, r', spelled, shadows, -, -⟩
  · left
    rw [own] at readTarget
    -- the target was read as on its own, so it is no temperature beside another dimension
    refine ⟨fun needs => ?_, q, exact, callConvert_of_own hs read readTarget same value⟩
    obtain ⟨differ, v', own, temperature⟩ := needs.own read
    rw [readTarget] at own
    cases own
    exact differ (same ▸ temperature)
  · right
    have needs : NeedsHint source target := ⟨u, name, read, spelled, (cases_of_shadows shadows).2⟩
    exact ⟨needs, callConvert_of_needsHint hs needs rfl⟩

/-! ## Two calls -/

/-- A hundred degrees Celsius are 212 degrees Fahrenheit, and these a hundred degrees Celsius. -/
theorem callConvert_hundred_celsius :
    callConvert {} (.integer 100) "C" "F" = .ok (.number (.fraction 212)) ∧
      callConvert {} (.fraction 212) "F" "C" = .ok (.ofRat 100) := by
  obtain ⟨u, readC, dimension, factor, offset⟩ :=
    unit_of_listing (l := celsius) (by simp) (by decide)
  obtain ⟨v, readF, dimension', factor', offset'⟩ :=
    unit_of_listing (l := fahrenheit) (by simp) (by decide)
  have same : v.dimension = u.dimension := dimension'.trans dimension.symm
  have hinted := unit_hint_self consistent_standard readF
  rw [same] at hinted
  have value : Scale.convert u v 100 = .ok 212 := by
    rw [Scale.convert_eq same.symm (factor_pos_of_unit readF).ne', factor, factor', offset, offset']
    refine congrArg Except.ok ?_
    norm_num [celsius, fahrenheit, Listing.plain]
  have there : callConvert {} (.integer 100) "C" "F" = .ok (.number (.fraction 212)) :=
    callConvert_eq_number_iff.2 ⟨100, u, v, 212, rfl, readC, hinted, same, value, rfl⟩
  rcases callConvert_back rfl there with ⟨-, q, exact, back⟩ | ⟨needs, -⟩
  · cases exact
    exact ⟨there, back⟩
  · exact absurd dimension (needs.own readC).1

/-- One ampere second is one coulomb, but on its own `C` is no unit of charge. -/
theorem not_callConvert_back :
    ¬ ∀ (x y : Numeral) (source target : String),
      callConvert {} x source target = .ok (.number y) →
        ∃ q, x.exact = .ok q ∧ callConvert {} y target source = .ok (.ofRat q) := by
  intro back
  obtain ⟨u, read, dimension, factor, offset⟩ := standard_unit_ampere_second
  obtain ⟨r, found, listing⟩ := standard_coulomb
  have spelled : UnitExpr.ofText "C" = .ok (.name "C") := by decide
  have charged : r.entry.scale.dimension = u.dimension := by
    rw [dimension]
    exact congrArg Listing.dimension listing
  have one : r.entry.scale.factor = 1 := congrArg Listing.factor listing
  have plain : r.entry.scale.offset = 0 := congrArg Listing.offset listing
  have hinted : Catalog.standard.unit "C" (some u.dimension) = .ok r.entry.scale := by
    rw [dimension, unit_of_name spelled]
    exact named_of_binding found
  have value : Scale.convert u r.entry.scale 1 = .ok 1 := by
    rw [Scale.convert_eq charged.symm (by rw [one]; decide), factor, offset, one, plain]
    norm_num
  have there : callConvert {} (.integer 1) "A*s" "C" = .ok (.number (.fraction 1)) :=
    callConvert_eq_number_iff.2 ⟨1, u, _, 1, rfl, read, hinted, charged, value, rfl⟩
  have needs : NeedsHint "A*s" "C" :=
    ⟨u, "C", read, spelled, .inl ⟨by decide, dimension⟩⟩
  obtain ⟨e, refused⟩ := callConvert_of_needsHint (s := {}) rfl needs (y := .fraction 1) rfl
  obtain ⟨q, -, returned⟩ := back _ _ _ _ there
  rw [refused] at returned
  cases returned

end FunctionTable

end Metrology
