import Mathlib.Tactic.NormNum
import Metrology.Proofs.Catalog.Homonyms
import Metrology.Proofs.Label
import Metrology.Proofs.Quantity.Conversion
import Metrology.Proofs.Simplifier

/-!
# Labels that are read behind a hint

Conversion and simplification may label a quantity with a symbol that names its unit only where the
dimension of the quantity is given as a hint. The label is true as it stands, but a product or a
quotient puts it into a text in which hints do not count.
Main statement: as long as this does not happen, every run of conversions, renamings, products and
quotients in the standard catalog labels its results truly, and a product in which it happens is
labelled wrongly (`displayed_of_reached`).
-/

namespace Metrology

open Catalog Text UnitExpr

theorem Dimension.eq_of_div_eq_one {a b : Dimension} (h : a.div b = one) : a = b := by
  cases a
  cases b
  simp only [div, one, Dimension.mk.injEq] at h ⊢
  omega

namespace Quantity

variable {c : Catalog} {a b q r : Quantity}

/-! ## Displayed units -/

/-- The label, read with the dimension of the quantity as a hint, has this dimension and the factor
of the unit. -/
def Displayed (c : Catalog) (q : Quantity) : Prop :=
  ∃ s, c.unit q.label (some q.dimension) = .ok s ∧ s.dimension = q.dimension ∧
    s.factor = q.scale.factor

/-- The labels that name their unit only behind a hint: `C` for a charge and `F` for a capacitance,
where on their own they name temperatures. -/
def NeedsHint (q : Quantity) : Prop :=
  ∃ name, UnitExpr.ofText q.label = .ok (.name name) ∧
    ((Symbol.normalize name = "C" ∧ q.dimension = Dimension.charge) ∨
      (Symbol.normalize name = "F" ∧ q.dimension = Dimension.capacitance))

theorem displayed_iff : q.Displayed c ↔
    (c.unit q.label (some q.dimension)).map Scale.dropOffset = .ok q.scale.dropOffset := by
  simp only [Displayed, map_eq_ok_iff, Scale.dropOffset_eq_iff, dimension]

/-- A quantity is displayed if what its label is read as is its unit. -/
theorem displayed_iff_of_unit {value : Rat} {scale s : Scale} {label : String}
    (read : (c.unit label (some scale.dimension)).map Scale.dropOffset = .ok s) :
    Displayed c ⟨value, scale, label⟩ ↔ s = scale.dropOffset := by
  rw [displayed_iff]
  dsimp only [dimension]
  rw [read, Except.ok.injEq]

theorem Displayed.withValue (h : q.Displayed c) (x : Rat) : (q.withValue x).Displayed c := h

theorem Faithful.displayed (hc : c.Consistent) (h : q.Faithful c) : q.Displayed c := by
  obtain ⟨s, read, dimension, factor⟩ := h
  exact ⟨s, dimension ▸ unit_hint_self hc read, dimension, factor⟩

/-- A label that does not need its hint is true without it. -/
theorem Displayed.faithful (h : q.Displayed standard) (own : ¬ q.NeedsHint) :
    q.Faithful standard := by
  obtain ⟨s, read, same⟩ := h
  rcases unit_hint_cases consistent_standard q.label q.dimension with
    plain | ⟨name, r, r', spelled, shadows, -, -⟩
  · exact ⟨s, plain ▸ read, same⟩
  · exact absurd ⟨name, spelled, (cases_of_shadows shadows).2⟩ own

/-- A label that needs its hint names a temperature without it. -/
theorem NeedsHint.own (h : q.NeedsHint) : q.dimension.temperature = 0 ∧
    ∃ t, standard.unit q.label = .ok t ∧ t.dimension = Dimension.ofTemperature := by
  obtain ⟨name, spelled, symbol⟩ := h
  have key : (Symbol.normalize name, q.dimension) ∈ homonyms ∧ q.dimension.temperature = 0 := by
    rcases symbol with ⟨key, dimension⟩ | ⟨key, dimension⟩
    · rw [key, dimension]
      decide
    · rw [key, dimension]
      decide
  obtain ⟨r, found, temperature⟩ := owner_of_homonym key.1
  refine ⟨key.2, r.entry.scale, ?_, temperature⟩
  rw [unit_of_name spelled, named_of_symbol found]

/-- What the label of a displayed quantity is read as without its hint. -/
theorem Displayed.own (h : q.Displayed standard) :
    ∃ t, standard.unit q.label = .ok t ∧
      ((¬ q.NeedsHint ∧ t.dropOffset = q.scale.dropOffset) ∨
        (q.NeedsHint ∧ q.dimension.temperature = 0 ∧ t.dimension = Dimension.ofTemperature)) := by
  by_cases needs : q.NeedsHint
  · obtain ⟨none, t, read, temperature⟩ := needs.own
    exact ⟨t, read, .inr ⟨needs, none, temperature⟩⟩
  · obtain ⟨t, read, same⟩ := h.faithful needs
    exact ⟨t, read, .inl ⟨needs, Scale.dropOffset_eq_iff.2 same⟩⟩

/-- Two labels of one dimension that need their hints are read alike. -/
theorem NeedsHint.unit_eq (ha : a.NeedsHint) (hb : b.NeedsHint) (same : a.dimension = b.dimension)
    (hint : Option Dimension) : standard.unit a.label hint = standard.unit b.label hint := by
  obtain ⟨name, spelled, symbol⟩ := ha
  obtain ⟨name', spelled', symbol'⟩ := hb
  have keys : Symbol.normalize name = Symbol.normalize name' ∧
      (Symbol.normalize name, a.dimension) ∈ homonyms := by
    rcases symbol with ⟨key, dimension⟩ | ⟨key, dimension⟩
    all_goals
      rw [← same, dimension] at symbol'
      rcases symbol' with ⟨key', dimension'⟩ | ⟨key', dimension'⟩
    · exact ⟨key.trans key'.symm, by rw [key, dimension]; decide⟩
    · cases dimension'
    · cases dimension'
    · exact ⟨key.trans key'.symm, by rw [key, dimension]; decide⟩
  -- the symbol has an owner, with any hint
  obtain ⟨r, found, -⟩ := owner_of_homonym keys.2
  have known : ∃ r, standard.get? name hint = some r := by
    rw [get?, owner?]
    split
    · exact ⟨_, rfl⟩
    · exact ⟨r, found⟩
  obtain ⟨r, owner⟩ := known
  have owner' : standard.get? name' hint = some r := by rw [get?, ← keys.1, ← owner, get?]
  rw [unit_of_name spelled, unit_of_name spelled', named, named, owner, owner']

theorem not_needsHint_of_isUnity (unity : Label.isUnity q.label = true) : ¬ q.NeedsHint := by
  rintro ⟨name, spelled, -⟩
  exact Label.ofText_ne_name_of_isUnity unity name spelled

theorem Displayed.isUnity_eq_false (h : q.Displayed standard) (scaled : ¬ q.isScalar = true) :
    Label.isUnity q.label = false := by
  cases unity : Label.isUnity q.label with
  | false => rfl
  | true =>
    have own := h.faithful (not_needsHint_of_isUnity unity)
    exact absurd (own.isScalar (hasNormalLabel_of_isUnity unity) unity) scaled

/-! ## Conversion and renaming -/

theorem displayed_of_convert {target : String} (h : q.convert c target = .ok r) :
    r.Displayed c := by
  obtain ⟨v, y, read, same, -, rfl⟩ := convert_eq_ok_iff.1 h
  refine ⟨v, ?_, rfl, rfl⟩
  rw [← read, ← same]
  rfl

theorem Displayed.simplify (h : q.Displayed standard) :
    ((Simplifier.ofCatalog standard).simplify q).Displayed standard := by
  rcases Simplifier.simplify_cases (c := standard) q with same | ⟨r, listed, -, same⟩
  · rwa [same]
  · rw [same]
    exact ⟨r.entry.scale, unit_of_derived listed, rfl, rfl⟩

/-! ## Products and quotients -/

/-- A product of displayed quantities is labelled truly if no operand needs its hint, and only
then. -/
theorem displayed_mul_iff (ha : a.Displayed standard) (hb : b.Displayed standard)
    (scaledA : ¬ a.isScalar = true) (scaledB : ¬ b.isScalar = true)
    (limits : WithinLimits (Symbol.normalize (a.mul (.quantity b)).label)) :
    (a.mul (.quantity b)).Displayed standard ↔ ¬ a.NeedsHint ∧ ¬ b.NeedsHint := by
  have namedA := ha.isUnity_eq_false scaledA
  have namedB := hb.isUnity_eq_false scaledB
  obtain ⟨s, readA, ownA⟩ := ha.own
  obtain ⟨t, readB, ownB⟩ := hb.own
  have composed : a.mul (.quantity b) =
      ⟨a.value * b.value, a.scale.mul b.scale, Label.product a.label b.label⟩ := by
    rw [mul, if_neg scaledB, if_neg scaledA]
  rw [composed] at limits ⊢
  dsimp only at limits
  refine (displayed_iff_of_unit (Label.unit_product _ (Label.means_of_unit namedA readA)
    (Label.means_of_unit namedB readB) namedA namedB limits)).trans ?_
  rw [← Scale.dropOffset_mul]
  constructor
  · intro same
    -- each label that is read as a temperature adds one to the exponent of temperature
    have temperature : s.dimension.temperature + t.dimension.temperature =
        a.dimension.temperature + b.dimension.temperature :=
      congrArg (fun s => s.dimension.temperature) same
    rcases ownA with ⟨plainA, sameA⟩ | ⟨-, coldA, warmA⟩
    · have keptA : s.dimension = a.dimension := (Scale.dropOffset_eq_iff.1 sameA).1
      rcases ownB with ⟨plainB, -⟩ | ⟨-, coldB, warmB⟩
      · exact ⟨plainA, plainB⟩
      · rw [keptA, coldB, warmB] at temperature
        exact absurd temperature (by simp [Dimension.ofTemperature])
    · rcases ownB with ⟨-, sameB⟩ | ⟨-, coldB, warmB⟩
      · have keptB : t.dimension = b.dimension := (Scale.dropOffset_eq_iff.1 sameB).1
        rw [keptB, coldA, warmA] at temperature
        exact absurd temperature (by simp [Dimension.ofTemperature])
      · rw [coldA, warmA, coldB, warmB] at temperature
        cases temperature
  · rintro ⟨plainA, plainB⟩
    rcases ownA with ⟨-, sameA⟩ | ⟨needsA, -⟩
    · rcases ownB with ⟨-, sameB⟩ | ⟨needsB, -⟩
      · rw [sameA, sameB]
      · exact absurd needsB plainB
    · exact absurd needsA plainA

/-- What a quotient asks of the labels of its operands: the divisor is put in parentheses exactly
if it is read as several terms, and no hint is needed, unless the one of the divisor makes up for
the one of the dividend. -/
structure Divides (a b : Quantity) : Prop where
  alike : Label.ScansAlike b.label
  hints : a.NeedsHint ↔ b.NeedsHint
  same : a.NeedsHint → a.dimension = b.dimension

/-- What a dividend is read as; a pure number is written as one. -/
theorem means_dividend {label : String} {s : Scale} (h : c.unit label = .ok s) :
    Means c (if Label.isUnity label = true then ['1'] else Label.characters label)
      s.dropOffset := by
  cases unity : Label.isUnity label with
  | false => exact Label.means_of_unit unity h
  | true =>
    have faithful : Faithful c ⟨0, s, label⟩ := ⟨s, h, rfl, rfl⟩
    rw [show s.dropOffset = Scale.one from
      faithful.dropOffset_eq_one (hasNormalLabel_of_isUnity unity) unity]
    exact .one c

/-- A quotient of displayed quantities is labelled truly if its operands fit, and only then. -/
theorem displayed_quotient_iff {value : Rat} {scale : Scale} (ha : a.Displayed standard)
    (hb : b.Displayed standard) (named : Label.isUnity b.label = false)
    (alike : Label.ScansAlike b.label)
    (divided : a.scale.dropOffset.div b.scale.dropOffset = .ok scale.dropOffset)
    (limits : WithinLimits (Symbol.normalize (Label.quotient a.label b.label))) :
    Displayed standard ⟨value, scale, Label.quotient a.label b.label⟩ ↔ a.Divides b := by
  obtain ⟨s, readA, ownA⟩ := ha.own
  obtain ⟨t, readB, ownB⟩ := hb.own
  have nonzero : t.factor ≠ 0 := (factor_pos_of_unit readB).ne'
  have read : s.dropOffset.div t.dropOffset =
      .ok (Scale.linear (s.dimension.div t.dimension) (s.factor / t.factor)) := by
    rw [Scale.dropOffset_div, Scale.div, if_neg nonzero]
  refine (displayed_iff_of_unit (Label.unit_quotient _ (means_dividend readA)
    (Label.means_of_unit named readB) named alike read limits)).trans ?_
  obtain ⟨nonzero', quotient⟩ := Scale.eq_of_div divided
  constructor
  · intro same
    -- a single label that is read as a temperature would show in the exponent of temperature
    have dimension : s.dimension.div t.dimension = a.dimension.div b.dimension :=
      congrArg Scale.dimension (same.trans quotient)
    have temperature : s.dimension.temperature - t.dimension.temperature =
        a.dimension.temperature - b.dimension.temperature :=
      congrArg Dimension.temperature dimension
    rcases ownA with ⟨plainA, sameA⟩ | ⟨needsA, coldA, warmA⟩
    · rcases ownB with ⟨plainB, -⟩ | ⟨-, coldB, warmB⟩
      · exact ⟨alike, iff_of_false plainA plainB, fun needs => absurd needs plainA⟩
      · rw [(Scale.dropOffset_eq_iff.1 sameA).1, warmB, coldB] at temperature
        exact absurd temperature (by simp [Dimension.ofTemperature, Quantity.dimension])
    · rcases ownB with ⟨-, sameB⟩ | ⟨needsB, -, warmB⟩
      · rw [(Scale.dropOffset_eq_iff.1 sameB).1, warmA, coldA] at temperature
        exact absurd temperature (by simp [Dimension.ofTemperature, Quantity.dimension])
      · rw [warmA, warmB, Dimension.div_self] at dimension
        exact ⟨alike, iff_of_true needsA needsB,
          fun _ => Dimension.eq_of_div_eq_one dimension.symm⟩
  · rintro ⟨-, hints, same⟩
    rcases ownA with ⟨plainA, sameA⟩ | ⟨needsA, -⟩
    · rcases ownB with ⟨-, sameB⟩ | ⟨needsB, -⟩
      · rw [sameA, sameB, divided] at read
        exact (Except.ok.inj read).symm
      · exact absurd (hints.2 needsB) plainA
    · -- both labels are the same symbol, so they are read as the same unit, hint or no hint,
      -- and both quotients are one
      have dimension := same needsA
      have symbol := needsA.unit_eq (hints.1 needsA) dimension
      have shown := displayed_iff.1 ha
      rw [symbol, dimension, displayed_iff.1 hb, Except.ok.injEq] at shown
      rw [symbol, readB, Except.ok.injEq] at readA
      subst readA
      rw [Scale.dropOffset_div, Scale.div_self nonzero] at read
      rw [← shown, Scale.div_self nonzero'] at divided
      exact Except.ok.inj (read.symm.trans divided)

theorem displayed_div_iff (ha : a.Displayed standard) (hb : b.Displayed standard)
    (scaledA : ¬ a.isScalar = true) (scaledB : ¬ b.isScalar = true)
    (divided : a.div (.quantity b) = .ok r) (alike : Label.ScansAlike b.label)
    (limits : WithinLimits (Symbol.normalize r.label)) :
    r.Displayed standard ↔ a.Divides b := by
  rcases div_cases divided with ⟨scalarB, -⟩ | ⟨scalarA, -⟩ | ⟨-, -, x, scale, quotient, rfl⟩
  · exact absurd scalarB scaledB
  · exact absurd scalarA scaledA
  dsimp only at limits
  have same : a.scale.dropOffset.div b.scale.dropOffset = .ok scale.dropOffset := by
    rw [Scale.dropOffset_div, quotient, Scale.dropOffset_of_div quotient]
  exact displayed_quotient_iff ha hb (hb.isUnity_eq_false scaledB) alike same limits

/-- The reciprocal of a displayed quantity whose label needs no hint. -/
theorem Displayed.divInto {n : Rat} (hb : b.Displayed standard) (h : b.divInto n = .ok r)
    (alike : Label.ScansAlike b.label) (own : ¬ b.NeedsHint)
    (limits : WithinLimits (Symbol.normalize r.label)) : r.Displayed standard := by
  cases unity : Label.isUnity b.label with
  | true =>
    have normal := hasNormalLabel_of_isUnity unity
    refine ((hb.faithful own).divInto normal h ?_).displayed consistent_standard
    obtain ⟨x, scale, -, rfl⟩ := divInto_cases h
    have label : Label.quotient "" b.label = "" := by
      simp only [Label.quotient, isUnity_strip, unity]
      rfl
    dsimp only
    rw [label]
    exact withinLimits_of_length_le (by decide)
  | false =>
    obtain ⟨x, scale, inverse, rfl⟩ := divInto_cases h
    dsimp only at limits
    -- a number is divided as a quantity without a label
    have number : Displayed standard (Amount.lift (.number n)) :=
      Faithful.displayed consistent_standard ⟨Scale.one, Label.unit_empty standard, rfl, rfl⟩
    have plain : ¬ NeedsHint (Amount.lift (.number n)) := not_needsHint_of_isUnity rfl
    refine (displayed_quotient_iff (a := Amount.lift (.number n)) number hb unity alike
      (Scale.one_div_of_inverse inverse) limits).2 ?_
    exact ⟨alike, iff_of_false plain own, (absurd · plain)⟩

/-! ## Runs -/

/-- The quantities that are written in units of the standard catalog, and those that conversion,
renaming, multiplication and division lead to from there; composed labels keep to the limits of unit
texts, and no operand of a composed label has lost its hint. -/
inductive Reached : Quantity → Prop
  | inUnit {q : Quantity} {x : Rat} {text : String}
      (written : Quantity.inUnit standard x text = .ok q) : Reached q
  | convert {q r : Quantity} {target : String} (h : Reached q)
      (converted : q.convert standard target = .ok r) : Reached r
  | simplify {q : Quantity} (h : Reached q) :
      Reached ((Simplifier.ofCatalog standard).simplify q)
  | mul_number {q : Quantity} (h : Reached q) (n : Rat) : Reached (q.mul (.number n))
  | div_number {q r : Quantity} {n : Rat} (h : Reached q) (divided : q.div (.number n) = .ok r) :
      Reached r
  | divInto {q r : Quantity} {n : Rat} (h : Reached q) (divided : q.divInto n = .ok r)
      (alike : Label.ScansAlike q.label) (own : ¬ q.NeedsHint)
      (limits : WithinLimits (Symbol.normalize r.label)) : Reached r
  | mul {a b : Quantity} (ha : Reached a) (hb : Reached b)
      (fits : ¬ a.isScalar = true → ¬ b.isScalar = true → (¬ a.NeedsHint ∧ ¬ b.NeedsHint) ∧
        WithinLimits (Symbol.normalize (a.mul (.quantity b)).label)) :
      Reached (a.mul (.quantity b))
  | div {a b r : Quantity} (ha : Reached a) (hb : Reached b)
      (divided : a.div (.quantity b) = .ok r)
      (fits : ¬ b.isScalar = true → a.Divides b ∧ WithinLimits (Symbol.normalize r.label)) :
      Reached r

/-- One lemma for each step: what every run keeps. -/
theorem Reached.displayed (h : Reached q) : q.Displayed standard := by
  induction h with
  | inUnit written =>
    obtain ⟨s, read, rfl⟩ := map_eq_ok_iff.1 written
    exact Faithful.displayed consistent_standard ⟨s, read, rfl, rfl⟩
  | convert h converted ih => exact displayed_of_convert converted
  | simplify h ih => exact ih.simplify
  | mul_number h n ih => exact ih.withValue _
  | div_number h divided ih =>
    obtain ⟨x, rfl⟩ := div_number_cases divided
    exact ih.withValue x
  | divInto h divided alike own limits ih => exact ih.divInto divided alike own limits
  | @mul a b ha hb fits ihA ihB =>
    rcases mul_cases a b with ⟨-, x, same⟩ | ⟨-, x, same⟩ | ⟨scaledA, scaledB, -⟩
    · exact same ▸ ihA.withValue x
    · exact same ▸ ihB.withValue x
    · obtain ⟨plain, limits⟩ := fits scaledA scaledB
      exact (displayed_mul_iff ihA ihB scaledA scaledB limits).2 plain
  | @div a b r ha hb divided fits ihA ihB =>
    rcases div_cases divided with ⟨-, x, rfl⟩ | ⟨scalarA, scaledB, reciprocal⟩ |
      ⟨scaledA, scaledB, -⟩
    · exact ihA.withValue x
    · obtain ⟨fits, limits⟩ := fits scaledB
      have plain : ¬ a.NeedsHint :=
        not_needsHint_of_isUnity (isScalar_iff.1 scalarA).2
      exact ihB.divInto reciprocal fits.alike (plain ∘ fits.hints.2) limits
    · obtain ⟨fits, limits⟩ := fits scaledB
      exact (displayed_div_iff ihA ihB scaledA scaledB divided fits.alike limits).2 fits

/-- Along every run of conversions, renamings, products and quotients in the standard catalog, the
label of a quantity, read with its own dimension as a hint, has the dimension and the factor of its
unit. What is asked of the operands of products and quotients is needed: where a composed label
keeps to the limits, a product is labelled truly only if neither operand needs its hint, and a
quotient only if a hint of the divisor makes up for one of the dividend. -/
theorem displayed_of_reached (ha : Reached a) :
    a.Displayed standard ∧
      ∀ b, Reached b → ¬ a.isScalar = true → ¬ b.isScalar = true →
        (WithinLimits (Symbol.normalize (a.mul (.quantity b)).label) →
          ((a.mul (.quantity b)).Displayed standard ↔ ¬ a.NeedsHint ∧ ¬ b.NeedsHint)) ∧
        ∀ r, a.div (.quantity b) = .ok r → Label.ScansAlike b.label →
          WithinLimits (Symbol.normalize r.label) →
          (r.Displayed standard ↔ a.Divides b) := by
  refine ⟨ha.displayed, fun b hb scaledA scaledB => ⟨fun limits => ?_, ?_⟩⟩
  · exact displayed_mul_iff ha.displayed hb.displayed scaledA scaledB limits
  · intro r divided alike limits
    exact displayed_div_iff ha.displayed hb.displayed scaledA scaledB divided alike limits

theorem not_isScalar {x : Rat} {scale : Scale} {label : String}
    (h : scale.dimension ≠ Dimension.one) : ¬ isScalar ⟨x, scale, label⟩ = true := by
  intro scalar
  simp only [isScalar, isDimensionless, Scale.isDimensionless, Bool.and_eq_true,
    decide_eq_true_eq] at scalar
  exact h scalar.1.1

/-- One ampere second in coulombs, and one second. -/
theorem exists_coulomb : ∃ u v w, inUnit standard 1 "A*s" = .ok ⟨1, u, "A*s"⟩ ∧
    convert standard "C" ⟨1, u, "A*s"⟩ = .ok ⟨1, v, "C"⟩ ∧ NeedsHint ⟨1, v, "C"⟩ ∧
    ¬ isScalar ⟨1, v, "C"⟩ = true ∧ inUnit standard 1 "s" = .ok ⟨1, w, "s"⟩ ∧
    ¬ isScalar ⟨1, w, "s"⟩ = true := by
  obtain ⟨u, readU, dimension, factor, offset⟩ := standard_unit_ampere_second
  obtain ⟨w, readW, time, -⟩ := unit_of_listing (l := second) (by simp) (by decide)
  obtain ⟨r, found, listing⟩ := standard_coulomb
  have charged : r.entry.scale.dimension = Dimension.charge := congrArg Listing.dimension listing
  have one : r.entry.scale.factor = 1 := congrArg Listing.factor listing
  have plain : r.entry.scale.offset = 0 := congrArg Listing.offset listing
  have spelled : UnitExpr.ofText "C" = .ok (.name "C") := by decide
  have hinted : standard.unit "C" (some u.dimension) = .ok r.entry.scale := by
    rw [dimension, unit_of_name spelled]
    exact named_of_binding found
  have same : r.entry.scale.dimension = u.dimension := charged.trans dimension.symm
  have value : Scale.convert u r.entry.scale 1 = .ok 1 := by
    rw [Scale.convert_eq same.symm (by rw [one]; decide), factor, offset, one, plain]
    norm_num
  refine ⟨u, r.entry.scale, w, inUnit_of_unit readU 1, ?_, ?_, ?_, inUnit_of_unit readW 1, ?_⟩
  · exact convert_eq_ok_iff.2 ⟨_, 1, hinted, same, value, rfl⟩
  · exact ⟨"C", spelled, .inl ⟨by decide, charged⟩⟩
  · exact not_isScalar (by rw [charged]; decide)
  · exact not_isScalar (by rw [time]; decide)

/-- Coulombs from a conversion are displayed, and so is their quotient by themselves. -/
theorem displayed_coulomb : ∃ v w, Reached ⟨1, v, "C"⟩ ∧ Displayed standard ⟨1, v, "C"⟩ ∧
    div ⟨1, v, "C"⟩ (.quantity ⟨1, v, "C"⟩) = .ok ⟨1, w, "C/C"⟩ ∧
    Displayed standard ⟨1, w, "C/C"⟩ := by
  obtain ⟨u, v, -, written, converted, -, scaled, -⟩ := exists_coulomb
  have reached : Reached ⟨1, v, "C"⟩ := (Reached.inUnit written).convert converted
  obtain ⟨shown, composed⟩ := displayed_of_reached reached
  obtain ⟨w, quotient⟩ : ∃ w, v.div v = .ok w := by
    obtain ⟨s, read, -, factor⟩ := shown
    exact ⟨_, Scale.div_self (factor ▸ (factor_pos_of_unit read).ne')⟩
  have divided : div ⟨1, v, "C"⟩ (.quantity ⟨1, v, "C"⟩) = .ok ⟨1, w, "C/C"⟩ := by
    have label : Label.quotient "C" "C" = "C/C" := by decide
    simp only [div, if_neg scaled, quotient, label, Except.map]
    norm_num
  have alike : Label.ScansAlike "C" := Label.scansAlike_of_dotless (by decide)
  have limits : WithinLimits (Symbol.normalize "C/C") := withinLimits_of_length_le (by decide)
  refine ⟨v, w, reached, shown, divided, ?_⟩
  exact ((composed _ reached scaled scaled).2 _ divided alike limits).2
    ⟨alike, Iff.rfl, fun _ => rfl⟩

/-- A coulomb that was an ampere second, times a second, is labelled as a temperature times a
time. -/
theorem not_displayed_coulomb_second :
    ¬ ∀ (x y : Rat) (text target text' : String) (a q b : Quantity),
      inUnit standard x text = .ok a → a.convert standard target = .ok q →
      inUnit standard y text' = .ok b →
      WithinLimits (Symbol.normalize (q.mul (.quantity b)).label) →
      (q.mul (.quantity b)).Displayed standard := by
  intro always
  obtain ⟨u, v, w, writtenU, converted, needs, scaledV, writtenW, scaledW⟩ := exists_coulomb
  have short : WithinLimits (Symbol.normalize (Label.product "C" "s")) :=
    withinLimits_of_length_le (by decide)
  have limits :
      WithinLimits (Symbol.normalize (mul ⟨1, v, "C"⟩ (.quantity ⟨1, w, "s"⟩)).label) := by
    rw [mul, if_neg scaledW, if_neg scaledV]
    dsimp only
    exact short
  have shown := always _ _ _ _ _ _ _ _ writtenU converted writtenW limits
  have second : Displayed standard ⟨1, w, "s"⟩ := (Reached.inUnit writtenW).displayed
  exact ((displayed_mul_iff (displayed_of_convert converted) second scaledV scaledW limits).1
    shown).1 needs

end Quantity

end Metrology
