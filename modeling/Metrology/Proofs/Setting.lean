import Metrology.Proofs.Catalog.Homonyms
import Metrology.Proofs.Label.Coherent
import Metrology.Proofs.Quantity.Conversion
import Metrology.Setting

/-!
# Normal forms of quantities

In the standard catalog, the label that a dimension is shown under names a unit of this dimension
(`unit_preferredLabel`), with and without a hint (`unit_label_of_normalize`), so that the normal form
of a quantity is a function of its dimension and SI value (`exists_target`). It follows that
conversions, the base form and renaming leave no trace in it.
-/

namespace Metrology

open Catalog

/-! ## The standard catalog -/

namespace Catalog

theorem hasDerivedNames_standard : standard.HasDerivedNames := fun _ listed =>
  isName_of_derivedRecords listed

/-- The first listing to claim the symbol of a base unit is this unit. -/
theorem base_claims : ∀ p ∈ baseDimensions,
    (standardListings.find? fun l => Symbol.normalize p.1 ∈ l.keys).any (fun l =>
      l.symbol = p.1 ∧ l.dimension = p.2 ∧ l.factor = 1 ∧ l.offset = 0) = true := by
  have unchanged : ∀ p ∈ baseDimensions, Symbol.isUnchanged p.1.toList = true := by decide
  have first : ∀ p ∈ baseDimensions,
      (standardListings.find? fun l => p.1 ∈ l.symbol :: l.aliases).any (fun l =>
        l.symbol = p.1 ∧ l.dimension = p.2 ∧ l.factor = 1 ∧ l.offset = 0) = true := by
    decide +kernel
  intro p mem
  rw [find?_key (Symbol.normalize_of_isUnchanged (unchanged p mem))]
  exact first p mem

theorem hasBaseUnits_standard : standard.HasBaseUnits := by
  rintro ⟨base, d⟩ mem
  obtain ⟨l, first, same⟩ := (Option.any_eq_true _ _).1 (base_claims _ mem)
  obtain ⟨rfl, rfl, factor, offset⟩ := of_decide_eq_true same
  obtain ⟨e, valid⟩ := valid_of_mem (List.mem_of_find?_eq_some first)
  obtain ⟨r, found, rfl⟩ := Builder.symbols_of_find? valid first
  exact ⟨r, found, Scale.eq_of_parts rfl factor offset⟩

/-- A dimension for which the standard catalog lists no derived unit is shown in base units. -/
theorem siLabel_of_underived {d : Dimension}
    (underived : ∀ l ∈ standardListings, l.derived = true → l.dimension ≠ d) :
    (Simplifier.ofCatalog standard).siLabel d = Label.ofDimension d := by
  rcases Simplifier.siLabel_cases standard d with composed | ⟨r, mem, scale, -, -⟩
  · exact composed
  · obtain ⟨listed, derived⟩ := List.mem_filter.1 mem
    have built : r ∈ (Builder.catalogOf standardListings).records := listed
    have dimension : r.entry.dimension = d := congrArg Scale.dimension scale
    exact absurd dimension (underived _ (Builder.owns_symbol_of_mem built).2 derived)

/-- The imperial units, but the square foot, are listed under single names, and no unit of the same
dimension in front of them claims these. -/
theorem imperial_claims : ∀ p ∈ imperialUnits, p = (.area, "ft^2") ∨
    UnitExpr.ofText p.2 = .ok (.name p.2) ∧
      (standardListings.find? fun l => l.dimension = p.1 ∧ Symbol.normalize p.2 ∈ l.keys).any
        (fun l => l.symbol = p.2) = true := by
  have unchanged : ∀ p ∈ imperialUnits, Symbol.isUnchanged p.2.toList = true := by decide
  have first : ∀ p ∈ imperialUnits, p = (.area, "ft^2") ∨
      UnitExpr.isName p.2.toList = true ∧
        (standardListings.find? fun l => l.dimension = p.1 ∧ p.2 ∈ l.symbol :: l.aliases).any
          (fun l => l.symbol = p.2) = true := by
    decide +kernel
  intro p mem
  have normal := Symbol.normalize_of_isUnchanged (unchanged p mem)
  refine (first p mem).imp_right ?_
  rintro ⟨single, listed⟩
  refine ⟨?_, ?_⟩
  · rw [← normal] at single
    exact (UnitExpr.ofText_of_isName single).trans (by rw [normal])
  · rw [find?_key_of_dimension normal]
    exact listed

theorem unit_of_imperial_name {d : Dimension} {text : String} (mem : (d, text) ∈ imperialUnits)
    (single : (d, text) ≠ (.area, "ft^2")) :
    ∃ r, standard.bindings.lookup (d, Symbol.normalize text) = some r ∧
      standard.unit text (some d) = .ok r.entry.scale ∧ r.entry.dimension = d := by
  obtain ⟨read, first⟩ := (imperial_claims _ mem).resolve_left single
  obtain ⟨l, first, symbol⟩ := (Option.any_eq_true _ _).1 first
  dsimp only at read first symbol
  have claimed := List.find?_some first
  obtain ⟨rfl, -⟩ := of_decide_eq_true claimed
  obtain rfl := of_decide_eq_true symbol
  obtain ⟨e, valid⟩ := valid_of_mem (List.mem_of_find?_eq_some first)
  obtain ⟨r, found, listing⟩ := Builder.bindings_of_find? valid first
  refine ⟨r, found, ?_, consistent_standard.housed found⟩
  rw [unit_of_name read]
  exact named_of_binding found

/-- The foot is read alike with and without a hint. -/
theorem named_foot : ∃ s, standard.named "ft" = .ok s ∧ s.dimension = .ofLength := by
  have listed : (Dimension.ofLength, "ft") ∈ imperialUnits := by simp [imperialUnits]
  obtain ⟨r, found, -, dimension⟩ := unit_of_imperial_name listed (by simp)
  refine ⟨r.entry.scale, ?_, dimension⟩
  rcases named_hint_cases consistent_standard "ft" .ofLength with same | ⟨r', r'', shadows⟩
  · rw [← same]
    exact named_of_binding found
  · -- only a charge and a capacitance are hidden behind other units
    rcases (cases_of_shadows shadows).2 with ⟨-, charge⟩ | ⟨-, capacitance⟩
    · exact absurd charge (by decide)
    · exact absurd capacitance (by decide)

theorem unit_square_foot :
    ∃ s, standard.unit "ft^2" (some .area) = .ok s ∧ s.dimension = .area := by
  -- the hint is for the whole text, so the foot in it is read without one
  obtain ⟨s, foot, dimension⟩ := named_foot
  have spelled : UnitExpr.ofText "ft^2" = .ok (.pow (.name "ft") 2) := by decide
  have base : standard.scaleOf (.name "ft") = .ok s.dropOffset := by
    rw [scaleOf, foot]
    rfl
  have squared : s.dropOffset.pow 2 =
      .ok (.linear (.ofLength ^ (2 : Int)) (s.factor ^ (2 : Int))) := by
    rw [Scale.dropOffset, dimension]
    exact Scale.linear_pow (n := 2) (factor_pos_of_named foot).ne' (by decide) (by decide)
  refine ⟨.linear .area (s.factor ^ (2 : Int)), ?_, rfl⟩
  rw [unit_of_expr spelled]
  dsimp only
  rw [scaleOf, base]
  exact squared

/-- The imperial unit of a dimension is a unit of this dimension. -/
theorem unit_of_imperial {d : Dimension} {text : String}
    (found : imperialUnits.lookup d = some text) :
    ∃ s, standard.unit text (some d) = .ok s ∧ s.dimension = d := by
  by_cases square : (d, text) = (.area, "ft^2")
  · cases square
    exact unit_square_foot
  · obtain ⟨front, back, rows, -⟩ := List.lookup_eq_some_iff.1 found
    have mem : (d, text) ∈ imperialUnits := rows ▸ List.mem_append_right _ List.mem_cons_self
    obtain ⟨r, -, read, dimension⟩ := unit_of_imperial_name mem square
    exact ⟨r.entry.scale, read, dimension⟩

end Catalog

/-! ## Normal forms -/

namespace Setting

variable {s : Setting} {d : Dimension} {q n : Quantity}

/-- The label that a dimension is shown under, read with the dimension as a hint, names a unit of
it. -/
theorem unit_preferredLabel (usual : s.catalog = standard) (small : d.maxExponent ≤ exponentLimit) :
    ∃ target, s.catalog.unit (s.preferredLabel d) (some d) = .ok target ∧ target.dimension = d := by
  rw [usual]
  have coherent := unit_hint_self consistent_standard
    (Simplifier.unit_siLabel hasBaseUnits_standard hasDerivedNames_standard small)
  rw [Scale.dimension_linear] at coherent
  unfold preferredLabel
  rw [usual]
  cases s.policy with
  | si =>
    dsimp only
    exact ⟨_, coherent, rfl⟩
  | imperial =>
    dsimp only
    cases found : imperialUnits.lookup d with
    | none =>
      rw [Option.getD_none]
      exact ⟨_, coherent, rfl⟩
    | some text => exact unit_of_imperial found

/-- Every quantity of a dimension is brought to one scale, under one label. -/
theorem exists_target (usual : s.catalog = standard) (small : d.maxExponent ≤ exponentLimit) :
    ∃ target : Scale, target.factor ≠ 0 ∧ target.dimension = d ∧
      ∀ q : Quantity, q.dimension = d →
        s.normalize q =
          .ok ⟨q.siValue / target.factor - target.offset, target, s.preferredLabel d⟩ := by
  obtain ⟨target, read, dimension⟩ := unit_preferredLabel usual small
  have nonzero : target.factor ≠ 0 := (factor_pos_of_unit read).ne'
  refine ⟨target, nonzero, dimension, ?_⟩
  rintro q rfl
  unfold normalize
  dsimp only
  split
  · next bare =>
    -- a pure number is not converted, but its target is one all the same
    rw [bare, Label.unit_empty _ _] at read
    cases read
    rw [bare]
    simp [Scale.one]
  · refine Quantity.convert_eq_ok_iff.2 ⟨target, _, read, dimension, ?_, rfl⟩
    exact Scale.convert_eq dimension.symm nonzero q.value

/-- Pure numbers are shown without a label. -/
theorem preferredLabel_one (usual : s.catalog = standard) : s.preferredLabel Dimension.one = "" := by
  have coherent : (Simplifier.ofCatalog standard).siLabel Dimension.one = "" :=
    siLabel_of_underived (by decide +kernel)
  unfold preferredLabel
  rw [usual, coherent]
  cases s.policy with
  | si => rfl
  | imperial => decide

/-- A normal form exists, and it is the quantity itself in another unit. -/
theorem exists_normalize (usual : s.catalog = standard)
    (small : q.dimension.maxExponent ≤ exponentLimit) :
    ∃ n, s.normalize q = .ok n ∧ n.dimension = q.dimension ∧ n.siValue = q.siValue := by
  obtain ⟨target, nonzero, dimension, normal⟩ := exists_target usual small
  refine ⟨_, normal q rfl, dimension, ?_⟩
  rw [Quantity.siValue, Scale.toSI, sub_add_cancel, div_mul_cancel₀ _ nonzero]

/-- The label of a normal form names its unit behind the dimension as a hint. -/
theorem unit_hint_of_normalize (normal : s.normalize q = .ok n) :
    n.label = s.preferredLabel q.dimension ∧
      s.catalog.unit n.label (some q.dimension) = .ok n.scale := by
  unfold normalize at normal
  dsimp only at normal
  split at normal
  · next bare =>
    cases normal
    exact ⟨bare.symm, Label.unit_empty _ _⟩
  · obtain ⟨t, x, read, -, -, rfl⟩ := Quantity.convert_eq_ok_iff.1 normal
    exact ⟨rfl, read⟩

/-- The label of a normal form names its unit also without a hint. -/
theorem unit_label_of_normalize (usual : s.catalog = standard)
    (small : q.dimension.maxExponent ≤ exponentLimit) (normal : s.normalize q = .ok n) :
    s.catalog.unit n.label = .ok n.scale := by
  obtain ⟨label, read⟩ := unit_hint_of_normalize normal
  rw [usual] at read ⊢
  rcases unit_hint_cases consistent_standard n.label q.dimension with
    same | ⟨name, r, r', -, shadows, -, own⟩
  · rw [← same, read]
  · -- only a charge and a capacitance are hidden behind other units, and they are shown in SI units
    have unlisted : imperialUnits.lookup q.dimension = none := by
      rcases (cases_of_shadows shadows).2 with ⟨-, charge⟩ | ⟨-, capacitance⟩
      · rw [charge]
        decide
      · rw [capacitance]
        decide
    have coherent : n.label = (Simplifier.ofCatalog standard).siLabel q.dimension := by
      rw [label, preferredLabel, usual, unlisted]
      cases s.policy with
      | si => rfl
      | imperial => rw [Option.getD_none]
    rw [coherent, Simplifier.unit_siLabel hasBaseUnits_standard hasDerivedNames_standard small] at own
    have dimension := congrArg Scale.dimension (Except.ok.inj own)
    exact absurd dimension.symm shadows.2.2

/-- In the standard catalog, under every policy and with every precision, quantities have a normal
form that depends on their dimension and SI value alone. It keeps both, it is labelled as the policy
prefers, and it is its own normal form. Conversions in any catalog, the base form and renaming with
derived units change nothing about it. -/
theorem normalize_canonical (usual : s.catalog = standard) (q : Quantity)
    (small : q.dimension.maxExponent ≤ exponentLimit) :
    ∃ n, s.normalize q = .ok n ∧ n.dimension = q.dimension ∧ n.siValue = q.siValue ∧
      n.label = s.preferredLabel q.dimension ∧
      (∀ p : Quantity, p.dimension = q.dimension → p.siValue = q.siValue →
        s.normalize p = .ok n) ∧
      s.normalize n = .ok n ∧
      (∀ c text r, q.convert c text = .ok r → s.normalize r = .ok n) ∧
      s.normalize q.toBase = .ok n ∧
      ∀ c, s.normalize ((Simplifier.ofCatalog c).simplify q) = .ok n := by
  obtain ⟨target, nonzero, dimension, normal⟩ := exists_target usual small
  -- all quantities that agree in dimension and SI value have the normal form of `q`
  have alike : ∀ p : Quantity, p.dimension = q.dimension → p.siValue = q.siValue →
      s.normalize p = .ok ⟨q.siValue / target.factor - target.offset, target,
        s.preferredLabel q.dimension⟩ := by
    intro p same value
    rw [normal p same, value]
  have kept : target.toSI (q.siValue / target.factor - target.offset) = q.siValue := by
    rw [Scale.toSI, sub_add_cancel, div_mul_cancel₀ _ nonzero]
  refine ⟨_, normal q rfl, dimension, kept, rfl, alike, alike _ dimension kept, ?_, ?_, ?_⟩
  · intro c text r converted
    obtain ⟨same, value, -⟩ := Quantity.convert_of_convert converted
    exact alike r same value
  · refine alike q.toBase rfl ?_
    simp [Quantity.toBase, Quantity.siValue, Scale.toSI]
  · intro c
    obtain ⟨label, renamed⟩ := Simplifier.exists_label_of_simplify (c := c) q
    rw [renamed]
    exact alike { q with label } rfl rfl

/-- Three newtons, written as grams times metres per square second, have the same normal form in
imperial units. -/
theorem normalize_three_newtons :
    let s : Setting := { policy := .imperial, precision := 4 }
    let q : Quantity := ⟨3, .linear .force, "N"⟩
    ∃ n, s.normalize q = .ok n ∧ n.label = "lbf" ∧ n.siValue = 3 ∧ s.normalize n = .ok n ∧
      s.normalize ⟨3000, .linear .force (1 / 1000), "g*m/s^2"⟩ = .ok n := by
  intro s q
  have pounds : imperialUnits.lookup Dimension.force = some "lbf" := by decide
  have label : s.preferredLabel q.dimension = "lbf" := by
    simp only [preferredLabel, s, q, Quantity.dimension, Scale.dimension_linear, pounds,
      Option.getD_some]
  have value : q.siValue = 3 := by decide +kernel
  obtain ⟨n, normal, -, kept, labelled, alike, again, -⟩ :=
    normalize_canonical (s := s) rfl q (by decide)
  exact ⟨n, normal, labelled.trans label, kept.trans value, again, alike _ rfl (by decide +kernel)⟩

end Setting

end Metrology
