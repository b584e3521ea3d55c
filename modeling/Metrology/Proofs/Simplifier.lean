import Metrology.Proofs.Catalog.FailedRegistration
import Metrology.Proofs.Catalog.Homonyms
import Metrology.Proofs.Catalog.Ownership
import Metrology.Proofs.Catalog.Units
import Metrology.Proofs.Symbol.Normal
import Metrology.Proofs.UnitExpr.SingleName
import Metrology.Catalog.Standard
import Metrology.Simplifier

/-!
# Renaming with derived units

Renaming changes the label of a quantity alone, and the label that it puts is the symbol of the
first derived unit of exactly the scale of the quantity, found by searching the units in the order of
their registration (`simplify_eq`, `named?_eq_scan`); behind the dimension as a hint, the symbol finds
this unit (`simplify_of_reachable`). In the standard catalog it also names the unit in a unit text
(`unit_of_derived`). The label of a coherent unit is such a symbol only where no hint is needed for it
(`siLabel_cases`).
-/

namespace Metrology

open Catalog

namespace Simplifier

variable {c : Catalog}

/-- A derived unit that measures from zero and has exactly the dimension and the factor of the
scale. -/
def Names (scale : Scale) (r : Record) : Prop :=
  r.entry.derived = true ∧ r.entry.offset = 0 ∧ key r = (scale.dimension, scale.factor)

instance (scale : Scale) : DecidablePred (Names scale) := fun r =>
  inferInstanceAs (Decidable (r.entry.derived = true ∧ r.entry.offset = 0 ∧
    key r = (scale.dimension, scale.factor)))

/-- The first unit that is listed under the scale. A scale with an offset has no other name. -/
def scan (c : Catalog) (scale : Scale) : Option Record :=
  if scale.hasOffset then none else c.records.find? (Names scale ·)

theorem scan_eq_none {scale : Scale}
    (unnamed : scale.hasOffset = true ∨ ∀ r ∈ c.records, ¬ Names scale r) : scan c scale = none := by
  unfold scan
  split
  · rfl
  · next linear =>
    apply List.find?_eq_none.2
    intro r mem named
    exact (unnamed.resolve_left linear) r mem (of_decide_eq_true named)

theorem scan_eq_some {scale : Scale} {front back : List Record} {r : Record}
    (linear : scale.hasOffset = false) (listed : c.records = front ++ r :: back)
    (named : Names scale r) (first : ∀ r' ∈ front, ¬ Names scale r') : scan c scale = some r := by
  unfold scan
  rw [linear, if_neg Bool.false_ne_true]
  apply List.find?_eq_some_iff_append.2
  refine ⟨decide_eq_true named, front, back, listed, ?_⟩
  intro r' mem
  rw [decide_eq_false (first r' mem)]
  rfl

/-! ## The table -/

/-- A unit is entered if it measures from zero and its key is still free. -/
theorem lookup_enter (table : List ((Dimension × Rat) × Record)) (r : Record)
    (k : Dimension × Rat) :
    (enter table r).lookup k =
      (table.lookup k).or (if r.entry.offset = 0 ∧ key r = k then some r else none) := by
  unfold enter
  split
  · next linear =>
    rw [lookup_addIfAbsent]
    by_cases same : k = key r
    · simp [linear, same]
    · simp [same, Ne.symm same]
  · next shifted => rw [if_neg fun found => shifted found.1, Option.or_none]

/-- Entering units one after the other finds, for each key, the first of them. -/
theorem lookup_foldl_enter (records : List Record) (table : List ((Dimension × Rat) × Record))
    (k : Dimension × Rat) :
    (records.foldl enter table).lookup k =
      (table.lookup k).or (records.find? fun r => r.entry.offset = 0 ∧ key r = k) := by
  induction records generalizing table with
  | nil => rw [List.foldl_nil, List.find?_nil, Option.or_none]
  | cons r records ih =>
    rw [List.foldl_cons, ih, lookup_enter, Option.or_assoc]
    by_cases fits : r.entry.offset = 0 ∧ key r = k
    · rw [if_pos fits, Option.some_or]
      simp [fits]
    · rw [if_neg fits, Option.none_or]
      simp [fits]

/-- The table holds, for each key, the first derived unit of the catalog that measures from zero. -/
theorem lookup_table (c : Catalog) (k : Dimension × Rat) :
    (ofCatalog c).table.lookup k =
      c.derivedRecords.find? fun r => r.entry.offset = 0 ∧ key r = k :=
  lookup_foldl_enter c.derivedRecords [] k

/-- Looking up a scale in the table is searching the units in the order of their registration. -/
theorem named?_eq_scan (c : Catalog) (scale : Scale) :
    (ofCatalog c).named? scale = scan c scale := by
  unfold named? scan
  split
  · rfl
  · rw [lookup_table, derivedRecords, List.find?_filter]
    congr 1
    funext r
    rw [Bool.eq_iff_iff, decide_eq_true_iff (p := Names scale r)]
    simp [Names]

theorem mem_of_table {k : Dimension × Rat} {r : Record}
    (h : (ofCatalog c).table.lookup k = some r) :
    r ∈ c.derivedRecords ∧ r.entry.scale = Scale.linear k.1 k.2 := by
  rw [lookup_table] at h
  have fits := List.find?_some h
  rw [decide_eq_true_eq] at fits
  obtain ⟨linear, rfl⟩ := fits
  exact ⟨List.mem_of_find?_eq_some h, Scale.eq_of_parts rfl rfl linear⟩

/-- The unit that a scale is renamed to is a listed one of exactly this scale. -/
theorem mem_of_named? {scale : Scale} {r : Record} (h : (ofCatalog c).named? scale = some r) :
    r ∈ c.derivedRecords ∧ r.entry.scale = scale := by
  unfold named? at h
  split at h
  · cases h
  · next linear =>
    obtain ⟨mem, same⟩ := mem_of_table h
    have offset : scale.offset = 0 := by simpa [Scale.hasOffset] using linear
    exact ⟨mem, same.trans (Scale.eq_of_parts rfl rfl offset.symm)⟩

/-! ## Renaming -/

/-- Renaming changes the label alone, to the symbol of the unit that is found for the scale. -/
theorem simplify_eq (c : Catalog) (q : Quantity) :
    (ofCatalog c).simplify q =
      { q with label := ((scan c q.scale).map (·.entry.symbol)).getD q.label } := by
  unfold simplify
  rw [← named?_eq_scan]
  cases named : (ofCatalog c).named? q.scale with
  | none => rfl
  | some r =>
    dsimp only [Option.map_some, Option.getD_some]
    split
    · next shown => rw [← shown]
    · rw [(mem_of_named? named).2]

/-- A quantity is renamed to a derived unit of its own scale, or it stays as it is. -/
theorem simplify_cases (q : Quantity) :
    (ofCatalog c).simplify q = q ∨
      ∃ r ∈ c.derivedRecords, r.entry.scale = q.scale ∧
        (ofCatalog c).simplify q = ⟨q.value, r.entry.scale, r.entry.symbol⟩ := by
  rw [simplify_eq]
  cases found : scan c q.scale with
  | none => exact .inl rfl
  | some r =>
    obtain ⟨mem, same⟩ := mem_of_named? ((named?_eq_scan c q.scale).trans found)
    exact .inr ⟨r, mem, same, by rw [same]; rfl⟩

/-- A quantity that was renamed is not renamed again. -/
theorem simplify_simplify (c : Catalog) (q : Quantity) :
    (ofCatalog c).simplify ((ofCatalog c).simplify q) = (ofCatalog c).simplify q := by
  rw [simplify_eq c q, simplify_eq]
  -- the scale is what it was, and so is the unit that is found for it
  dsimp only
  cases scan c q.scale with
  | none => rfl
  | some r => rfl

/-- Renaming changes the label alone. -/
theorem exists_label_of_simplify (q : Quantity) :
    ∃ label, (ofCatalog c).simplify q = { q with label } :=
  ⟨_, simplify_eq c q⟩

/-- The label of a coherent unit is composed of base units, or it is the symbol of a derived unit of
exactly this scale, which the symbol means without a hint. -/
theorem siLabel_cases (c : Catalog) (d : Dimension) :
    (ofCatalog c).siLabel d = Label.ofDimension d ∨
      ∃ r ∈ c.derivedRecords, r.entry.scale = Scale.linear d ∧
        c.get? r.entry.symbol = some r ∧ (ofCatalog c).siLabel d = r.entry.symbol := by
  unfold siLabel
  split
  · next r found =>
    split
    · next owner owned =>
      split
      · next same =>
        -- the symbol belongs to the very unit that the table has
        subst same
        obtain ⟨mem, scale⟩ := mem_of_table found
        exact .inr ⟨owner, mem, scale, owned, rfl⟩
      · exact .inl rfl
    · exact .inl rfl
  · exact .inl rfl

end Simplifier

namespace Builder

/-- Whatever unit is listed owns its symbol. -/
theorem Reachable.owns_symbol {b : Builder} (h : b.Reachable) {r : Record}
    (listed : r ∈ b.catalog.records) : b.catalog.Owns r r.entry.symbol :=
  h.settled.listed listed r.entry.symbol List.mem_cons_self

/-- In a catalog that listings define, every unit that is listed owns its symbol, and it is one of
the listings. -/
theorem owns_symbol_of_mem {ls : List Listing} {r : Record} (h : r ∈ (catalogOf ls).records) :
    (catalogOf ls).bindings.lookup (place r r.entry.symbol) = some r ∧ r.entry.toListing ∈ ls := by
  have built : Reachable (run {} (ls.map .define)) := ⟨_, rfl⟩
  have owned := built.owns_symbol h
  exact ⟨owned, (claimed_catalogOf ls owned).1⟩

end Builder

namespace Catalog

/-- The symbol of every derived unit of the standard catalog is a single name. -/
theorem isName_of_derived : ∀ l ∈ standardListings, l.derived = true →
    UnitExpr.isName (Symbol.normalize l.symbol).toList = true := by
  have single : ∀ l ∈ standardListings, l.derived = true →
      UnitExpr.isName l.symbol.toList = true := by
    decide +kernel
  intro l listed derived
  rw [normalize_of_spelled l listed l.symbol List.mem_cons_self]
  exact single l listed derived

theorem isName_of_derivedRecords {r : Record} (h : r ∈ standard.derivedRecords) :
    UnitExpr.isName (Symbol.normalize r.entry.symbol).toList = true := by
  obtain ⟨listed, derived⟩ := List.mem_filter.1 h
  have built : r ∈ (Builder.catalogOf standardListings).records := listed
  exact isName_of_derived _ (Builder.owns_symbol_of_mem built).2 derived

/-- With its dimension as a hint, the symbol of a derived unit names the unit. -/
theorem unit_of_derived {r : Record} (h : r ∈ standard.derivedRecords) :
    standard.unit r.entry.symbol (some r.entry.dimension) = .ok r.entry.scale := by
  have listed : r ∈ (Builder.catalogOf standardListings).records := (List.mem_filter.1 h).1
  have owned := (Builder.owns_symbol_of_mem listed).1
  rw [place, ← Symbol.normalize_normalize] at owned
  rw [unit_of_name (UnitExpr.ofText_of_isName (isName_of_derivedRecords h))]
  exact named_of_binding owned

end Catalog

namespace Simplifier

/-- In every catalog that steps of building lead to, renaming agrees with a search of the units in the
order of their registration. A quantity on a scale with an offset, or for which there is no derived
unit that measures from zero and has exactly its dimension and factor, stays as it is. Any other is
labelled with the symbol of the first such unit, and the symbol finds this very unit where the
dimension is given as a hint. Renaming twice is renaming once. -/
theorem simplify_of_reachable {b : Builder} (built : b.Reachable) (q : Quantity) :
    (ofCatalog b.catalog).named? q.scale = scan b.catalog q.scale ∧
      ((q.scale.hasOffset = true ∨ ∀ r ∈ b.catalog.records, ¬ Names q.scale r) →
        (ofCatalog b.catalog).simplify q = q) ∧
      (q.scale.hasOffset = false →
        ∀ front r back, b.catalog.records = front ++ r :: back → Names q.scale r →
          (∀ r' ∈ front, ¬ Names q.scale r') →
            (ofCatalog b.catalog).simplify q = { q with label := r.entry.symbol } ∧
              b.catalog.get? r.entry.symbol
                (some ((ofCatalog b.catalog).simplify q).dimension) = some r) ∧
      (ofCatalog b.catalog).simplify ((ofCatalog b.catalog).simplify q) =
        (ofCatalog b.catalog).simplify q := by
  refine ⟨named?_eq_scan b.catalog q.scale, ?_, ?_, simplify_simplify b.catalog q⟩
  · intro unnamed
    rw [simplify_eq, scan_eq_none unnamed]
    rfl
  · intro linear front r back listed named first
    have renamed : (ofCatalog b.catalog).simplify q = { q with label := r.entry.symbol } := by
      rw [simplify_eq, scan_eq_some linear listed named first]
      rfl
    have dimension : r.entry.dimension = q.dimension := (Prod.mk.inj named.2.2).1
    have mem : r ∈ b.catalog.records := by
      rw [listed]
      exact List.mem_append_right front List.mem_cons_self
    have owned := built.owns_symbol mem
    rw [Owns, place, dimension] at owned
    refine ⟨renamed, ?_⟩
    rw [renamed]
    exact owner?_of_binding owned

/-- A temperature. -/
def celsius : Record :=
  ⟨0, { Listing.plain "temperature" .ofTemperature "C" "celsius" 1 with
        offset := 5463 / 20
        factor_pos := by decide
        offset_eq_zero := fun other => absurd rfl other }⟩

/-- A charge that shares the symbol of the temperature. -/
def coulomb : Record :=
  ⟨1, { Listing.named "electrical" .charge "C" "coulomb" 1 with
        factor_pos := by decide
        offset_eq_zero := fun _ => rfl }⟩

/-- The same charge under another name. -/
def ampereSecond : Record :=
  ⟨2, { Listing.named "electrical" .charge "As" "ampere second" 1 with
        factor_pos := by decide
        offset_eq_zero := fun _ => rfl }⟩

def charges : Builder := Builder.run {} [.register celsius, .register coulomb, .register ampereSecond]

/-- A charge is renamed to the coulomb, which was there before the ampere second, although without a
hint its symbol means the temperature. -/
theorem simplify_ampere_seconds :
    (ofCatalog charges.catalog).simplify ⟨3, .linear .charge, "A*s"⟩ = ⟨3, .linear .charge, "C"⟩ ∧
      charges.catalog.get? "C" (some .charge) = some coulomb ∧
      charges.catalog.get? "C" = some celsius := by
  have built : charges.Reachable := ⟨_, rfl⟩
  have listed : charges.catalog.records = [celsius] ++ coulomb :: [ampereSecond] := by
    decide +kernel
  have shadowed : charges.catalog.get? "C" = some celsius := by decide +kernel
  obtain ⟨-, -, renamed, -⟩ := simplify_of_reachable built ⟨3, .linear .charge, "A*s"⟩
  obtain ⟨label, found⟩ := renamed rfl _ _ _ listed (by decide) (by decide)
  rw [label] at found
  exact ⟨label, found, shadowed⟩

end Simplifier

end Metrology
