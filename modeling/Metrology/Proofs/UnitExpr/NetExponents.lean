import Mathlib.Algebra.BigOperators.Group.Finset.Basic
import Metrology.Proofs.Catalog.Units
import Metrology.Proofs.Dimension
import Metrology.Proofs.UnitExpr.Composition

/-!
# Net exponents

What an expression means does not depend on the order or the grouping of its names, but only on the
exponent that each of them has in all: an occurrence counts with the product of the powers around
it, negated for every divisor that it stands in. Main statement: dimension and factor of an
expression are the products of those of its names, raised to their net exponents; so texts with
the same net exponents name units that differ at most in an offset, and an offset comes from a
single name only (`unit_of_netExponents`).
-/

namespace Metrology

namespace UnitExpr

/-- The occurrences of names in an expression, each with the product of the powers around it,
negated once for every divisor that it stands in. -/
def occurrences : UnitExpr → List (String × Int)
  | name s => [(s, 1)]
  | one => []
  | pow base n => base.occurrences.map fun (s, k) => (s, k * n)
  | mul left right => left.occurrences ++ right.occurrences
  | div left right => left.occurrences ++ right.occurrences.map fun (s, k) => (s, -k)

/-- The sum of the exponents with which a name occurs. -/
def netExponent (e : UnitExpr) (name : String) : Int :=
  ((e.occurrences.filter fun p => p.1 = name).map Prod.snd).sum

@[simp] theorem netExponent_name (s name : String) :
    (UnitExpr.name s).netExponent name = if s = name then 1 else 0 := by
  by_cases same : s = name
  · simp [netExponent, occurrences, same]
  · simp [netExponent, occurrences, same]

@[simp] theorem netExponent_one (name : String) : one.netExponent name = 0 := rfl

@[simp] theorem netExponent_pow (base : UnitExpr) (n : Int) (name : String) :
    (pow base n).netExponent name = base.netExponent name * n := by
  simp only [netExponent, occurrences]
  induction base.occurrences with
  | nil => simp
  | cons p rest ih =>
    by_cases same : p.1 = name
    · simp [same, ih, Int.add_mul]
    · simp [same, ih]

@[simp] theorem netExponent_mul (left right : UnitExpr) (name : String) :
    (mul left right).netExponent name = left.netExponent name + right.netExponent name := by
  simp [netExponent, occurrences]

@[simp] theorem netExponent_div (left right : UnitExpr) (name : String) :
    (div left right).netExponent name = left.netExponent name - right.netExponent name := by
  have negated : ((right.occurrences.map fun p => (p.1, -p.2)).filter fun p => p.1 = name).map
      Prod.snd = ((right.occurrences.filter fun p => p.1 = name).map Prod.snd).map Neg.neg := by
    simp [List.filter_map, Function.comp_def]
  have sum (ks : List Int) : (ks.map Neg.neg).sum = -ks.sum := by
    induction ks with
    | nil => rfl
    | cons k ks ih =>
      rw [List.map_cons, List.sum_cons, List.sum_cons, ih]
      omega
  simp only [netExponent, occurrences, List.filter_append, List.map_append, List.sum_append]
  rw [negated, sum]
  omega

/-! ## Meanings -/

section Meaning

variable {G : Type} [DivisionCommMonoid G]

/-- What an expression amounts to where its names stand for `value`. -/
def meaning (value : String → G) : UnitExpr → G
  | name s => value s
  | one => 1
  | pow base n => base.meaning value ^ n
  | mul left right => left.meaning value * right.meaning value
  | div left right => left.meaning value / right.meaning value

/-- The meaning of an expression is the product of its names to their net exponents, taken over
any set that holds them all. -/
theorem meaning_eq_prod {value : String → G}
    (add : ∀ s (j k : Int), value s ^ (j + k) = value s ^ j * value s ^ k) {names : Finset String}
    (e : UnitExpr) (listed : ∀ s ∈ e.names, s ∈ names) :
    e.meaning value = ∏ s ∈ names, value s ^ e.netExponent s := by
  induction e with
  | name t =>
    have mem : t ∈ names := listed t (by simp [UnitExpr.names])
    -- every other name has the net exponent zero
    rw [Finset.prod_eq_single_of_mem t mem]
    · simp [meaning]
    · intro s _ other
      simp [other.symm]
  | one => simp [meaning]
  | pow base n ih => simp only [meaning, ih listed, netExponent_pow, zpow_mul, Finset.prod_zpow]
  | mul left right ihLeft ihRight =>
    obtain ⟨inLeft, inRight⟩ := List.forall_mem_append.1 listed
    simp only [meaning, ihLeft inLeft, ihRight inRight, netExponent_mul, add,
      Finset.prod_mul_distrib]
  | div left right ihLeft ihRight =>
    obtain ⟨inLeft, inRight⟩ := List.forall_mem_append.1 listed
    simp only [meaning, ihLeft inLeft, ihRight inRight, netExponent_div, sub_eq_add_neg, add,
      zpow_neg, ← div_eq_mul_inv, Finset.prod_div_distrib]

end Meaning

/-- The expression that a unit text stands for, which is the unit one for an empty text. -/
def ofUnitText (text : String) : Except Failure UnitExpr :=
  if Symbol.normalize text = "" then .ok one else ofText text

end UnitExpr

namespace Catalog

open UnitExpr

variable {c : Catalog}

/-- The unit of a name within an expression, which has no offset; the unit one for a name that is
unknown. -/
def linearUnit (c : Catalog) (name : String) : Scale :=
  match c.named name with
  | .ok s => s.dropOffset
  | .error _ => Scale.one

theorem linearUnit_of_named {name : String} {s : Scale} (h : c.named name = .ok s) :
    c.linearUnit name = s.dropOffset := by
  simp only [linearUnit, h]

theorem factor_linearUnit_ne_zero (c : Catalog) (name : String) :
    (c.linearUnit name).factor ≠ 0 := by
  unfold linearUnit
  split
  · next s named => exact (factor_pos_of_named named).ne'
  · decide

/-- An expression has a scale only if all its names are known. -/
theorem named_of_scaleOf {e : UnitExpr} {s : Scale} (h : c.scaleOf e = .ok s) :
    ∀ name ∈ e.names, (c.named name).map Scale.dropOffset = .ok (c.linearUnit name) := by
  induction e generalizing s with
  | name t =>
    obtain ⟨u, named, -⟩ := map_eq_ok_iff.1 h
    intro name mem
    rw [List.mem_singleton.1 mem, linearUnit_of_named named, named]
    rfl
  | one => exact List.forall_mem_nil _
  | pow base n ih =>
    obtain ⟨t, first, -⟩ := bind_eq_ok_iff.1 h
    exact ih first
  | mul left right ihLeft ihRight =>
    obtain ⟨t, first, h⟩ := bind_eq_ok_iff.1 h
    obtain ⟨u, last, -⟩ := bind_eq_ok_iff.1 h
    exact List.forall_mem_append.2 ⟨ihLeft first, ihRight last⟩
  | div left right ihLeft ihRight =>
    obtain ⟨t, first, h⟩ := bind_eq_ok_iff.1 h
    obtain ⟨u, last, -⟩ := bind_eq_ok_iff.1 h
    exact List.forall_mem_append.2 ⟨ihLeft first, ihRight last⟩

/-- The scale of an expression is its meaning, for the dimension and for the factor. -/
theorem meaning_of_scaleOf {e : UnitExpr} {s : Scale} (h : c.scaleOf e = .ok s) :
    s.dimension = e.meaning (fun name => (c.linearUnit name).dimension) ∧
      s.factor = e.meaning (fun name => (c.linearUnit name).factor) := by
  induction e generalizing s with
  | name t =>
    obtain ⟨u, named, rfl⟩ := map_eq_ok_iff.1 h
    simp only [meaning, linearUnit_of_named named, and_self]
  | one =>
    cases h
    exact ⟨rfl, rfl⟩
  | pow base n ih =>
    obtain ⟨t, first, power⟩ := bind_eq_ok_iff.1 h
    obtain ⟨dimension, factor⟩ := ih first
    -- scales within an expression have no offset, so that a power raises the factor alone
    have linear : t.IsLinear :=
      ⟨congrArg Scale.offset (dropOffset_of_scaleOf first).symm, (factor_pos_of_scaleOf first).ne'⟩
    obtain ⟨-, factorS, dimensionS⟩ := linear.pow power
    rw [factorS, dimensionS, factor, dimension]
    exact ⟨rfl, rfl⟩
  | mul left right ihLeft ihRight =>
    obtain ⟨t, first, h⟩ := bind_eq_ok_iff.1 h
    obtain ⟨u, last, h⟩ := bind_eq_ok_iff.1 h
    cases h
    obtain ⟨dimensionT, factorT⟩ := ihLeft first
    obtain ⟨dimensionU, factorU⟩ := ihRight last
    simp only [meaning, ← dimensionT, ← factorT, ← dimensionU, ← factorU]
    exact ⟨rfl, rfl⟩
  | div left right ihLeft ihRight =>
    obtain ⟨t, first, h⟩ := bind_eq_ok_iff.1 h
    obtain ⟨u, last, h⟩ := bind_eq_ok_iff.1 h
    obtain ⟨dimensionT, factorT⟩ := ihLeft first
    obtain ⟨dimensionU, factorU⟩ := ihRight last
    rw [Scale.div, if_neg (factor_pos_of_scaleOf last).ne'] at h
    cases h
    simp only [meaning, ← dimensionT, ← factorT, ← dimensionU, ← factorU]
    exact ⟨rfl, rfl⟩

/-- Dimension and factor of an expression as products over any set that holds its names. -/
theorem prod_of_scaleOf {e : UnitExpr} {s : Scale} (h : c.scaleOf e = .ok s)
    {names : Finset String} (listed : ∀ name ∈ e.names, name ∈ names) :
    s.dimension = ∏ name ∈ names, (c.linearUnit name).dimension ^ e.netExponent name ∧
      s.factor = ∏ name ∈ names, (c.linearUnit name).factor ^ e.netExponent name := by
  obtain ⟨dimension, factor⟩ := meaning_of_scaleOf h
  rw [dimension, factor]
  refine ⟨meaning_eq_prod (fun name => zpow_add _) e listed, meaning_eq_prod (fun name j k => ?_) e
    listed⟩
  exact zpow_add₀ (c.factor_linearUnit_ne_zero name) j k

/-! ## Texts -/

/-- Without its offset, what a text names is the scale of the expression that it stands for. -/
theorem scaleOf_of_unit {text : String} {e : UnitExpr} {s : Scale}
    (read : ofUnitText text = .ok e) (h : c.unit text = .ok s) :
    c.scaleOf e = .ok s.dropOffset := by
  unfold ofUnitText at read
  split at read
  · next empty =>
    cases read
    simp only [unit, empty, if_true] at h
    cases h
    rfl
  · rw [unit_of_expr read] at h
    -- a name on its own is looked up with its offset, which the expression has dropped
    cases e with
    | name t => exact map_eq_ok_iff.2 ⟨s, h, rfl⟩
    | one | pow | mul | div =>
      have scale : c.scaleOf _ = .ok s := h
      rw [scale, dropOffset_of_scaleOf scale]

/-- An expression means the product of its names, raised to their net exponents, each of them
standing for its unit without offset. Texts that agree in their net exponents name units of one
dimension and factor, however they are written. Only a single name keeps an offset. -/
theorem unit_of_netExponents (c : Catalog) :
    (∀ (e : UnitExpr) (s : Scale), c.scaleOf e = .ok s →
      ∃ unitOf : String → Scale,
        (∀ name ∈ e.names, (c.named name).map Scale.dropOffset = .ok (unitOf name)) ∧
        s.dimension = ∏ name ∈ e.names.toFinset, (unitOf name).dimension ^ e.netExponent name ∧
        s.factor = ∏ name ∈ e.names.toFinset, (unitOf name).factor ^ e.netExponent name) ∧
    (∀ (a b : String) (e f : UnitExpr) (s t : Scale), ofUnitText a = .ok e →
      ofUnitText b = .ok f → (∀ name, e.netExponent name = f.netExponent name) →
      c.unit a = .ok s → c.unit b = .ok t → s.dimension = t.dimension ∧ s.factor = t.factor) ∧
    ∀ (text : String) (hint : Option Dimension) (s : Scale), c.unit text hint = .ok s →
      s.offset ≠ 0 → ∃ name, ofUnitText text = .ok (.name name) := by
  refine ⟨fun e s h => ?_, fun a b e f s t readA readB net ha hb => ?_,
    fun text hint s h offset => ?_⟩
  · exact ⟨c.linearUnit, named_of_scaleOf h, prod_of_scaleOf h fun name => List.mem_toFinset.2⟩
  · -- both are products over the names of the two texts together
    have inE : ∀ name ∈ e.names, name ∈ (e.names ++ f.names).toFinset := by
      intro name mem
      simp [mem]
    have inF : ∀ name ∈ f.names, name ∈ (e.names ++ f.names).toFinset := by
      intro name mem
      simp [mem]
    obtain ⟨dimensionS, factorS⟩ := prod_of_scaleOf (scaleOf_of_unit readA ha) inE
    obtain ⟨dimensionT, factorT⟩ := prod_of_scaleOf (scaleOf_of_unit readB hb) inF
    simp only [net, ← dimensionT, ← factorT] at dimensionS factorS
    exact ⟨dimensionS, factorS⟩
  · obtain ⟨filled, name, read⟩ := name_of_offset_ne_zero h offset
    exact ⟨name, by rw [ofUnitText, if_neg filled, read]⟩

/-- A length, a time, and a temperature scale with an offset. -/
def metreMinuteCelsius : Catalog :=
  (Builder.run {} [.define (.plain "length" .ofLength "m" "metre" 1),
    .define (.plain "time" .ofTime "min" "minute" 60),
    .define { Listing.plain "temperature" .ofTemperature "C" "celsius" 1 with
      offset := 5463 / 20 }]).catalog

/-- An acceleration in two spellings, the factor of the first of them, and a temperature. -/
theorem unit_of_netExponents_acceleration :
    (∃ s t, metreMinuteCelsius.unit "m/(min*min)" = .ok s ∧
      metreMinuteCelsius.unit "(min^-1)² m" = .ok t ∧ s.dimension = t.dimension ∧
      s.factor = t.factor) ∧
    (∃ unitOf : String → Scale,
      (1 / 3600 : Rat) = ∏ name ∈ {"m", "min"}, (unitOf name).factor ^
        ((UnitExpr.name "m").div ((UnitExpr.name "min").mul (.name "min"))).netExponent name) ∧
    ∃ name, ofUnitText " (C) " = .ok (.name name) := by
  obtain ⟨product, spellings, single⟩ := unit_of_netExponents metreMinuteCelsius
  have readA : ofUnitText "m/(min*min)" =
      .ok ((UnitExpr.name "m").div ((UnitExpr.name "min").mul (.name "min"))) := by
    decide
  have readB : ofUnitText "(min^-1)² m" =
      .ok ((((UnitExpr.name "min").pow (-1)).pow 2).mul (.name "m")) := by
    decide
  have acceleration : ∀ text ∈ ["m/(min*min)", "(min^-1)² m"], metreMinuteCelsius.unit text =
      .ok (.linear (Dimension.ofLength.div (Dimension.ofTime.pow 2)) (1 / 3600)) := by
    decide +kernel
  have unitA := acceleration _ List.mem_cons_self
  have unitB := acceleration _ (List.mem_cons_of_mem _ List.mem_cons_self)
  have net (name : String) :
      ((UnitExpr.name "m").div ((UnitExpr.name "min").mul (.name "min"))).netExponent name =
        ((((UnitExpr.name "min").pow (-1)).pow 2).mul (.name "m")).netExponent name := by
    simp only [netExponent_name, netExponent_pow, netExponent_mul, netExponent_div]
    omega
  obtain ⟨unitOf, -, -, factor⟩ := product _ _ (scaleOf_of_unit readA unitA)
  have celsius : metreMinuteCelsius.unit " (C) " (some .ofTemperature) =
      .ok ⟨.ofTemperature, 1, 5463 / 20, fun other => absurd rfl other⟩ := by
    decide +kernel
  exact ⟨⟨_, _, unitA, unitB, spellings _ _ _ _ _ _ readA readB net unitA unitB⟩,
    ⟨unitOf, factor⟩, single _ _ _ celsius (by decide +kernel)⟩

end Catalog

end Metrology
