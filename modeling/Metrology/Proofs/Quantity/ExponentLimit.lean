import Metrology.Proofs.Quantity.Steps
import Metrology.Proofs.Setting
import Metrology.Proofs.UnitExpr.NetExponents

/-!
# The limit of exponents

Powers and reciprocals are refused where an exponent of the result would exceed the limit. Products
and quotients are not: they add exponents as they are, in unit texts and between quantities, and so
they are the only steps that lead beyond the limit (`maxExponent_of_composed`). A single text can
lead as far as its operators allow (`Catalog.maxExponent_of_unit`).
-/

namespace Metrology

/-! ## Dimensions -/

namespace Dimension

theorem maxExponent_le_iff {d : Dimension} {n : Nat} :
    d.maxExponent ≤ n ↔ ∀ e ∈ d.toList, e.natAbs ≤ n := by
  simp [maxExponent, toList]

/-- The exponents of a product are sums. -/
theorem maxExponent_mul_le (a b : Dimension) :
    (a.mul b).maxExponent ≤ a.maxExponent + b.maxExponent := by
  have sum {m n : Int} (left : m ∈ a.toList) (right : n ∈ b.toList) :
      (m + n).natAbs ≤ a.maxExponent + b.maxExponent :=
    (Int.natAbs_add_le m n).trans
      (Nat.add_le_add (natAbs_le_maxExponent left) (natAbs_le_maxExponent right))
  rw [maxExponent_le_iff]
  intro e mem
  simp only [toList, mul, List.mem_cons, List.not_mem_nil, or_false] at mem
  rcases mem with rfl | rfl | rfl | rfl | rfl | rfl | rfl
  all_goals exact sum (by simp [toList]) (by simp [toList])

theorem maxExponent_inverse (d : Dimension) : (d.pow (-1)).maxExponent = d.maxExponent := by
  simp [maxExponent, toList, pow]

theorem maxExponent_div_le (a b : Dimension) :
    (a.div b).maxExponent ≤ a.maxExponent + b.maxExponent := by
  have product := maxExponent_mul_le a (b.pow (-1))
  rwa [maxExponent_inverse, ← div_eq_mul_pow] at product

end Dimension

/-- A power is refused where an exponent would exceed the limit; only the first power is not
looked at. -/
theorem Scale.maxExponent_of_pow {s t : Scale} {n : Int} (h : s.pow n = .ok t) (other : n ≠ 1) :
    t.dimension.maxExponent ≤ exponentLimit := by
  obtain ⟨-, small, -, rfl⟩ := (pow_eq_ok_iff other).1 h
  exact small

/-! ## Unit texts -/

namespace UnitExpr

/-- A product or a quotient. -/
def IsJoined : UnitExpr → Prop
  | mul _ _ | div _ _ => True
  | name _ | one | pow _ _ => False

/-- How many names and ones an expression is made of. -/
def leaves : UnitExpr → Nat
  | name _ | one => 1
  | pow base _ => base.leaves
  | mul left right | div left right => left.leaves + right.leaves

theorem leaves_pos (e : UnitExpr) : 0 < e.leaves := by
  induction e with
  | name | one => exact Nat.one_pos
  | pow base n ih => exact ih
  | mul left right ihLeft _ => exact Nat.add_pos_left ihLeft _
  | div left right ihLeft _ => exact Nat.add_pos_left ihLeft _

theorem leaves_toPower_le (base : UnitExpr) (n : Int) : (base.toPower n).leaves ≤ base.leaves :=
  toPower_cases base n (fun _ => Nat.le_refl _) (fun _ => base.leaves_pos) fun _ _ => Nat.le_refl _

/-- Every operator joins one more leaf. -/
theorem Derives.leaves_le {part : Part} {text after : List Char} {e : UnitExpr} {k d : Nat}
    (h : Derives part text after e k d) : e.leaves ≤ k + 1 := by
  induction h with
  | name | one => exact Nat.le_refl 1
  | group inner hclosing ih => exact ih
  | bare factor ih => exact ih
  | power factor hblanks hsign hexponent ih => exact (leaves_toPower_le _ _).trans ih
  | superscript factor hblanks nonempty run maximal value bounded ih =>
    exact (leaves_toPower_le _ _).trans ih
  | single hblanks term ih => exact ih
  | @joined _ _ _ _ _ _ joint _ _ _ _ _ _ first hbefore hsign hbehind last ihFirst ihLast =>
    cases joint with
    | times | per =>
      simp only [Reader.Joint.apply, leaves]
      omega
  | juxtaposed first hbetween nonempty begins last ihFirst ihLast =>
    simp only [leaves]
    omega

/-- The first power of an expression is not written as a power. -/
theorem Derives.ne_first_power {part : Part} {text after : List Char} {e : UnitExpr} {k d : Nat}
    (h : Derives part text after e k d) (base : UnitExpr) : e ≠ .pow base 1 := by
  have power {e : UnitExpr} (n : Int) (ih : e ≠ .pow base 1) : e.toPower n ≠ .pow base 1 :=
    toPower_cases e n (fun _ => ih) (fun _ => UnitExpr.noConfusion)
      fun other _ same => other (UnitExpr.pow.inj same).2
  induction h with
  | name | one => exact UnitExpr.noConfusion
  | group inner hclosing ih => exact ih
  | bare factor ih => exact ih
  | power factor hblanks hsign hexponent ih => exact power _ ih
  | superscript factor hblanks nonempty run maximal value bounded ih => exact power _ ih
  | single hblanks term ih => exact ih
  | @joined _ _ _ _ _ _ joint _ _ _ _ _ _ first hbefore hsign hbehind last ihFirst ihLast =>
    cases joint with
    | times | per => exact UnitExpr.noConfusion
  | juxtaposed => exact UnitExpr.noConfusion

/-- What a unit text stands for has no first power and no more leaves than operators and one. -/
theorem shape_of_ofUnitText {text : String} {e : UnitExpr} (read : ofUnitText text = .ok e) :
    e.leaves ≤ operatorLimit + 1 ∧ ∀ base, e ≠ .pow base 1 := by
  unfold ofUnitText at read
  split at read
  · cases read
    exact ⟨by decide, fun base => UnitExpr.noConfusion⟩
  · obtain ⟨-, k, d, ⟨front, blanks, -, -, derived⟩, short, -⟩ := spells_of_ofChars read
    have few := derived.leaves_le
    exact ⟨by omega, derived.ne_first_power⟩

end UnitExpr

namespace Catalog

open UnitExpr

variable {c : Catalog} {text name : String} {hint : Option Dimension} {s : Scale} {e : UnitExpr}

/-- Every unit that can be found has exponents within the limit. -/
def KeepsLimit (c : Catalog) : Prop :=
  ∀ ⦃p r⦄, c.bindings.lookup p = some r → r.entry.dimension.maxExponent ≤ exponentLimit

/-- A unit that is found under a name owns a key in its namespace. -/
theorem exists_binding_of_get? (hc : c.Consistent) {r : Record} (h : c.get? name hint = some r) :
    ∃ p, c.bindings.lookup p = some r := by
  unfold get? owner? at h
  split at h
  · next found =>
    cases h
    obtain ⟨d, -, bound⟩ := Option.bind_eq_some_iff.1 found
    exact ⟨_, bound⟩
  · exact ⟨_, hc.bound h⟩

theorem trailingPower?_cases {base : String} {n : Int} (h : trailingPower? name = some (base, n)) :
    n = 2 ∨ n = 3 := by
  unfold trailingPower? at h
  split at h
  · dsimp only at h
    split at h
    · cases h
    · obtain ⟨m, digit, same⟩ := Option.map_eq_some_iff.1 h
      cases same
      split at digit
      · exact .inl (Option.some.inj digit).symm
      · exact .inr (Option.some.inj (Option.ite_none_right_eq_some.1 digit).2).symm
  · cases h

theorem maxExponent_of_named (hc : c.Consistent) (small : c.KeepsLimit)
    (h : c.named name hint = .ok s) : s.dimension.maxExponent ≤ exponentLimit := by
  unfold named at h
  split at h
  · next r found =>
    cases h
    obtain ⟨p, bound⟩ := exists_binding_of_get? hc found
    exact small bound
  · split at h
    · next base n power =>
      split at h
      · refine Scale.maxExponent_of_pow h ?_
        rcases trailingPower?_cases power with rfl | rfl
        · decide
        · decide
      · cases h
    · cases h

/-- A scale may exceed the limit as often as its expression has names and ones. -/
theorem maxExponent_of_scaleOf (hc : c.Consistent) (small : c.KeepsLimit)
    (h : c.scaleOf e = .ok s) : s.dimension.maxExponent ≤ e.leaves * exponentLimit := by
  induction e generalizing s with
  | name symbol =>
    obtain ⟨t, named, rfl⟩ := map_eq_ok_iff.1 h
    rw [leaves, Nat.one_mul]
    exact maxExponent_of_named (s := t) hc small named
  | one =>
    cases h
    exact Nat.zero_le _
  | pow base n ih =>
    obtain ⟨t, first, power⟩ := bind_eq_ok_iff.1 h
    -- the first power is the base itself, and every other is within the limit on its own
    by_cases one : n = 1
    · subst one
      cases power
      exact ih first
    · exact (Scale.maxExponent_of_pow power one).trans (Nat.le_mul_of_pos_left _ base.leaves_pos)
  | mul left right ihLeft ihRight =>
    obtain ⟨t, first, h⟩ := bind_eq_ok_iff.1 h
    obtain ⟨u, last, h⟩ := bind_eq_ok_iff.1 h
    cases h
    rw [leaves, Nat.add_mul]
    exact (Dimension.maxExponent_mul_le _ _).trans (Nat.add_le_add (ihLeft first) (ihRight last))
  | div left right ihLeft ihRight =>
    obtain ⟨t, first, h⟩ := bind_eq_ok_iff.1 h
    obtain ⟨u, last, h⟩ := bind_eq_ok_iff.1 h
    rw [leaves, Nat.add_mul, (Scale.eq_of_div h).2]
    exact (Dimension.maxExponent_div_le _ _).trans (Nat.add_le_add (ihLeft first) (ihRight last))

/-- An expression that is no product or quotient keeps to the limit. -/
theorem maxExponent_of_single (hc : c.Consistent) (small : c.KeepsLimit)
    (h : c.scaleOf e = .ok s) (single : ¬ e.IsJoined) (powers : ∀ base, e ≠ .pow base 1) :
    s.dimension.maxExponent ≤ exponentLimit := by
  cases e with
  | name | one =>
    have bound := maxExponent_of_scaleOf hc small h
    rwa [leaves, Nat.one_mul] at bound
  | pow base n =>
    obtain ⟨t, -, power⟩ := bind_eq_ok_iff.1 h
    exact Scale.maxExponent_of_pow power fun one => powers base (one ▸ rfl)
  | mul | div => exact absurd trivial single

/-- A text that names a unit stands for an expression, and the unit is that of a single name or the
scale of the expression. -/
theorem exists_expr_of_unit (h : c.unit text hint = .ok s) : ∃ e, ofUnitText text = .ok e ∧
    ((∃ name, e = .name name ∧ c.named name hint = .ok s) ∨ c.scaleOf e = .ok s) := by
  unfold unit at h
  dsimp only at h
  split at h
  · next empty => exact ⟨.one, by rw [ofUnitText, if_pos empty], .inr h⟩
  · next filled =>
    unfold ofUnitText ofText
    rw [if_neg filled]
    split at h
    · next symbol read => exact ⟨_, read, .inl ⟨symbol, rfl, h⟩⟩
    · next e _ read => exact ⟨e, read, .inr h⟩
    · cases h

/-- A unit text leads beyond the limit only as far as its operators allow, and not at all if it is
no product or quotient. -/
theorem maxExponent_of_unit (hc : c.Consistent) (small : c.KeepsLimit)
    (h : c.unit text hint = .ok s) :
    s.dimension.maxExponent ≤ (operatorLimit + 1) * exponentLimit ∧
      ((∀ e, ofUnitText text = .ok e → ¬ e.IsJoined) →
        s.dimension.maxExponent ≤ exponentLimit) := by
  obtain ⟨e, read, ⟨symbol, rfl, named⟩ | scale⟩ := exists_expr_of_unit h
  · have bound := maxExponent_of_named hc small named
    exact ⟨bound.trans (by decide), fun _ => bound⟩
  · obtain ⟨few, powers⟩ := shape_of_ofUnitText read
    exact ⟨(maxExponent_of_scaleOf hc small scale).trans (Nat.mul_le_mul_right _ few),
      fun single => maxExponent_of_single hc small scale (single e read) powers⟩

/-! ## The standard catalog -/

theorem keepsLimit_standard : standard.KeepsLimit := by
  have listings : ∀ l ∈ standardListings, l.dimension.maxExponent ≤ exponentLimit := by
    decide +kernel
  rintro ⟨d, k⟩ r found
  exact listings _ (Builder.claimed_catalogOf standardListings found).1

end Catalog

namespace Quantity

open Catalog UnitExpr

variable {a b q r : Quantity}

/-! ## Runs -/

/-- The quantities in units that texts of the standard catalog name, and those that arithmetic,
conversion, renaming and the base form lead to from there, as long as products and quotients, also
those that unit texts write, keep to the limit. -/
inductive Composed : Quantity → Prop
  | inUnit {text : String} {hint : Option Dimension} {s : Scale}
      (read : standard.unit text hint = .ok s)
      (fits : ∀ e, ofUnitText text = .ok e → e.IsJoined → s.dimension.maxExponent ≤ exponentLimit)
      (x : Rat) (label : String) : Composed ⟨x, s, label⟩
  | mul_number {q : Quantity} (h : Composed q) (n : Rat) : Composed (q.mul (.number n))
  | mul {a b : Quantity} (ha : Composed a) (hb : Composed b)
      (fits : ¬ a.isScalar = true → ¬ b.isScalar = true →
        (a.dimension.mul b.dimension).maxExponent ≤ exponentLimit) :
      Composed (a.mul (.quantity b))
  | div_number {q r : Quantity} {n : Rat} (h : Composed q) (divided : q.div (.number n) = .ok r) :
      Composed r
  | div {a b r : Quantity} (ha : Composed a) (hb : Composed b)
      (divided : a.div (.quantity b) = .ok r)
      (fits : ¬ a.isScalar = true → ¬ b.isScalar = true →
        (a.dimension.div b.dimension).maxExponent ≤ exponentLimit) : Composed r
  | divInto {q r : Quantity} {n : Rat} (h : Composed q) (divided : q.divInto n = .ok r) : Composed r
  | pow {q r : Quantity} {n : Int} (h : Composed q) (power : q.pow n = .ok r) : Composed r
  | convert {q r : Quantity} {target : String} (h : Composed q)
      (converted : q.convert standard target = .ok r) : Composed r
  | toBase {q : Quantity} (h : Composed q) : Composed q.toBase
  | simplify {q : Quantity} (h : Composed q) :
      Composed ((Simplifier.ofCatalog standard).simplify q)

/-- Reciprocals keep to the limit, whatever they are taken of. -/
theorem maxExponent_of_divInto {n : Rat} (h : q.divInto n = .ok r) :
    r.dimension.maxExponent ≤ exponentLimit := by
  obtain ⟨x, scale, inverse, rfl⟩ := divInto_cases h
  exact Scale.maxExponent_of_pow inverse (by decide)

/-- Powers keep to the limit, whatever they are taken of; the first power is the quantity itself. -/
theorem maxExponent_of_pow {n : Int} (h : q.pow n = .ok r) (other : n ≠ 1) :
    r.dimension.maxExponent ≤ exponentLimit := by
  obtain ⟨x, scale, power, rfl⟩ := pow_cases h
  exact Scale.maxExponent_of_pow power other

/-- One case for each step: what every run keeps. -/
theorem Composed.maxExponent_le (h : Composed q) : q.dimension.maxExponent ≤ exponentLimit := by
  induction h with
  | @inUnit text hint s read fits x label =>
    by_cases joined : ∃ e, ofUnitText text = .ok e ∧ e.IsJoined
    · obtain ⟨e, spelled, joined⟩ := joined
      exact fits e spelled joined
    · exact (maxExponent_of_unit consistent_standard keepsLimit_standard read).2
        fun e spelled single => joined ⟨e, spelled, single⟩
  | mul_number h n ih => exact ih
  | @mul a b ha hb fits ihA ihB =>
    -- beside a pure number a unit stays, and other units are joined only within the limit
    rcases mul_cases a b with ⟨-, x, same⟩ | ⟨-, x, same⟩ | ⟨scaledA, scaledB, same⟩
    · exact same ▸ ihA
    · exact same ▸ ihB
    · exact same ▸ fits scaledA scaledB
  | div_number h divided ih =>
    obtain ⟨x, rfl⟩ := div_number_cases divided
    exact ih
  | @div a b r ha hb divided fits ihA ihB =>
    -- a quotient may also be a reciprocal, of a number that is written as a quantity
    rcases div_cases divided with ⟨-, x, rfl⟩ | ⟨-, -, reciprocal⟩ |
      ⟨scaledA, scaledB, x, scale, quotient, rfl⟩
    · exact ihA
    · exact maxExponent_of_divInto reciprocal
    · have dimension : scale.dimension = a.dimension.div b.dimension :=
        congrArg Scale.dimension (Scale.eq_of_div quotient).2
      exact (congrArg Dimension.maxExponent dimension).trans_le (fits scaledA scaledB)
  | divInto h divided ih => exact maxExponent_of_divInto divided
  | @pow q r n h power ih =>
    by_cases one : n = 1
    · subst one
      obtain ⟨x, scale, first, rfl⟩ := pow_cases power
      cases first
      exact ih
    · exact maxExponent_of_pow power one
  | convert h converted ih =>
    obtain ⟨v, y, -, same, -, rfl⟩ := convert_eq_ok_iff.1 converted
    exact (congrArg Dimension.maxExponent same).trans_le ih
  | toBase h ih => exact ih
  | @simplify q h ih =>
    obtain ⟨label, renamed⟩ := Simplifier.exists_label_of_simplify (c := standard) q
    rw [renamed]
    exact ih

/-- In the standard catalog, a unit text leads beyond the limit only if it is a product or a
quotient, and then only as far as its operators allow. Powers and reciprocals keep to the limit,
whatever they are taken of. So do all quantities of a run whose products and quotients keep to it:
the label of their base form is read back as the scale of this form, and they have a normal form
under every policy. -/
theorem maxExponent_of_composed (text : String) (hint : Option Dimension) (q : Quantity) :
    (∀ s, standard.unit text hint = .ok s →
      s.dimension.maxExponent ≤ (operatorLimit + 1) * exponentLimit ∧
        ((∀ e, ofUnitText text = .ok e → ¬ e.IsJoined) →
          s.dimension.maxExponent ≤ exponentLimit)) ∧
    (∀ n r, q.pow n = .ok r → n ≠ 1 → r.dimension.maxExponent ≤ exponentLimit) ∧
    (∀ n r, q.divInto n = .ok r → r.dimension.maxExponent ≤ exponentLimit) ∧
    (Composed q →
      q.dimension.maxExponent ≤ exponentLimit ∧
        standard.unit q.toBase.label = .ok q.toBase.scale ∧
        ∀ s : Setting, s.catalog = standard → ∃ n, s.normalize q = .ok n) := by
  refine ⟨?_, ?_, ?_, ?_⟩
  · intro s read
    exact maxExponent_of_unit consistent_standard keepsLimit_standard read
  · intro n r power other
    exact maxExponent_of_pow power other
  · intro n r divided
    exact maxExponent_of_divInto divided
  · intro composed
    have small := composed.maxExponent_le
    refine ⟨small, unit_ofDimension hasBaseUnits_standard small, ?_⟩
    intro s usual
    obtain ⟨target, -, -, normal⟩ := Setting.exists_target usual small
    exact ⟨_, normal q rfl⟩

theorem named_metre : standard.named "m" = .ok (.linear .ofLength) := by
  have metre : ("m", Dimension.ofLength) ∈ baseDimensions := by simp [baseDimensions]
  rw [named_of_base hasBaseUnits_standard metre]

theorem unit_metre : standard.unit "m" = .ok (.linear .ofLength) := by
  have spelled : UnitExpr.ofText "m" = .ok (.name "m") := by decide
  rw [unit_of_name spelled none, named_metre]

/-- Three metres to the power of 32, squared as a product: the limit is reached and kept. -/
theorem composed_metres :
    ∃ a, pow ⟨3, .linear .ofLength, "m"⟩ 32 = .ok a ∧ ¬ a.isScalar = true ∧
      (a.mul (.quantity a)).dimension.maxExponent = 64 ∧
      standard.unit (a.mul (.quantity a)).toBase.label =
        .ok (.linear (.ofLength ^ (64 : Int))) := by
  have metres : Composed ⟨3, .linear .ofLength, "m"⟩ :=
    .inUnit unit_metre (fun _ _ _ => by decide) 3 "m"
  obtain ⟨a, power, scaled, exponent, scale⟩ :
      ∃ a, pow ⟨3, .linear .ofLength, "m"⟩ 32 = .ok a ∧ ¬ a.isScalar = true ∧
        (a.mul (.quantity a)).dimension.maxExponent = 64 ∧
        (a.mul (.quantity a)).toBase.scale = .linear (.ofLength ^ (64 : Int)) :=
    ⟨_, rfl, by decide⟩
  have raised := metres.pow power
  have squared := raised.mul raised fun _ _ => by
    have same : a.dimension.mul a.dimension = (a.mul (.quantity a)).dimension := by
      rw [mul, if_neg scaled, if_neg scaled]
      rfl
    rw [same, exponent]
    decide
  have bound := maxExponent_of_composed "m" none (a.mul (.quantity a))
  obtain ⟨-, label, -⟩ := bound.2.2.2 squared
  rw [scale] at label
  exact ⟨a, power, scaled, exponent, label⟩

/-- The highest power of a metre and a metre are joined without regard to the limit. -/
theorem unit_metre_beyond {c : Catalog} (metre : c.named "m" = .ok (.linear .ofLength)) :
    c.unit "m^64*m" =
      .ok ((Scale.linear (.ofLength ^ (64 : Int))).mul (.linear .ofLength)) := by
  have spelled : UnitExpr.ofText "m^64*m" = .ok (.mul (.pow (.name "m") 64) (.name "m")) := by
    decide
  have power : (Scale.linear .ofLength).pow 64 = .ok (.linear (.ofLength ^ (64 : Int))) := by
    decide
  rw [unit_of_expr spelled]
  simp only [scaleOf, metre, Except.map, Scale.dropOffset, Scale.dimension_linear,
    Scale.factor_linear, ok_bind, power]

/-- So there is a unit beyond the limit, and its base form is labelled with a text that names no
unit. -/
theorem not_maxExponent_of_unit :
    (¬ ∀ (text : String) (s : Scale), standard.unit text = .ok s →
      s.dimension.maxExponent ≤ exponentLimit) ∧
    ¬ ∀ (text : String) (s : Scale), standard.unit text = .ok s →
      ∃ t, standard.unit (Label.ofDimension s.dimension) = .ok t := by
  have beyond := unit_metre_beyond named_metre
  refine ⟨fun always => absurd (always _ _ beyond) (by decide), fun always => ?_⟩
  obtain ⟨t, read⟩ := always _ _ beyond
  have label : Label.ofDimension
      ((Scale.linear (.ofLength ^ (64 : Int))).mul (.linear .ofLength)).dimension = "m^65" := by
    decide
  rw [label] at read
  obtain ⟨e, spelled, -⟩ := exists_expr_of_unit read
  have refused : (ofUnitText "m^65").toOption = none := by decide
  rw [spelled] at refused
  cases refused

end Quantity

end Metrology
