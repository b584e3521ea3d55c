import Metrology.Proofs.Quantity.ExponentLimit
import Metrology.Proofs.Quantity.Offset
import Metrology.Proofs.UnitExpr.Recovery

/-!
# Positive factors and zero divisors

Units of a catalog have positive factors, and nothing that is done with quantities in such units
leads to another factor (`Attained.factor_pos`). So a division by zero is always one by the value of
an operand, never by the factor of its unit, and no quantity fails to be converted because of a zero
factor. Main statement: `zero_divisors`.
-/

namespace Metrology

/-! ## Scales with positive factors -/

namespace Scale

/-- Towards a factor that is not zero, every SI value has a value. -/
theorem fromSI_of_ne_zero {s : Scale} (nonzero : s.factor ≠ 0) (x : Rat) :
    s.fromSI x = .ok (x / s.factor - s.offset) :=
  if_neg nonzero

theorem convert_ne_zeroFactor {target : Scale} (nonzero : target.factor ≠ 0) (source : Scale)
    (x : Rat) : convert source target x ≠ .error .zeroFactor := by
  unfold convert
  intro h
  split at h
  · cases h
  · split at h
    · cases h
    · rw [fromSI_of_ne_zero nonzero] at h
      cases h

theorem div_of_ne_zero {t : Scale} (nonzero : t.factor ≠ 0) (s : Scale) :
    s.div t = .ok (linear (s.dimension.div t.dimension) (s.factor / t.factor)) :=
  if_neg nonzero

/-- Only a unit beyond the limit of exponents has no reciprocal. -/
theorem inverse_eq_error_iff {s : Scale} {f : Failure} (nonzero : s.factor ≠ 0) :
    s.inverse = .error f ↔
      exponentLimit < s.dimension.maxExponent ∧ f = .powerTooHigh (toString (-1 : Int)) := by
  have other : (-1 : Int) ≠ 1 := by decide
  have within : ¬ exponentLimit < Int.natAbs (-1) := by decide
  rw [inverse, pow_eq_error_iff nonzero, Dimension.maxExponent_inverse]
  simp only [ne_eq, other, not_false_eq_true, within, false_or, true_and]

end Scale

theorem Number.integerPower_eq_error_iff {base : Rat} {n : Int} {f : Failure} :
    integerPower base n = .error f ↔ f = .divisionByZero ∧ base = 0 ∧ n < 0 := by
  by_cases zero : base = 0 ∧ n < 0
  · simp [integerPower, zero, eq_comm]
  · have defined : base ≠ 0 ∨ 0 ≤ n := by
      rcases not_and_or.1 zero with nonzero | small
      · exact .inl nonzero
      · exact .inr (Int.not_lt.1 small)
    simp [integerPower_eq_ok defined, zero]

namespace Quantity

variable {c : Catalog} {a b q r : Quantity} {f : Failure}

/-! ## Runs -/

/-- The quantities that are written in units of a catalog, and those that conversion, the base form,
renaming and arithmetic lead to from there. -/
inductive Attained (c : Catalog) : Quantity → Prop
  | inUnit {q : Quantity} {x : Rat} {text : String}
      (written : Quantity.inUnit c x text = .ok q) : Attained c q
  | convert {q r : Quantity} {target : String} (h : Attained c q)
      (converted : q.convert c target = .ok r) : Attained c r
  | toBase {q : Quantity} (h : Attained c q) : Attained c q.toBase
  | simplify {q : Quantity} (h : Attained c q) :
      Attained c ((Simplifier.ofCatalog c).simplify q)
  | neg {q : Quantity} (h : Attained c q) : Attained c q.neg
  | add {q r : Quantity} {o : Amount} (h : Attained c q) (sum : q.add o = .ok r) : Attained c r
  | sub {q r : Quantity} {o : Amount} (h : Attained c q) (difference : q.sub o = .ok r) :
      Attained c r
  | mul_number {q : Quantity} (h : Attained c q) (n : Rat) : Attained c (q.mul (.number n))
  | mul {a b : Quantity} (ha : Attained c a) (hb : Attained c b) :
      Attained c (a.mul (.quantity b))
  | div_number {q r : Quantity} {n : Rat} (h : Attained c q)
      (divided : q.div (.number n) = .ok r) : Attained c r
  | divInto {q r : Quantity} {n : Rat} (h : Attained c q) (divided : q.divInto n = .ok r) :
      Attained c r
  | div {a b r : Quantity} (ha : Attained c a) (hb : Attained c b)
      (divided : a.div (.quantity b) = .ok r) : Attained c r
  | pow {q r : Quantity} {n : Int} (h : Attained c q) (power : q.pow n = .ok r) : Attained c r

theorem factor_pos_of_divInto {n : Rat} (hb : 0 < b.scale.factor) (h : b.divInto n = .ok r) :
    0 < r.scale.factor := by
  obtain ⟨x, scale, inverse, rfl⟩ := divInto_cases h
  exact Scale.factor_pos_of_pow hb inverse

/-- One case for each step: what every run keeps. -/
theorem Attained.factor_pos (h : Attained c q) : 0 < q.scale.factor := by
  induction h with
  | inUnit written =>
    obtain ⟨s, read, rfl⟩ := map_eq_ok_iff.1 written
    exact c.factor_pos_of_unit read
  | convert h converted ih =>
    -- the unit that is converted to is read with a hint, from the same catalog
    obtain ⟨u, x, read, -, -, rfl⟩ := convert_eq_ok_iff.1 converted
    exact c.factor_pos_of_unit read
  | toBase h ih => exact one_pos
  | @simplify q h ih =>
    obtain ⟨label, same⟩ := Simplifier.exists_label_of_simplify (c := c) q
    rw [same]
    exact ih
  | neg h ih | mul_number h n ih => exact ih
  | add h sum ih =>
    obtain ⟨x, rfl⟩ := add_cases sum
    exact ih
  | sub h difference ih =>
    obtain ⟨x, rfl⟩ := sub_cases difference
    exact ih
  | @mul a b ha hb ihA ihB =>
    rcases mul_cases a b with ⟨-, x, same⟩ | ⟨-, x, same⟩ | ⟨-, -, same⟩
    · rw [same]
      exact ihA
    · rw [same]
      exact ihB
    · rw [same]
      exact mul_pos ihA ihB
  | div_number h divided ih =>
    obtain ⟨x, rfl⟩ := div_number_cases divided
    exact ih
  | divInto h divided ih => exact factor_pos_of_divInto ih divided
  | @div a b r ha hb divided ihA ihB =>
    rcases div_cases divided with ⟨-, x, rfl⟩ | ⟨-, -, reciprocal⟩ | ⟨-, -, x, scale, quotient, rfl⟩
    · exact ihA
    · exact factor_pos_of_divInto ihB reciprocal
    · exact Scale.factor_pos_of_div ihA ihB quotient
  | pow h power ih =>
    obtain ⟨x, scale, raised, rfl⟩ := pow_cases power
    exact Scale.factor_pos_of_pow ih raised

/-! ## What fails -/

theorem convert_ne_zeroFactor (target : String) : q.convert c target ≠ .error .zeroFactor := by
  unfold convert
  intro h
  split at h
  · next u read =>
    split at h
    · cases h
    · exact Scale.convert_ne_zeroFactor (c.factor_pos_of_unit read).ne' _ _ (map_eq_error_iff.1 h)
  · next failed =>
    cases h
    cases Catalog.refusal_of_unit failed

/-- Amounts are added on the scale of the left one. -/
theorem aligned_ne_zeroFactor (nonzero : q.scale.factor ≠ 0) (action : String) (o : Quantity) :
    q.aligned action o ≠ .error .zeroFactor := by
  unfold aligned
  intro h
  split at h
  · cases h
  · split at h
    · cases h
    · split at h
      · cases h
      · exact Scale.convert_ne_zeroFactor nonzero _ _ h

/-- A quantity divides a number unless its value is zero or its unit has no reciprocal. -/
theorem divInto_eq_error_iff {n : Rat} :
    q.divInto n = .error f ↔
      (q.value = 0 ∧ f = .divisionByZero) ∨ (q.value ≠ 0 ∧ q.scale.inverse = .error f) := by
  by_cases zero : q.value = 0
  · simp [divInto, zero, eq_comm]
  · simp [divInto, zero, map_eq_error_iff]

theorem div_number_eq_error_iff {n : Rat} :
    q.div (.number n) = .error f ↔ n = 0 ∧ f = .divisionByZero := by
  by_cases zero : n = 0
  · simp [div, zero, eq_comm]
  · simp [div, zero]

/-- The unit of the divisor is inverted only for a dividend that is a pure number. -/
theorem div_eq_error_iff (nonzero : b.scale.factor ≠ 0) :
    a.div (.quantity b) = .error f ↔
      (b.value = 0 ∧ f = .divisionByZero) ∨
        (b.value ≠ 0 ∧ b.isScalar = false ∧ a.isScalar = true ∧ b.scale.inverse = .error f) := by
  by_cases zero : b.value = 0
  · have failed : a.div (.quantity b) = .error .divisionByZero := if_pos zero
    simp only [failed, zero, true_and, ne_eq, not_true_eq_false, false_and, or_false,
      Except.error.injEq]
    exact eq_comm
  cases scalarB : b.isScalar with
  | true => simp [div, zero, scalarB]
  | false =>
    cases scalarA : a.isScalar with
    | true => simp [div, zero, scalarA, scalarB, divInto_eq_error_iff]
    | false => simp [div, zero, scalarA, scalarB, Scale.div_of_ne_zero nonzero, Except.map]

/-- The unit of a pure number has a reciprocal. -/
theorem inverse_of_isScalar (h : q.isScalar = true) : q.scale.inverse ≠ .error f := by
  obtain ⟨dimension, factor⟩ := Scale.dropOffset_eq_iff (t := Scale.one).1 (isScalar_iff.1 h).1
  intro failed
  have nonzero : q.scale.factor ≠ 0 := by
    rw [factor]
    exact one_ne_zero
  have far := ((Scale.inverse_eq_error_iff nonzero).1 failed).1
  rw [dimension] at far
  exact absurd far (by decide)

end Quantity

namespace Amount

variable {c : Catalog} {a b : Amount} {f : Failure}

/-- A plain number is what the empty unit text makes of it. -/
theorem attained_lift_number (c : Catalog) (n : Rat) :
    Quantity.Attained c (lift (.number n)) :=
  .inUnit (Quantity.inUnit_of_unit (Label.unit_empty c) n)

/-- Sums are taken on the scale of the left operand. -/
theorem apply_add_ne_zeroFactor (nonzero : a.lift.scale.factor ≠ 0) :
    apply .add a b ≠ .error .zeroFactor := by
  intro h
  cases a with
  | quantity q =>
    have sum : q.add b = .error .zeroFactor := map_eq_error_iff.1 h
    exact Quantity.aligned_ne_zeroFactor nonzero "add" b.lift (map_eq_error_iff.1 sum)
  | number n =>
    cases b with
    | number m => cases h
    | quantity q => exact Quantity.aligned_ne_zeroFactor nonzero "add" q (map_eq_error_iff.1 h)

theorem apply_sub_ne_zeroFactor (nonzero : a.lift.scale.factor ≠ 0) :
    apply .sub a b ≠ .error .zeroFactor := by
  intro h
  cases a with
  | quantity q =>
    have difference : q.sub b = .error .zeroFactor := map_eq_error_iff.1 h
    exact Quantity.aligned_ne_zeroFactor nonzero "subtract" b.lift (map_eq_error_iff.1 difference)
  | number n =>
    cases b with
    | number m => cases h
    | quantity q => exact Quantity.aligned_ne_zeroFactor nonzero "subtract" q (map_eq_error_iff.1 h)

theorem exists_apply_mul (a b : Amount) : ∃ r, apply .mul a b = .ok r := by
  cases a with
  | quantity q => exact ⟨_, rfl⟩
  | number n =>
    cases b with
    | number m => exact ⟨_, rfl⟩
    | quantity q => exact ⟨_, rfl⟩

theorem isScalar_lift_number (n : Rat) : (lift (.number n)).isScalar = true := by
  have unity : Label.isUnity "" = true := by decide
  exact Quantity.isScalar_iff.2 ⟨rfl, unity⟩

/-- A division fails because the value of the divisor is zero or, with a pure number as dividend,
because the unit of the divisor has no reciprocal. -/
theorem apply_div_eq_error_iff (nonzero : b.lift.scale.factor ≠ 0) :
    apply .div a b = .error f ↔
      (b.lift.value = 0 ∧ f = .divisionByZero) ∨
        (b.lift.value ≠ 0 ∧ a.lift.isScalar = true ∧ b.lift.scale.inverse = .error f) := by
  cases b with
  | number m =>
    have reciprocal := Quantity.inverse_of_isScalar (f := f) (isScalar_lift_number m)
    simp only [reciprocal, and_false, or_false]
    cases a with
    | number n =>
      rw [apply, map_eq_error_iff, applyNumbers, lift]
      by_cases zero : m = 0
      · simp [zero, eq_comm]
      · simp [zero]
    | quantity q =>
      rw [apply, applyQuantity, map_eq_error_iff, Quantity.div_number_eq_error_iff, lift]
  | quantity o =>
    cases a with
    | number n =>
      rw [apply, applyNumber, map_eq_error_iff, Quantity.divInto_eq_error_iff, isScalar_lift_number]
      simp [lift]
    | quantity q =>
      have quotient := Quantity.div_eq_error_iff (a := q) (f := f) nonzero
      change (q.div (.quantity o)).map quantity = .error f ↔ _
      rw [map_eq_error_iff]
      refine quotient.trans ?_
      cases scalar : o.isScalar with
      | true => simp [lift, scalar, Quantity.inverse_of_isScalar scalar]
      | false => simp [lift, scalar]

/-- Where a quantity is raised, an amount that is no exponent fails as such. -/
theorem exponent_ne_divisionByZero (label : String) (a : Amount) :
    a.exponent label ≠ .error .divisionByZero := by
  have whole (n : Rat) : exponent.whole label n ≠ .error .divisionByZero := by
    intro h
    unfold exponent.whole at h
    split at h
    · cases h
    · cases h
  cases a with
  | number n => exact whole n
  | quantity q =>
    intro h
    unfold exponent at h
    dsimp only at h
    split at h
    · exact whole _ h
    · cases h

/-- Zero is raised to a negative power only as a value, not as the factor of a unit. -/
theorem zero_of_apply_pow {q : Quantity} (nonzero : q.scale.factor ≠ 0)
    (h : apply .pow (.quantity q) b = .error .divisionByZero) :
    q.value = 0 ∧ ∃ n < 0, b.exponent q.label = .ok n := by
  change applyQuantity .pow q b = .error .divisionByZero at h
  unfold applyQuantity at h
  dsimp only at h
  split at h
  · next n exponent =>
    have raised := map_eq_error_iff.1 h
    unfold Quantity.pow at raised
    split at raised
    · obtain ⟨-, zero, negative⟩ :=
        Number.integerPower_eq_error_iff.1 (map_eq_error_iff.1 raised)
      exact ⟨zero, n, negative, exponent⟩
    · next failed =>
      cases raised
      cases Scale.powerTooHigh_of_pow nonzero failed
  · next failed =>
    cases h
    exact absurd failed (exponent_ne_divisionByZero q.label b)

end Amount

namespace Quantity

/-- Only a zero value divides by zero. In every catalog, no unit text does; along every run the
factors of units stay positive, so that values can be brought to them; and an operation on what
runs lead to, plain numbers included, divides by zero only because a value is zero: that of the
divisor, or that of what is raised to a negative power. -/
theorem zero_divisors (c : Catalog) :
    (∀ text hint, c.unit text hint ≠ .error .divisionByZero) ∧
      (∀ q, Attained c q → 0 < q.scale.factor ∧ (∀ x, q.scale.fromSI x ≠ .error .zeroFactor) ∧
        ∀ target, q.convert c target ≠ .error .zeroFactor) ∧
      ∀ a b : Amount, Attained c a.lift → Attained c b.lift →
        Amount.apply .add a b ≠ .error .zeroFactor ∧
        Amount.apply .sub a b ≠ .error .zeroFactor ∧
        (∃ r, Amount.apply .mul a b = .ok r) ∧
        (Amount.apply .div a b = .error .divisionByZero ↔ b.lift.value = 0) ∧
        ∀ q, a = .quantity q → Amount.apply .pow a b = .error .divisionByZero →
          q.value = 0 ∧ ∃ n < 0, b.exponent q.label = .ok n := by
  refine ⟨fun text hint failed => ?_, fun q h => ?_, fun a b ha hb => ?_⟩
  · cases Catalog.refusal_of_unit failed
  · have positive := h.factor_pos
    refine ⟨positive, fun x failed => ?_, fun target => convert_ne_zeroFactor target⟩
    rw [Scale.fromSI_of_ne_zero positive.ne'] at failed
    cases failed
  · have left := ha.factor_pos.ne'
    have right := hb.factor_pos.ne'
    refine ⟨Amount.apply_add_ne_zeroFactor left, Amount.apply_sub_ne_zeroFactor left,
      Amount.exists_apply_mul a b, ?_, ?_⟩
    · rw [Amount.apply_div_eq_error_iff right]
      constructor
      · rintro (⟨zero, -⟩ | ⟨-, -, failed⟩)
        · exact zero
        · cases ((Scale.inverse_eq_error_iff right).1 failed).2
      · exact fun zero => .inl ⟨zero, rfl⟩
    · rintro q rfl raised
      exact Amount.zero_of_apply_pow left raised

/-- Zero degrees Celsius are no zero temperature, but it is the value that counts: nothing is
divided by them, although their unit has a positive factor. -/
theorem zero_divisors_celsius :
    Attained Catalog.standard ⟨0, celsius, "C"⟩ ∧ 0 < celsius.factor ∧
      siValue ⟨0, celsius, "C"⟩ ≠ 0 ∧
      Amount.apply .div (.number 1) (.quantity ⟨0, celsius, "C"⟩) = .error .divisionByZero := by
  have written : Attained Catalog.standard ⟨0, celsius, "C"⟩ := .inUnit (inUnit_celsius 0)
  obtain ⟨-, runs, operations⟩ := zero_divisors Catalog.standard
  obtain ⟨-, -, -, quotient, -⟩ := operations (.number 1) (.quantity ⟨0, celsius, "C"⟩)
    (Amount.attained_lift_number _ 1) written
  refine ⟨written, (runs _ written).1, ?_, quotient.2 rfl⟩
  decide +kernel

end Quantity

end Metrology
