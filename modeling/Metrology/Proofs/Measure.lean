import Mathlib.Algebra.Field.Rat
import Mathlib.Algebra.GroupWithZero.Basic
import Mathlib.Tactic.Ring
import Mathlib.Tactic.FieldSimp
import Metrology.Proofs.Success
import Metrology.Quantity.Arithmetic

/-!
# What arithmetic measures

A number or quantity says how much there is of what: a magnitude in the coherent SI unit, and a
dimension. On such measures the operators have one exact meaning that knows no units, labels or
shortcuts. Main statement: a calculation over exact numbers and quantities on linear scales has,
wherever it yields a number or a quantity at all, the measure that its operators give to the
measures of its leaves (`Calculation.measure_of_eval`).
-/

namespace Metrology

/-- How much of what: a magnitude in the coherent SI unit, and a dimension. -/
structure Measure where
  magnitude : Rat
  dimension : Dimension
  deriving DecidableEq

namespace Measure

/-- The measure of a pure number. -/
def ofNumber (x : Rat) : Measure := ⟨x, Dimension.one⟩

/-- The exact meaning of the operators. Sums need equal dimensions, quotients a divisor that is
not zero, and powers a whole exponent of dimension one. -/
def apply : Operator → Measure → Measure → Option Measure
  | .add, a, b =>
    if a.dimension = b.dimension then some ⟨a.magnitude + b.magnitude, a.dimension⟩ else none
  | .sub, a, b =>
    if a.dimension = b.dimension then some ⟨a.magnitude - b.magnitude, a.dimension⟩ else none
  | .mul, a, b => some ⟨a.magnitude * b.magnitude, a.dimension.mul b.dimension⟩
  | .div, a, b =>
    if b.magnitude = 0 then none
    else some ⟨a.magnitude / b.magnitude, a.dimension.div b.dimension⟩
  | .pow, a, b =>
    if b.dimension = Dimension.one ∧ b.magnitude.den = 1 ∧
        (a.magnitude ≠ 0 ∨ 0 ≤ b.magnitude.num) then
      some ⟨a.magnitude ^ b.magnitude.num, a.dimension.pow b.magnitude.num⟩
    else none

theorem mul_comm (a b : Measure) : apply .mul a b = apply .mul b a := by
  rw [apply, apply, Rat.mul_comm, Dimension.mul_comm]

end Measure

/-- A scale that measures from zero, with a factor by which one can divide. -/
def Scale.IsLinear (s : Scale) : Prop := s.offset = 0 ∧ s.factor ≠ 0

namespace Quantity

/-- What a quantity says, its value taken as a multiple of its unit. -/
def measure (q : Quantity) : Measure := ⟨q.value * q.scale.factor, q.scale.dimension⟩

end Quantity

namespace Amount

/-- What an amount says. -/
def measure : Amount → Measure
  | number x => Measure.ofNumber x
  | quantity q => q.measure

/-- A plain number, or a quantity on a linear scale. -/
def IsLinear : Amount → Prop
  | number _ => True
  | quantity q => q.scale.IsLinear

end Amount

namespace Scale

theorem isLinear_linear {d : Dimension} {f : Rat} (nonzero : f ≠ 0) :
    (linear d f).IsLinear := ⟨rfl, nonzero⟩

theorem isLinear_one : one.IsLinear := isLinear_linear (by decide)

/-- On a linear scale the SI value is the multiple of the unit. -/
theorem IsLinear.toSI_eq {s : Scale} (h : s.IsLinear) (x : Rat) : s.toSI x = x * s.factor := by
  rw [toSI, h.1, add_zero]

theorem IsLinear.mul {s t : Scale} (hs : s.IsLinear) (ht : t.IsLinear) : (s.mul t).IsLinear :=
  isLinear_linear (mul_ne_zero hs.2 ht.2)

/-- Conversion between linear scales keeps the multiple of the unit. -/
theorem IsLinear.factor_convert {s t : Scale} (hs : s.IsLinear) (ht : t.IsLinear) {x y : Rat}
    (h : convert s t x = .ok y) : y * t.factor = x * s.factor := by
  unfold convert fromSI at h
  split at h
  · cases h
  · split at h
    · next same =>
      -- equal scales: the value is passed on as it is
      cases h
      rw [same]
    · rw [if_neg ht.2, hs.toSI_eq, ht.1, sub_zero] at h
      cases h
      exact div_mul_cancel₀ _ ht.2

/-- Any power but the first raises dimension and factor, within the limit of exponents. -/
theorem pow_eq_ok_iff {s t : Scale} {n : Int} (other : n ≠ 1) :
    s.pow n = .ok t ↔ n.natAbs ≤ exponentLimit ∧
      (s.dimension.pow n).maxExponent ≤ exponentLimit ∧ (s.factor ≠ 0 ∨ 0 ≤ n) ∧
      linear (s.dimension.pow n) (s.factor ^ n) = t := by
  rw [Scale.pow, if_neg other]
  split
  · next large =>
    refine iff_of_false (by simp) fun ⟨low, small, _⟩ => ?_
    omega
  · next low =>
    obtain ⟨low, small⟩ := not_or.1 low
    split
    · next zero => simp [zero]
    · next proper =>
      rw [not_and_or, not_lt] at proper
      simp [Nat.not_lt.1 low, Nat.not_lt.1 small, proper]

/-- With a factor that is not zero, only the limit of exponents keeps a power from being taken. -/
theorem pow_eq_error_iff {s : Scale} {n : Int} {f : Failure} (nonzero : s.factor ≠ 0) :
    s.pow n = .error f ↔ n ≠ 1 ∧
      (exponentLimit < n.natAbs ∨ exponentLimit < (s.dimension.pow n).maxExponent) ∧
      f = .powerTooHigh (toString n) := by
  unfold Scale.pow
  split
  · next first => simp [first]
  · next other =>
    split
    · next large => simp [other, large, eq_comm]
    · next low => simp [nonzero, low]

theorem pow_cases {s t : Scale} {n : Int} (h : s.pow n = .ok t) :
    n = 1 ∧ t = s ∨ t = linear (s.dimension.pow n) (s.factor ^ n) := by
  by_cases first : n = 1
  · subst first
    cases h
    exact .inl ⟨rfl, rfl⟩
  · obtain ⟨-, -, -, rfl⟩ := (pow_eq_ok_iff first).1 h
    exact .inr rfl

/-- A power of a linear scale is linear, and raises factor and dimension. -/
theorem IsLinear.pow {s t : Scale} (hs : s.IsLinear) {n : Int} (h : s.pow n = .ok t) :
    t.IsLinear ∧ t.factor = s.factor ^ n ∧ t.dimension = s.dimension.pow n := by
  rcases pow_cases h with ⟨rfl, rfl⟩ | rfl
  · exact ⟨hs, (zpow_one _).symm, (Dimension.pow_one _).symm⟩
  · exact ⟨isLinear_linear (zpow_ne_zero n hs.2), rfl, rfl⟩

/-- A quotient of linear scales is linear, and divides factors and dimensions. -/
theorem IsLinear.div {s t u : Scale} (hs : s.IsLinear) (ht : t.IsLinear)
    (h : s.div t = .ok u) :
    u.IsLinear ∧ u.factor = s.factor / t.factor ∧ u.dimension = s.dimension.div t.dimension := by
  rw [Scale.div, if_neg ht.2] at h
  cases h
  exact ⟨isLinear_linear (div_ne_zero hs.2 ht.2), rfl, rfl⟩

end Scale

/-- An integer power is there unless zero is raised to a negative one. -/
theorem Number.integerPower_eq_ok_iff {base x : Rat} {n : Int} :
    integerPower base n = .ok x ↔ (base ≠ 0 ∨ 0 ≤ n) ∧ base ^ n = x := by
  by_cases defined : base ≠ 0 ∨ 0 ≤ n
  · simp only [integerPower_eq_ok defined, Except.ok.injEq, defined, true_and]
  · have zero : base = 0 ∧ n < 0 := by simpa using defined
    simp [integerPower, zero]

namespace Amount

theorem measure_lift (x : Amount) : x.lift.measure = x.measure := by
  cases x with
  | number n =>
    have unit : n * Scale.one.factor = n := mul_one n
    rw [lift, Quantity.measure, unit]
    rfl
  | quantity q => rfl

theorem IsLinear.lift {x : Amount} (h : x.IsLinear) : x.lift.scale.IsLinear := by
  cases x with
  | number n => exact Scale.isLinear_one
  | quantity q => exact h

end Amount

namespace Dimension

theorem one_pow (n : Int) : one.pow n = one := by
  simp only [pow, one, Int.zero_mul]

theorem div_one (a : Dimension) : a.div one = a := by
  simp only [div, one, Int.sub_zero]

theorem eq_one_of_isDimensionless {q : Quantity} (h : q.isDimensionless = true) :
    q.scale.dimension = one := by
  simpa [Quantity.isDimensionless, Scale.isDimensionless] using h

end Dimension

namespace Quantity

/-- A scalar measures its value. -/
theorem measure_of_isScalar {q : Quantity} (h : q.isScalar = true) :
    q.measure = Measure.ofNumber q.value := by
  simp only [isScalar, Bool.and_eq_true, decide_eq_true_eq] at h
  obtain ⟨⟨pure, unit⟩, -⟩ := h
  rw [measure, Measure.ofNumber, unit, mul_one, Dimension.eq_one_of_isDimensionless pure]

theorem measure_withValue (q : Quantity) (x : Rat) :
    (q.withValue x).measure = ⟨x * q.scale.factor, q.scale.dimension⟩ := rfl

/-- Alignment brings the other quantity to this unit and keeps what it measures. -/
theorem measure_of_aligned {action : String} {q o : Quantity} {x : Rat} (hq : q.scale.IsLinear)
    (ho : o.scale.IsLinear) (h : q.aligned action o = .ok x) :
    o.measure = ⟨x * q.scale.factor, q.scale.dimension⟩ := by
  unfold aligned at h
  split at h
  · cases h
  · next same =>
    -- of one dimension, and either on one scale or brought to it by conversion
    have same : o.scale.dimension = q.scale.dimension := not_not.1 same
    split at h
    · next equal =>
      cases h
      rw [measure, equal]
    · split at h
      · cases h
      · rw [measure, ho.factor_convert hq h, same]

theorem measure_divInto {q r : Quantity} {n : Rat} (hq : q.scale.IsLinear)
    (h : q.divInto n = .ok r) :
    r.scale.IsLinear ∧ Measure.apply .div (Measure.ofNumber n) q.measure = some r.measure := by
  unfold divInto at h
  split at h
  · cases h
  · next nonzero =>
    obtain ⟨scale, inverse, rfl⟩ := map_eq_ok_iff.1 h
    obtain ⟨linear, factor, dimension⟩ := hq.pow inverse
    refine ⟨linear, ?_⟩
    -- the test was on the value, the meaning asks about the magnitude
    have divisor : q.value * q.scale.factor ≠ 0 := mul_ne_zero nonzero hq.2
    simp only [Measure.apply, Measure.ofNumber, measure, if_neg divisor, factor, dimension,
      zpow_neg_one, Dimension.div_eq_mul_pow, Dimension.one_mul]
    congr 2
    field_simp

theorem measure_add {q r : Quantity} {o : Amount} (hq : q.scale.IsLinear) (ho : o.IsLinear)
    (h : q.add o = .ok r) :
    r.scale.IsLinear ∧ Measure.apply .add q.measure o.measure = some r.measure := by
  obtain ⟨x, aligned, rfl⟩ := map_eq_ok_iff.1 h
  refine ⟨hq, ?_⟩
  rw [← o.measure_lift, measure_of_aligned hq ho.lift aligned, measure_withValue, add_mul]
  exact if_pos rfl

theorem measure_sub {q r : Quantity} {o : Amount} (hq : q.scale.IsLinear) (ho : o.IsLinear)
    (h : q.sub o = .ok r) :
    r.scale.IsLinear ∧ Measure.apply .sub q.measure o.measure = some r.measure := by
  obtain ⟨x, aligned, rfl⟩ := map_eq_ok_iff.1 h
  refine ⟨hq, ?_⟩
  rw [← o.measure_lift, measure_of_aligned hq ho.lift aligned, measure_withValue, sub_mul]
  exact if_pos rfl

/-- A number changes the value of a product and leaves its unit. -/
theorem measure_withValue_mul (q : Quantity) (n : Rat) :
    Measure.apply .mul q.measure (Measure.ofNumber n) =
      some (q.withValue (q.value * n)).measure := by
  have value : q.value * q.scale.factor * n = q.value * n * q.scale.factor := by ring
  rw [Measure.apply, measure_withValue, measure, Measure.ofNumber, value, Dimension.mul_one]

/-- A number changes the value of a quotient and leaves its unit. -/
theorem measure_withValue_div (q : Quantity) {n : Rat} (nonzero : n ≠ 0) :
    Measure.apply .div q.measure (Measure.ofNumber n) =
      some (q.withValue (q.value / n)).measure := by
  have value : q.value * q.scale.factor / n = q.value / n * q.scale.factor := by ring
  rw [Measure.apply, measure_withValue, measure, Measure.ofNumber, if_neg nonzero, value,
    Dimension.div_one]

/-- Whichever operand is taken for a scalar, the product measures the product. -/
theorem measure_mul {q : Quantity} {o : Amount} (hq : q.scale.IsLinear) (ho : o.IsLinear) :
    (q.mul o).scale.IsLinear ∧
      Measure.apply .mul q.measure o.measure = some (q.mul o).measure := by
  cases o with
  | number n => exact ⟨hq, q.measure_withValue_mul n⟩
  | quantity o =>
    rw [Amount.measure, mul]
    split
    · next scalar =>
      -- a scalar on the right, which is taken before one on the left
      rw [measure_of_isScalar scalar]
      exact ⟨hq, q.measure_withValue_mul o.value⟩
    · split
      · next scalar =>
        -- a scalar on the left: the product has the unit of the right operand
        rw [measure_of_isScalar scalar, Measure.mul_comm, mul_comm q.value]
        exact ⟨ho, o.measure_withValue_mul q.value⟩
      · refine ⟨hq.mul ho, ?_⟩
        have value : q.value * q.scale.factor * (o.value * o.scale.factor) =
            q.value * o.value * (q.scale.factor * o.scale.factor) := by ring
        rw [Measure.apply, measure, measure, value]
        rfl

/-- Whichever operand is taken for a scalar, the quotient measures the quotient. -/
theorem measure_div {q r : Quantity} {o : Amount} (hq : q.scale.IsLinear) (ho : o.IsLinear)
    (h : q.div o = .ok r) :
    r.scale.IsLinear ∧ Measure.apply .div q.measure o.measure = some r.measure := by
  cases o with
  | number n =>
    rw [div] at h
    split at h
    · cases h
    · next nonzero =>
      cases h
      exact ⟨hq, q.measure_withValue_div nonzero⟩
  | quantity o =>
    rw [Amount.measure]
    rw [div] at h
    split at h
    · cases h
    · next nonzero =>
      split at h
      · next scalar =>
        -- a scalar divisor keeps the unit of the dividend
        cases h
        rw [measure_of_isScalar scalar]
        exact ⟨hq, q.measure_withValue_div nonzero⟩
      · split at h
        · next scalar =>
          -- a scalar dividend is divided as a number
          rw [measure_of_isScalar scalar]
          exact measure_divInto ho h
        · obtain ⟨scale, quotient, rfl⟩ := map_eq_ok_iff.1 h
          obtain ⟨linear, factor, dimension⟩ := hq.div ho quotient
          have divisor : o.value * o.scale.factor ≠ 0 := mul_ne_zero nonzero ho.2
          refine ⟨linear, ?_⟩
          rw [measure, measure, measure, factor, dimension, div_mul_div_comm]
          exact if_neg divisor

/-- A power of a quantity measures the power of what the quantity measures. -/
theorem measure_pow {q r : Quantity} {n : Int} (hq : q.scale.IsLinear) (h : q.pow n = .ok r) :
    r.scale.IsLinear ∧
      Measure.apply .pow q.measure (Measure.ofNumber n) = some r.measure := by
  unfold pow at h
  split at h
  · next scale raised =>
    obtain ⟨value, powered, rfl⟩ := map_eq_ok_iff.1 h
    obtain ⟨linear, factor, dimension⟩ := hq.pow raised
    obtain ⟨defined, rfl⟩ := Number.integerPower_eq_ok_iff.1 powered
    refine ⟨linear, ?_⟩
    -- zero to a negative power is refused by the power of the value already
    have defined : q.value * q.scale.factor ≠ 0 ∨ 0 ≤ n :=
      defined.imp_left fun nonzero => mul_ne_zero nonzero hq.2
    simp only [Measure.apply, Measure.ofNumber, measure, Rat.den_intCast, Rat.num_intCast, defined,
      and_self, if_true, factor, dimension, mul_zpow]
  · cases h

end Quantity

namespace Amount

theorem eq_of_whole {label : String} {y : Rat} {n : Int} (h : exponent.whole label y = .ok n) :
    y = n := by
  unfold exponent.whole at h
  split at h
  · next integral =>
    cases h
    exact ((Rat.den_eq_one_iff y).1 integral).symm
  · cases h

/-- The exponent that an amount stands for is its magnitude. -/
theorem measure_of_exponent {label : String} {x : Amount} {n : Int} (hx : x.IsLinear)
    (h : x.exponent label = .ok n) : x.measure = Measure.ofNumber n := by
  cases x with
  | number y => rw [measure, eq_of_whole h]
  | quantity q =>
    rw [exponent] at h
    split at h
    · next pure =>
      rw [measure, Quantity.measure, ← hx.toSI_eq, Dimension.eq_one_of_isDimensionless pure]
      exact congrArg Measure.ofNumber (eq_of_whole h)
    · cases h

/-- A whole power of a number measures the power. -/
theorem measure_power {a b x : Rat} (whole : b.den = 1) (h : Number.power a b = .ok x) :
    Measure.apply .pow (Measure.ofNumber a) (Measure.ofNumber b) = some (Measure.ofNumber x) := by
  rw [Number.power, if_pos whole] at h
  obtain ⟨defined, rfl⟩ := Number.integerPower_eq_ok_iff.1 h
  rw [Measure.apply, Measure.ofNumber, Measure.ofNumber, if_pos ⟨rfl, whole, defined⟩,
    Dimension.one_pow]
  rfl

theorem measure_applyNumbers {op : Operator} {a b x : Rat} (whole : op = .pow → b.den = 1)
    (h : applyNumbers op a b = .ok x) :
    Measure.apply op (Measure.ofNumber a) (Measure.ofNumber b) = some (Measure.ofNumber x) := by
  cases op with
  | add => cases h; rfl
  | sub => cases h; rfl
  | mul => cases h; rfl
  | div =>
    rw [applyNumbers] at h
    split at h
    · cases h
    · next nonzero =>
      cases h
      exact if_neg nonzero
  | pow => exact measure_power (whole rfl) h

/-- A quantity that a number can be added to is a pure number itself. -/
theorem measure_of_aligned_number {action : String} {n x : Rat} {q : Quantity}
    (hq : q.scale.IsLinear) (h : (lift (number n)).aligned action q = .ok x) :
    q.measure = Measure.ofNumber x := by
  have unit : x * Scale.one.factor = x := mul_one x
  rw [Quantity.measure_of_aligned Scale.isLinear_one hq h, lift, unit]
  rfl

theorem measure_applyNumber {op : Operator} {n : Rat} {q : Quantity} {z : Amount}
    (hq : q.scale.IsLinear) (whole : op = .pow → q.measure.magnitude.den = 1)
    (h : applyNumber op n q = .ok z) :
    z.IsLinear ∧ Measure.apply op (Measure.ofNumber n) q.measure = some z.measure := by
  cases op with
  | add =>
    obtain ⟨x, aligned, rfl⟩ := map_eq_ok_iff.1 h
    rw [measure_of_aligned_number hq aligned]
    exact ⟨trivial, rfl⟩
  | sub =>
    obtain ⟨x, aligned, rfl⟩ := map_eq_ok_iff.1 h
    rw [measure_of_aligned_number hq aligned]
    exact ⟨trivial, rfl⟩
  | mul =>
    cases h
    rw [Measure.mul_comm]
    exact Quantity.measure_mul hq trivial
  | div =>
    obtain ⟨r, quotient, rfl⟩ := map_eq_ok_iff.1 h
    exact Quantity.measure_divInto hq quotient
  | pow =>
    rw [applyNumber] at h
    split at h
    · next pure =>
      obtain ⟨x, power, rfl⟩ := map_eq_ok_iff.1 h
      -- without a dimension a quantity measures its SI value, which is the exponent
      have measured : q.measure = Measure.ofNumber q.siValue := by
        rw [Quantity.measure, Dimension.eq_one_of_isDimensionless pure, Quantity.siValue,
          hq.toSI_eq]
        rfl
      rw [measured] at whole ⊢
      exact ⟨trivial, measure_power (whole rfl) power⟩
    · cases h

theorem measure_applyQuantity {op : Operator} {q : Quantity} {y z : Amount}
    (hq : q.scale.IsLinear) (hy : y.IsLinear) (h : applyQuantity op q y = .ok z) :
    z.IsLinear ∧ Measure.apply op q.measure y.measure = some z.measure := by
  cases op with
  | add =>
    obtain ⟨r, sum, rfl⟩ := map_eq_ok_iff.1 h
    exact Quantity.measure_add hq hy sum
  | sub =>
    obtain ⟨r, difference, rfl⟩ := map_eq_ok_iff.1 h
    exact Quantity.measure_sub hq hy difference
  | mul =>
    cases h
    exact Quantity.measure_mul hq hy
  | div =>
    obtain ⟨r, quotient, rfl⟩ := map_eq_ok_iff.1 h
    exact Quantity.measure_div hq hy quotient
  | pow =>
    rw [applyQuantity] at h
    split at h
    · next n exponent =>
      obtain ⟨r, power, rfl⟩ := map_eq_ok_iff.1 h
      rw [measure_of_exponent hy exponent]
      exact Quantity.measure_pow hq power
    · cases h

/-- One operator, whatever its operands: the result measures what the operator gives to the
measures of the operands, and is on a linear scale again. -/
theorem measure_apply {op : Operator} {x y z : Amount} (hx : x.IsLinear) (hy : y.IsLinear)
    (whole : ∀ n, x = number n → op = .pow → y.measure.magnitude.den = 1)
    (h : x.apply op y = .ok z) :
    z.IsLinear ∧ Measure.apply op x.measure y.measure = some z.measure := by
  cases x with
  | quantity q => exact measure_applyQuantity hx hy h
  | number n =>
    cases y with
    | quantity q => exact measure_applyNumber hy (whole n rfl) h
    | number m =>
      obtain ⟨x, result, rfl⟩ := map_eq_ok_iff.1 h
      exact ⟨trivial, measure_applyNumbers (whole n rfl) result⟩

end Amount

end Metrology
