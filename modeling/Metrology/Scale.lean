import Metrology.Dimension.Named

/-!
# Scales

What a unit is once its text is resolved: a dimension, the factor to the coherent SI unit, and
the place of its zero. A value `x` on a scale is `(x + offset) * factor` in SI. Only a pure
temperature scale may have an offset, and combining scales drops it.
-/

namespace Metrology

/-- A scale of measurement. -/
structure Scale where
  dimension : Dimension
  factor : Rat := 1
  offset : Rat := 0
  offset_eq_zero : dimension ≠ Dimension.ofTemperature → offset = 0
  deriving DecidableEq

namespace Scale

/-- A scale that measures from zero. -/
def linear (dimension : Dimension) (factor : Rat := 1) : Scale :=
  { dimension, factor, offset := 0, offset_eq_zero := fun _ => rfl }

/-- The scale of pure numbers. -/
def one : Scale := linear Dimension.one

/-- The scale with the given parts; an offset needs the dimension of temperature. -/
def make (dimension : Dimension) (factor offset : Rat) : Except Failure Scale :=
  if h : offset = 0 ∨ dimension = Dimension.ofTemperature then
    .ok { dimension, factor, offset,
          offset_eq_zero := fun other => h.resolve_right other }
  else .error .offsetDimension

/-- A scale that does not measure from zero. -/
def hasOffset (s : Scale) : Bool := s.offset ≠ 0

/-- A scale of pure numbers. -/
def isDimensionless (s : Scale) : Bool := s.dimension = Dimension.one

/-- Scales of one dimension convert into each other. -/
def isCompatible (s t : Scale) : Bool := s.dimension = t.dimension

/-- The scale without its offset. -/
def dropOffset (s : Scale) : Scale := linear s.dimension s.factor

/-! ## Values -/

/-- A value in the coherent SI unit. -/
def toSI (s : Scale) (x : Rat) : Rat := (x + s.offset) * s.factor

/-- An SI value on the scale. -/
def fromSI (s : Scale) (x : Rat) : Except Failure Rat :=
  if s.factor = 0 then .error .zeroFactor else .ok (x / s.factor - s.offset)

/-- A value measured on `source`, on the scale `target`. -/
def convert (source target : Scale) (x : Rat) : Except Failure Rat :=
  if source.dimension ≠ target.dimension then
    .error (.mismatch source.dimension.text target.dimension.text "convert")
  else if source = target then .ok x
  else target.fromSI (source.toSI x)

/-! ## Composition -/

/-- The scale of a product. -/
def mul (s t : Scale) : Scale := linear (s.dimension.mul t.dimension) (s.factor * t.factor)

/-- The scale of a quotient. -/
def div (s t : Scale) : Except Failure Scale :=
  if t.factor = 0 then .error .divisionByZero
  else .ok (linear (s.dimension.div t.dimension) (s.factor / t.factor))

/-- The scale of a power. The first power is the scale itself, offset included; neither the
exponent nor an exponent of the result may exceed the limit. -/
def pow (s : Scale) (n : Int) : Except Failure Scale :=
  if n = 1 then .ok s
  else if exponentLimit < n.natAbs ∨ exponentLimit < (s.dimension.pow n).maxExponent then
    .error (.powerTooHigh (toString n))
  else if s.factor = 0 ∧ n < 0 then .error .divisionByZero
  else .ok (linear (s.dimension.pow n) (s.factor ^ n))

/-- The scale of a reciprocal. -/
def inverse (s : Scale) : Except Failure Scale := s.pow (-1)

@[simp] theorem dimension_linear (d : Dimension) (f : Rat) : (linear d f).dimension = d := rfl

@[simp] theorem factor_linear (d : Dimension) (f : Rat) : (linear d f).factor = f := rfl

@[simp] theorem offset_linear (d : Dimension) (f : Rat) : (linear d f).offset = 0 := rfl

/-- A scale is known by its dimension, factor and offset. -/
theorem eq_of_parts {s t : Scale} (dimension : s.dimension = t.dimension)
    (factor : s.factor = t.factor) (offset : s.offset = t.offset) : s = t := by
  cases s
  cases t
  simp only at dimension factor offset
  subst dimension factor offset
  rfl

end Scale

end Metrology
