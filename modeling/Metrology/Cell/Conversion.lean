import Metrology.Cell.Operation

/-!
# Conversion of cells

Values that pass from one scale to another just as they were supplied. Integers, fractions and
truth values are converted exactly. A double stays a double: factor and offset are rounded to
the nearest double, and each step rounds again. A quantity is treated as the number it carries.
No other cell can be converted, but one that stays on its own scale is left alone whatever it is.
-/

namespace Metrology.Cell

/-- Two doubles joined by an operator of arithmetic. -/
def doubleArithmetic (op : Operator) (x y : Double) : Except Failure Double :=
  match op with
  | .add => .ok (x.add y)
  | .sub => .ok (x.sub y)
  | .mul => .ok (x.mul y)
  | .div => if y.isZero then .error .divisionByZero else .ok (x.div y)
  | .pow => .ok (x.power y)

/-- A cell joined with an exact number behind it. -/
def withExact (op : Operator) (c : Cell) (q : Rat) : Except Failure Cell :=
  match c with
  | truth b => (Amount.applyNumbers op (if b then 1 else 0) q).map ofRat
  | number (.integer n) => (Amount.applyNumbers op n q).map ofRat
  | number (.fraction x) => (Amount.applyNumbers op x q).map ofRat
  | number (.double x) =>
    match Double.nearest q with
    | .finite negative m e =>
      (doubleArithmetic op x (.finite negative m e)).map fun y => number (.double y)
    | _ => .error .quotientTooLarge
  | quantity p => (Amount.applyQuantity op p (.number q)).map ofAmount
  | _ => .error .unsupported

/-- A cell on a scale, in the coherent SI unit. -/
def toSI (s : Scale) (c : Cell) : Except Failure Cell := do
  let c ← if s.hasOffset then c.withExact .add s.offset else .ok c
  c.withExact .mul s.factor

/-- A cell in the coherent SI unit, on a scale. -/
def fromSI (s : Scale) (c : Cell) : Except Failure Cell := do
  if s.factor = 0 then .error .zeroFactor
  else
    let c ← c.withExact .div s.factor
    if s.hasOffset then c.withExact .sub s.offset else .ok c

/-- A cell measured on `source`, on the scale `target`. -/
def convert (source target : Scale) (c : Cell) : Except Failure Cell :=
  if source.dimension ≠ target.dimension then
    .error (.mismatch source.dimension.text target.dimension.text "convert")
  else if source = target then .ok c
  else do fromSI target (← toSI source c)

/-- An exact number is converted as the scale says. -/
theorem toSI_ofRat (s : Scale) (q : Rat) : toSI s (ofRat q) = .ok (ofRat (s.toSI q)) := by
  unfold toSI Scale.toSI
  by_cases offset : s.offset = 0
  · have plain : q + s.offset = q := by rw [offset, Rat.add_zero]
    rw [plain]
    simp [Scale.hasOffset, offset, withExact, ofRat, Amount.applyNumbers, Except.map, bind,
      Except.bind]
  · simp [Scale.hasOffset, offset, withExact, ofRat, Amount.applyNumbers, Except.map, bind,
      Except.bind]

/-- An exact number is brought onto a scale as the scale says. -/
theorem fromSI_ofRat (s : Scale) (q : Rat) : fromSI s (ofRat q) = (s.fromSI q).map ofRat := by
  unfold fromSI Scale.fromSI
  by_cases zero : s.factor = 0
  · rw [if_pos zero, if_pos zero]
    rfl
  · by_cases offset : s.offset = 0
    · have plain : q / s.factor - s.offset = q / s.factor := by
        rw [offset, Rat.sub_eq_add_neg, Rat.neg_zero, Rat.add_zero]
      rw [plain]
      simp [Scale.hasOffset, zero, offset, withExact, ofRat, Amount.applyNumbers, Except.map, bind,
        Except.bind]
    · simp [Scale.hasOffset, zero, offset, withExact, ofRat, Amount.applyNumbers, Except.map, bind,
        Except.bind]

/-- An exact number is converted from scale to scale as the scales say. -/
theorem convert_ofRat (source target : Scale) (q : Rat) :
    convert source target (ofRat q) = (Scale.convert source target q).map ofRat := by
  unfold convert Scale.convert
  split
  · rfl
  · split
    · rfl
    · rw [toSI_ofRat]
      exact fromSI_ofRat target (source.toSI q)

end Metrology.Cell
