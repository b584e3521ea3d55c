import Metrology.Quantity

/-!
# Arithmetic of amounts

Sums take quantities of one dimension and give a result in the unit of the left operand; a
temperature is only added to one on the same scale. Products and quotients compose scales and
labels, except that a pure number leaves the unit of the other operand as it is. A sum that a
plain number leads is a plain number.
-/

namespace Metrology

/-- The arithmetic operators. -/
inductive Operator where
  | add
  | sub
  | mul
  | div
  | pow
  deriving DecidableEq

namespace Operator

/-- The operator that a sign spells. -/
def ofSign? (sign : String) : Option Operator :=
  [("+", add), ("-", sub), ("*", mul), ("×", mul), ("/", div), ("÷", div), ("^", pow),
    ("**", pow)].lookup sign

/-- The sign of an operator in messages. -/
def sign : Operator → String
  | add => "+"
  | sub => "-"
  | mul => "*"
  | div => "/"
  | pow => "^"

end Operator

/-- An amount as a quantity; a plain number has no unit. -/
def Amount.lift : Amount → Quantity
  | .number n => { value := n }
  | .quantity q => q

/-- The integer that an amount stands for as an exponent of a quantity labelled `label`: a
whole number, or a quantity of dimension one with a whole SI value. -/
def Amount.exponent (label : String) : Amount → Except Failure Int
  | .number n => whole n
  | .quantity q =>
    if q.isDimensionless then whole q.siValue
    else .error (.fractionalExponent q.text label)
where
  whole (n : Rat) : Except Failure Int :=
    if n.den = 1 then .ok n.num
    else .error (.fractionalExponent (Number.format Number.defaultPrecision n) label)

namespace Quantity

/-- The value of another quantity on the scale of this one. -/
def aligned (action : String) (q other : Quantity) : Except Failure Rat :=
  if other.dimension ≠ q.dimension then .error (.mismatch q.label other.label action)
  else if other.scale = q.scale then .ok other.value
  else if q.dimension = Dimension.ofTemperature then
    .error (.temperatureScales q.label other.label)
  else Scale.convert other.scale q.scale other.value

/-- The same unit with another value. -/
def withValue (q : Quantity) (value : Rat) : Quantity := { q with value }

def neg (q : Quantity) : Quantity := q.withValue (-q.value)

def add (q : Quantity) (other : Amount) : Except Failure Quantity :=
  (q.aligned "add" other.lift).map fun x => q.withValue (q.value + x)

def sub (q : Quantity) (other : Amount) : Except Failure Quantity :=
  (q.aligned "subtract" other.lift).map fun x => q.withValue (q.value - x)

def mul (q : Quantity) : Amount → Quantity
  | .number n => q.withValue (q.value * n)
  | .quantity o =>
    if o.isScalar then q.withValue (q.value * o.value)
    else if q.isScalar then o.withValue (q.value * o.value)
    else
      { value := q.value * o.value
        scale := q.scale.mul o.scale
        label := Label.product q.label o.label }

/-- A plain number divided by a quantity. -/
def divInto (q : Quantity) (n : Rat) : Except Failure Quantity :=
  if q.value = 0 then .error .divisionByZero
  else
    q.scale.inverse.map fun scale =>
      { value := n / q.value, scale, label := Label.quotient "" q.label }

def div (q : Quantity) : Amount → Except Failure Quantity
  | .number n =>
    if n = 0 then .error .divisionByZero else .ok (q.withValue (q.value / n))
  | .quantity o =>
    if o.value = 0 then .error .divisionByZero
    else if o.isScalar then .ok (q.withValue (q.value / o.value))
    else if q.isScalar then o.divInto q.value
    else
      (q.scale.div o.scale).map fun scale =>
        { value := q.value / o.value, scale, label := Label.quotient q.label o.label }

/-- An integer power. The scale is raised first, so that an exponent that is too large fails
before the value grows. -/
def pow (q : Quantity) (n : Int) : Except Failure Quantity :=
  match q.scale.pow n with
  | .ok scale =>
    (Number.integerPower q.value n).map fun value =>
      { value, scale, label := Label.power q.label n }
  | .error f => .error f

end Quantity

namespace Amount

/-- A number in front of a quantity. -/
def applyNumber (op : Operator) (n : Rat) (q : Quantity) : Except Failure Amount :=
  match op with
  | .add => ((lift (.number n)).aligned "add" q).map fun x => number (n + x)
  | .sub => ((lift (.number n)).aligned "subtract" q).map fun x => number (n - x)
  | .mul => .ok (quantity (q.mul (number n)))
  | .div => (q.divInto n).map quantity
  | .pow =>
    if q.isDimensionless then (Number.power n q.siValue).map number
    else .error (.fractionalExponent q.text "")

/-- A quantity in front of any amount. -/
def applyQuantity (op : Operator) (q : Quantity) (other : Amount) : Except Failure Amount :=
  match op with
  | .add => (q.add other).map quantity
  | .sub => (q.sub other).map quantity
  | .mul => .ok (quantity (q.mul other))
  | .div => (q.div other).map quantity
  | .pow =>
    match other.exponent q.label with
    | .ok n => (q.pow n).map quantity
    | .error f => .error f

/-- Two plain numbers. -/
def applyNumbers (op : Operator) (a b : Rat) : Except Failure Rat :=
  match op with
  | .add => .ok (a + b)
  | .sub => .ok (a - b)
  | .mul => .ok (a * b)
  | .div => if b = 0 then .error .divisionByZero else .ok (a / b)
  | .pow => Number.power a b

/-- Two amounts joined by an operator. -/
def apply (op : Operator) : Amount → Amount → Except Failure Amount
  | quantity q, other => applyQuantity op q other
  | number n, quantity q => applyNumber op n q
  | number a, number b => (applyNumbers op a b).map number

end Amount

end Metrology
