import Metrology.Cell.Reading

/-!
# Operations that may fail

Operators between a quantity and another cell, for callers that want the failure itself and not
an error value. At least one operand must be a quantity. The operations that a quantity has by
name take the cell for a number where the operators do not: a text counts as the number that it
spells.
-/

namespace Metrology.Cell

/-- The amount that an operand of an operator stands for. -/
def operand : Cell → Except Failure Amount
  | number n => n.exact.map .number
  | quantity q => .ok (.quantity q)
  | _ => .error .unsupported

/-- A power with a quantity as exponent, which no number has. A fraction is taken for a double
before the operator is looked for. -/
def powerOfNumber : Numeral → Failure
  | .fraction q =>
    match Double.nearest q with
    | .finite .. => .unsupported
    | _ => .quotientTooLarge
  | _ => .unsupported

/-- The number that a cell stands for, divided by a quantity. A divisor that is zero fails
before the cell is looked at. -/
def divideInto (q : Quantity) (c : Cell) : Except Failure Quantity :=
  if q.value = 0 then .error .divisionByZero
  else
    match c.exact with
    | .ok n => q.divInto n
    | .error f => .error f

/-- Two cells joined by an operator, one of which must be a quantity. -/
def operate (op : Operator) (left right : Cell) : Except Failure Cell :=
  match left, right with
  | quantity q, c =>
    if op = .pow then do
      let n ← c.exponent q.label
      (q.pow n).map quantity
    else do
      let b ← c.operand
      (Amount.applyQuantity op q b).map ofAmount
  | number n, quantity q =>
    match op with
    | .pow => .error (powerOfNumber n)
    | .div => (divideInto q (number n)).map quantity
    | op => do
      let a ← n.exact
      (Amount.applyNumber op a q).map ofAmount
  | _, _ => .error .unsupported

/-- Two cells are equal if they are the same quantity. -/
def sameQuantity : Cell → Cell → Bool
  | quantity p, quantity q => p = q
  | _, _ => false

/-- A quantity or a number with its sign changed. -/
def opposite : Cell → Except Failure Cell
  | quantity q => .ok (quantity q.neg)
  | number (.integer n) => .ok (ofInt (-n))
  | number (.fraction q) => .ok (ofRat (-q))
  | number (.double x) => .ok (number (.double x.neg))
  | truth b => .ok (ofInt (if b then -1 else 0))
  | _ => .error .unsupported

/-- A quantity joined by an operator with what a cell stands for. -/
def combine (op : Operator) (q : Quantity) (c : Cell) : Except Failure Quantity :=
  match op with
  | .add => do q.add (← c.amount)
  | .sub => do q.sub (← c.amount)
  | .mul => c.amount.map q.mul
  | .div => do q.div (← c.amount)
  | .pow => do q.pow (← c.exponent q.label)

/-- Whether the magnitude of `k` times a number is above the limit for exponents. Doubles and
decimals are multiplied as they are, with the rounding of their kind. -/
def productExceeds (k : Int) : Numeral → Except Failure Bool
  | .integer n => .ok (decide (exponentLimit < (k * n).natAbs))
  | .fraction q => .ok (decide ((exponentLimit : Rat) < ((k : Rat) * q).abs))
  | .double x =>
    match Double.nearest k with
    | .finite negative m e => .ok ((Double.mul (.finite negative m e) x).exceeds exponentLimit)
    | _ => .error .integerTooLarge
  | .decimal d => (d.productExceeds exponentLimit k).mapError .decimalFault

/-- Whether any of some multiples of a number is above the limit for exponents, looked at in
order up to the first that is. -/
def anyExceeds (x : Numeral) : List Int → Except Failure Bool
  | [] => .ok false
  | k :: rest =>
    match productExceeds k x with
    | .ok false => anyExceeds x rest
    | other => other

/-- Whether a number equals 1. -/
def isOne : Numeral → Bool
  | .integer n => n = 1
  | .fraction q => q = 1
  | .double x => x.toRat? = some 1
  | .decimal d => d.equals 1

/-- The scale raised to what a cell stands for. Any number equal to 1 leaves the scale as it is;
otherwise the exponent has to be an integer, and before that neither it nor an exponent of the
result may be too large. -/
def scalePower (s : Scale) : Cell → Except Failure Scale
  | number (.integer n) => s.pow n
  | number x =>
    if isOne x then .ok s
    else
      match anyExceeds x (1 :: s.dimension.toList) with
      | .ok true => .error (.powerTooHigh x.text)
      | .ok false => .error (.dimensionPower x.typeName)
      | .error f => .error f
  | truth true => .ok s
  | truth false => .error (.dimensionPower (truth false).typeName)
  | _ => .error .unsupported

/-- The scale raised by the power operator, which takes integers and whole fractions only. Any
other fraction is taken for a double before it is refused. -/
def scalePowerOperator (s : Scale) : Cell → Except Failure Scale
  | number (.integer n) => s.pow n
  | number (.fraction q) => if q.den = 1 then s.pow q.num else .error (powerOfNumber (.fraction q))
  | _ => .error .unsupported

/-- Whether a number, or the number that a text spells, is whole. A truth value is. -/
def isWhole : Cell → Except Failure Bool
  | number (.double .nan) | number (.decimal (.nan ..)) => .error .noRatio
  | number (.double (.infinite _)) | number (.decimal (.infinite _)) => .error .infiniteRatio
  | text s => (Number.fraction s).map fun q => q.den = 1
  | c =>
    match c.comparable? with
    | some q => .ok (q.den = 1)
    | none => .error .unsupported

end Metrology.Cell
