import Metrology.Cell.Reading
import Metrology.Quantity.Arithmetic
import Metrology.Quantity.Written

/-!
# Evaluation

Operators on cells. A failure becomes an error value, so that an operator always has a result;
an operand that is an error already is the result itself, with a note that says which operator
it passed through.
-/

namespace Metrology.Cell

/-- Turns a failure that evaluation recovers from into an error value. -/
def recover (result : Except Failure Cell) : Except Failure Cell :=
  match result with
  | .ok c => .ok c
  | .error f => if f.kind.isRecoverable then .ok (error (ErrorValue.ofFailure f)) else .error f

/-- The first error value among some cells. -/
def firstError? (cells : List Cell) : Option ErrorValue :=
  cells.findSome? fun c => match c with
    | error e => some e
    | _ => none

/-- The note that an operator leaves on an error value. -/
def noteThrough (what : String) : String := "propagated through " ++ what

/-- Two cells joined by an operator. -/
def apply (op : Operator) (left right : Cell) : Except Failure Cell :=
  match firstError? [left, right] with
  | some e => .ok (error (e.withNote (noteThrough ("'" ++ op.sign ++ "'"))))
  | none =>
    match [left, right].find? fun c => c.kind = .other with
    | some c => .ok (error (ErrorValue.typeError "Number or Quantity" c.kindName))
    | none =>
      recover do
        let a ← left.amount
        let b ← right.amount
        (a.apply op b).map ofAmount

/-- Two cells joined by the operator that a sign spells. -/
def binary (sign : String) (left right : Cell) : Except Failure Cell :=
  match Operator.ofSign? sign with
  | some op => apply op left right
  | none => .error (.unknownOperator sign)

/-- A number with a unit text behind it. -/
def attach (catalog : Catalog) (value unit : Cell) : Except Failure Cell :=
  match firstError? [value, unit] with
  | some e => .ok (error (e.withNote (noteThrough "'@'")))
  | none =>
    match value, unit with
    | number n, text s =>
      recover do
        let x ← n.exact
        (Quantity.inUnit catalog x (Text.strip s)).map quantity
    | number _, c => .ok (error (ErrorValue.typeError "Text" c.kindName))
    | c, _ => .ok (error (ErrorValue.typeError "Number" c.kindName))

/-- The value that a literal such as `100 @ km` spells. -/
def literal (catalog : Catalog) (s : String) : Except Failure Cell :=
  match Written.marked s with
  | .ok (x, unit) => attach catalog (ofRat x) (text unit)
  | .error f => recover (.error f)

/-- A cell with its sign changed. -/
def negate : Cell → Except Failure Cell
  | error e => .ok (error (e.withNote (noteThrough "unary '-'")))
  | quantity q => .ok (quantity q.neg)
  | number n => n.exact.map fun q => ofRat (-q)
  | c => .ok (error (ErrorValue.typeError "Number or Quantity" c.kindName))

end Metrology.Cell
