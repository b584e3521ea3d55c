import Metrology.Failure
import Metrology.Number.Decimal
import Metrology.Number.Double

/-!
# Numerals

Numbers as they are supplied: integers, fractions, doubles and decimals. All of them but the
infinities and NaNs have an exact value. A double counts as the number that its shortest
decimal text spells.
-/

namespace Metrology

/-- A number as supplied. -/
inductive Numeral where
  | integer (n : Int)
  | fraction (q : Rat)
  | double (x : Double)
  | decimal (d : Decimal)
  deriving DecidableEq

/-- The text of a fraction in lowest terms; a whole number has no denominator. -/
def fractionText (q : Rat) : String :=
  if q.den = 1 then toString q.num else toString q.num ++ "/" ++ toString q.den

/-- A fraction as it stands in a message. -/
def fractionShown (q : Rat) : String :=
  "Fraction(" ++ toString q.num ++ ", " ++ toString q.den ++ ")"

/-- The rational number that a text spells as it stands, underscores between digits included. -/
def Number.fraction (s : String) : Except Failure Rat :=
  match readRat s.toList with
  | .ok q => .ok q
  | .error .form => .error (.notAFraction s)
  | .error (.letters run) => .error (.notAnInteger (String.ofList run))
  | .error .zeroBelow => .error .divisionByZero

namespace Numeral

/-- A number as it stands in a message. -/
def shown : Numeral → String
  | integer n => toString n
  | fraction q => fractionShown q
  | double x => x.toText
  | decimal d => "Decimal('" ++ d.toText ++ "')"

/-- The plain text of a number as supplied. -/
def text : Numeral → String
  | integer n => toString n
  | fraction q => fractionText q
  | double x => x.toText
  | decimal d => d.toText

/-- The name of a sort of number in messages. -/
def typeName : Numeral → String
  | integer _ => "int"
  | fraction _ => "Fraction"
  | double _ => "float"
  | decimal _ => "Decimal"

/-- The exact value. -/
def exact (x : Numeral) : Except Failure Rat :=
  let value? := match x with
    | integer n => some (n : Rat)
    | fraction q => some q
    | double x => x.shortestRat?
    | decimal d => d.toRat?
  match value? with
  | some q => .ok q
  | none => .error (.notFinite x.shown)

end Numeral

end Metrology
