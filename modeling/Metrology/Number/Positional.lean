import Metrology.Number.Places
import Metrology.Number.Rounding

/-!
# Positional text

The plain decimal text of a number: a sign, digits, and perhaps a point and more digits, never
an exponent. A number whose expansion ends is written exactly as long as 28 significant digits
suffice and is rounded to 28 beyond that; any other number is rounded to the digits asked for.
-/

namespace Metrology.Number

/-- The digits of `n / 10 ^ places`, with at least one digit in front of the point. -/
def plainDigits (n places : Nat) : List Char :=
  let digits := Nat.toDigits 10 n
  let padded := List.replicate (places + 1 - digits.length) '0' ++ digits
  let whole := padded.take (padded.length - places)
  if places = 0 then whole else whole ++ '.' :: padded.drop (padded.length - places)

/-- The text of a number whose expansion ends, with as many places as it needs. -/
def plain (q : Rat) : List Char :=
  let places := (decimalPlaces? q).getD 0
  let digits := plainDigits (q.num.natAbs * Nat.pow 10 places / q.den) places
  if q.num < 0 then '-' :: digits else digits

/-- Significant digits kept of an expansion that ends. -/
def exactDigits : Nat := 28

/-- Significant digits shown of an expansion that does not end, unless asked otherwise. -/
def defaultPrecision : Nat := 15

/-- The number that is written for `q`. -/
def shownValue (precision : Nat) (q : Rat) : Rat :=
  match decimalPlaces? q with
  | some 0 => q
  | some _ => roundTo exactDigits q
  | none => roundTo precision q

/-- The plain decimal text of `q`. -/
def format (precision : Nat) (q : Rat) : String :=
  String.ofList (plain (shownValue precision q))

example : format 15 (7 / 80) = "0.0875" := by decide +kernel
example : format 3 (-2000 / 3) = "-667" := by decide +kernel

end Metrology.Number
