import Metrology.Failure
import Metrology.Number.Literal
import Metrology.Number.Rounding

/-!
# Decimal numbers as supplied

Decimal floating numbers keep the digits they were written with: `1.50` is not written `1.5`.
They also have infinities and two sorts of NaN. A finite number is written with an exponent
when its digits do not reach the units place or end far behind the point.
-/

namespace Metrology

/-- A decimal floating number. The value of a finite one is `± coefficient * 10 ^ exponent`. -/
inductive Decimal where
  | finite (negative : Bool) (coefficient : Nat) (exponent : Int)
  | infinite (negative : Bool)
  | nan (negative signalling : Bool) (payload : Option Nat)
  deriving DecidableEq

namespace Decimal

open Text Number

/-- The exact value of a finite number. -/
def toRat? : Decimal → Option Rat
  | finite negative c e =>
    let q := (c : Rat) * (10 : Rat) ^ e
    some (if negative then -q else q)
  | _ => none

/-- Digits with a point after the first `place` of them, zeros added where there are none. -/
def withPoint (digits : List Char) (place : Int) : List Char :=
  if place ≤ 0 then
    '0' :: '.' :: List.replicate place.natAbs '0' ++ digits
  else if digits.length ≤ place then
    digits ++ List.replicate (place.toNat - digits.length) '0'
  else digits.take place.toNat ++ '.' :: digits.drop place.toNat

/-- An exponent of ten behind its mark, always with a sign. -/
def exponentText (mark : Char) (e : Int) : List Char :=
  mark :: (if e < 0 then '-' else '+') :: Nat.toDigits 10 e.natAbs

/-- The text of a decimal number. -/
def toText : Decimal → String
  | finite negative c e =>
    let digits := Nat.toDigits 10 c
    let left := e + digits.length
    let body :=
      if e ≤ 0 ∧ -6 < left then withPoint digits left
      else withPoint digits 1 ++ (if left = 1 then [] else exponentText 'E' (left - 1))
    String.ofList (if negative then '-' :: body else body)
  | infinite negative => if negative then "-Infinity" else "Infinity"
  | nan negative signalling payload =>
    (if negative then "-" else "") ++ (if signalling then "sNaN" else "NaN") ++
      (payload.map toString).getD ""

/-- Reads the names of the numbers that are not finite. -/
def ofName? (negative : Bool) (cs : List Char) : Option Decimal :=
  let payload (rest : List Char) (signalling : Bool) : Option Decimal :=
    match digitRun rest with
    | (run, []) =>
      some (nan negative signalling (if positional run = 0 then none else some (positional run)))
    | _ => none
  match cs.map Char.toLower with
  | ['i', 'n', 'f'] => some (infinite negative)
  | ['i', 'n', 'f', 'i', 'n', 'i', 't', 'y'] => some (infinite negative)
  | 'n' :: 'a' :: 'n' :: rest => payload rest false
  | 's' :: 'n' :: 'a' :: 'n' :: rest => payload rest true
  | _ => none

/-- The largest exponent of ten of a first digit, and the least of a last one. -/
def topExponent : Int := 999999999999999999
def bottomExponent : Int := -1999999999999999997

/-- The exponent of ten of the first digit. -/
def leading (c : Nat) (e : Int) : Int := e + (Nat.toDigits 10 c).length - 1

/-- The finite number with the given parts, where its exponents are in range. -/
def ofParts (negative : Bool) (c : Nat) (e : Int) : Except DecimalFault Decimal :=
  if topExponent < leading c e ∨ e < bottomExponent then .error .range
  else .ok (finite negative c e)

/-- The decimal number that a text spells, with the digits as written. Underscores do not
count. -/
def ofText (s : String) : Except DecimalFault Decimal :=
  let (negative, rest) := sign ((trim s.toList).filter (· ≠ '_'))
  let (whole, after) := digitRun rest
  let (part, after) := match after with
    | '.' :: more => digitRun more
    | _ => ([], after)
  if whole = [] ∧ part = [] then
    match ofName? negative rest with
    | some d => .ok d
    | none => .error .spelling
  else
    match exponent after with
    | (power, []) => ofParts negative (positional (whole ++ part)) (power - part.length)
    | _ => .error .spelling

/-! ## Rounded arithmetic -/

/-- Significant digits of results. -/
def workingDigits : Nat := 28

/-- The largest exponent of ten of the first digit of a result. -/
def workingTop : Int := 999999

/-- A coefficient rounded to the digits of results, and by how much its exponent grows. -/
def roundCoefficient (n : Nat) : Nat × Nat :=
  let dropped := (Nat.toDigits 10 n).length - workingDigits
  ((roundEven ((n : Rat) / (Nat.pow 10 dropped : Nat))).toNat, dropped)

/-- Whether `c * 10 ^ e`, for `c` not zero, is above a limit. Numbers far from the limit are told
by the place of their first digit. -/
def isAbove (limit c : Nat) (e : Int) : Bool :=
  if leading c e < 0 then limit = 0
  else if (Nat.toDigits 10 limit).length ≤ leading c e then true
  else (limit : Rat) < (c : Rat) * (10 : Rat) ^ e

/-- Whether the magnitude of `k` times a number is above a limit. The product is rounded to the
digits of results first, and it must not be too large for one; NaN has no place in an order. -/
def productExceeds (limit : Nat) (k : Int) : Decimal → Except DecimalFault Bool
  | finite _ c e =>
    let (n, dropped) := roundCoefficient (k.natAbs * c)
    if n = 0 then .ok false
    else if workingTop < leading n (e + dropped) then .error .overflow
    else .ok (isAbove limit n (e + dropped))
  | infinite _ => if k = 0 then .error .range else .ok true
  | nan .. => .error .range

/-- Whether a number equals an integer. Unless both are zero, the places of their first digits
are compared before all digits are. -/
def equals (n : Int) : Decimal → Bool
  | finite negative c e =>
    if n = 0 ∨ c = 0 then n = 0 && c = 0
    else
      leading c e = leading n.natAbs 0 && (finite negative c e).toRat? = some (n : Rat)
  | _ => false

example : (ofText "1.50").toOption.map toText = some "1.50" := by decide +kernel
example : (ofText "1e-7").toOption.map toText = some "1E-7" := by decide +kernel

end Decimal

end Metrology
