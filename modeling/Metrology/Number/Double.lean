import Metrology.Number.Literal
import Metrology.Number.Rounding

/-!
# Doubles

IEEE numbers of 64 bits, held by their parts so that all but powers is exact arithmetic:
rounding a rational number to the nearest double, the fewest decimal digits that round back to
a double, and its text in those digits.
-/

namespace Metrology

/-- A double. A finite one is `± significand * 2 ^ exponent`, with a significand below `2 ^ 53`
and an exponent not below -1074. -/
inductive Double where
  | finite (negative : Bool) (significand : Nat) (exponent : Int)
  | infinite (negative : Bool)
  | nan
  deriving DecidableEq

namespace Double

open Number

/-- The least significand of full width, `2 ^ 52`; its bit is not stored. -/
def hiddenBit : Nat := 0x10000000000000

/-- The bit of the sign. -/
def signBit : Nat := 0x8000000000000000

/-- The exact value of a finite double. -/
def toRat? : Double → Option Rat
  | finite negative m e =>
    let q := (m : Rat) * (2 : Rat) ^ e
    some (if negative then -q else q)
  | _ => none

/-- The `k` with `2 ^ k ≤ q < 2 ^ (k + 1)`, for positive `q`. -/
def binaryMagnitude (q : Rat) : Int :=
  let guess : Int := (Nat.log2 q.num.natAbs : Int) - (Nat.log2 q.den : Int)
  if q < (2 : Rat) ^ guess then guess - 1 else guess

/-- The double nearest to `± q` for `q` not negative, a tie going to the even significand;
infinite where `q` is too large. -/
def ofMagnitude (negative : Bool) (q : Rat) : Double :=
  if q = 0 then finite negative 0 (-1074)
  else
    let e := max (binaryMagnitude q - 52) (-1074)
    let m := (roundEven (q / (2 : Rat) ^ e)).toNat
    let (m, e) := if m = 2 * hiddenBit then (hiddenBit, e + 1) else (m, e)
    if 971 < e then infinite negative else finite negative m e

/-- The double nearest to `q`. -/
def nearest (q : Rat) : Double :=
  if q < 0 then ofMagnitude true (-q) else ofMagnitude false q

/-! ## Shortest digits -/

/-- The two ends of the interval of numbers that round to `m * 2 ^ e`. -/
def interval (m : Nat) (e : Int) : Rat × Rat :=
  let v := (m : Rat) * (2 : Rat) ^ e
  let gap := (2 : Rat) ^ (e - 1)
  let below := if m = hiddenBit ∧ -1074 < e then gap / 2 else gap
  (v - below, v + gap)

/-- Whether `q` rounds to `m * 2 ^ e`; the ends of the interval do when `m` is even. -/
def readsBack (m : Nat) (e : Int) (q : Rat) : Bool :=
  let (low, high) := interval m e
  if m % 2 = 0 then low ≤ q && q ≤ high else low < q && q < high

/-- The multiple of `10 ^ place` nearest to `m * 2 ^ e` among its two neighbours that read
back, as a multiplier; a tie goes to the even one. -/
def onGrid? (m : Nat) (e place : Int) : Option Nat :=
  let t := ((m : Rat) * (2 : Rat) ^ e) / (10 : Rat) ^ place
  let low := t.floor.toNat
  let fits (d : Nat) : Bool := readsBack m e ((d : Rat) * (10 : Rat) ^ place)
  match fits low, fits (low + 1) with
  | true, true => some (roundEven t).toNat
  | true, false => some low
  | false, true => some (low + 1)
  | false, false => none

/-- A number without the zeros at its end, and their count. -/
def stripZeros (n : Nat) : Nat × Nat :=
  if _h : 0 < n ∧ n % 10 = 0 then ((stripZeros (n / 10)).1, (stripZeros (n / 10)).2 + 1)
  else (n, 0)
termination_by n
decreasing_by all_goals exact Nat.div_lt_self _h.1 (by decide)

/-- The fewest digits that read back as `m * 2 ^ e`, tried from `count` digits on: a number
`d` and a place `k` that stand for `d * 10 ^ k`. Seventeen digits always suffice. -/
def shortestFrom (m : Nat) (e top : Int) : (tries : Nat) → (count : Nat) → Nat × Int
  | 0, count => (0, top - count)
  | tries + 1, count =>
    match onGrid? m e (top - count) with
    | some d =>
      let (d, zeros) := stripZeros d
      (d, top - count + zeros)
    | none => shortestFrom m e top tries (count + 1)

/-- The fewest decimal digits that read back as `m * 2 ^ e`, and the place of the last one. -/
def shortest (m : Nat) (e : Int) : Nat × Int :=
  if m = 0 then (0, 0)
  else shortestFrom m e (magnitude ((m : Rat) * (2 : Rat) ^ e)) 17 1

/-- The number that the shortest digits of a finite double spell. -/
def shortestRat? : Double → Option Rat
  | finite negative m e =>
    let (d, place) := shortest m e
    let q := (d : Rat) * (10 : Rat) ^ place
    some (if negative then -q else q)
  | _ => none

/-! ## Text -/

/-- Decimal digits of a power of ten after its mark: a sign and at least two digits. -/
def powerText (n : Int) : List Char :=
  let digits := Nat.toDigits 10 n.natAbs
  'e' :: (if n < 0 then '-' else '+') :: List.replicate (2 - digits.length) '0' ++ digits

/-- The text of a number `d * 10 ^ place`: positional while the point stands at most sixteen
digits to the right and three zeros to the left of the first digit, with a power of ten
otherwise. A whole number in positional form ends in `.0`. -/
def digitsText (d : Nat) (place : Int) : List Char :=
  let digits := Nat.toDigits 10 d
  let point := place + digits.length
  if -4 < point ∧ point ≤ 16 then
    if point ≤ 0 then '0' :: '.' :: List.replicate point.natAbs '0' ++ digits
    else if digits.length ≤ point then
      digits ++ List.replicate (point.toNat - digits.length) '0' ++ ['.', '0']
    else digits.take point.toNat ++ '.' :: digits.drop point.toNat
  else
    let fraction := digits.drop 1
    digits.take 1 ++ (if fraction = [] then [] else '.' :: fraction) ++ powerText (point - 1)

/-- The text of a double in its shortest digits. -/
def toText : Double → String
  | finite negative m e =>
    let body := if m = 0 then ['0', '.', '0'] else digitsText (shortest m e).1 (shortest m e).2
    String.ofList (if negative then '-' :: body else body)
  | infinite negative => if negative then "-inf" else "inf"
  | nan => "nan"

/-- The double nearest to `± n * 10 ^ power`. Every number of at least `10 ^ 400` is too large
for a finite double, and every number below `10 ^ -400` rounds to zero. -/
def ofScaled (negative : Bool) (n : Nat) (power : Int) : Double :=
  let top := (Nat.toDigits 10 n).length + power
  if n = 0 ∨ top < -400 then finite negative 0 (-1074)
  else if 400 < top then infinite negative
  else ofMagnitude negative ((n : Rat) * (10 : Rat) ^ power)

/-- The double nearest to what a text spells in decimal; the names of infinity and NaN count in
any case. -/
def ofText? (s : String) : Option Double :=
  let (negative, rest) := sign (withoutMargin s.toList)
  match rest.map Char.toLower with
  | ['n', 'a', 'n'] => some nan
  | ['i', 'n', 'f'] => some (infinite negative)
  | ['i', 'n', 'f', 'i', 'n', 'i', 't', 'y'] => some (infinite negative)
  | _ =>
    let (whole, after) := digitGroups rest
    let (part, after) := match after with
      | '.' :: more => digitGroups more
      | _ => ([], after)
    if whole = [] ∧ part = [] then none
    else
      match exponent after with
      | (power, []) => some (ofScaled negative (positional (whole ++ part)) (power - part.length))
      | _ => none

/-! ## Machine arithmetic -/

/-- The machine number with the same bits. -/
def toFloat : Double → Float
  | finite negative m e =>
    let field : Nat := if m < hiddenBit then m else (e + 1074).toNat * hiddenBit + m
    Float.ofBits (UInt64.ofNat (if negative then signBit + field else field))
  | infinite negative =>
    Float.ofBits (UInt64.ofNat (if negative then 0xFFF0000000000000 else 0x7FF0000000000000))
  | nan => Float.ofBits (UInt64.ofNat 0x7FF8000000000000)

/-- The parts of a machine number. -/
def ofFloat (x : Float) : Double :=
  let bits : Nat := x.toBits.toNat
  let negative := decide (signBit ≤ bits)
  let field : Nat := bits / hiddenBit % 0x800
  let low : Nat := bits % hiddenBit
  if field = 0x7FF then (if low = 0 then infinite negative else nan)
  else if field = 0 then finite negative low (-1074)
  else finite negative (hiddenBit + low) ((field : Int) - 1075)

/-- The power of one double to another, as the machine computes it. -/
def power (base exponent : Double) : Double := ofFloat (base.toFloat.pow exponent.toFloat)

/-- The sum of two doubles. -/
def add (x y : Double) : Double := ofFloat (x.toFloat + y.toFloat)

/-- The difference of two doubles. -/
def sub (x y : Double) : Double := ofFloat (x.toFloat - y.toFloat)

/-- The product of two doubles. -/
def mul (x y : Double) : Double := ofFloat (x.toFloat * y.toFloat)

/-- The quotient of two doubles. -/
def div (x y : Double) : Double := ofFloat (x.toFloat / y.toFloat)

/-- The double with the other sign. -/
def neg : Double → Double
  | finite negative m e => finite (!negative) m e
  | infinite negative => infinite (!negative)
  | nan => nan

/-- A zero of either sign. -/
def isZero : Double → Bool
  | finite _ m _ => m = 0
  | _ => false

/-- Whether the magnitude of a double is above a limit; that of NaN never is. -/
def exceeds (limit : Nat) : Double → Bool
  | finite _ m e => (limit : Rat) < ((m : Rat) * (2 : Rat) ^ e)
  | infinite _ => true
  | nan => false

example : (ofText? "0.1").map toText = some "0.1" := by decide +kernel
example : (ofText? "5e-324").map toText = some "5e-324" := by decide +kernel

end Double

end Metrology
