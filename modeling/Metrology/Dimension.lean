import Metrology.Failure

/-!
# Dimensions

What a unit measures: seven integer exponents, one for each base dimension. Units can be
converted into each other exactly when their dimensions are equal. Products add exponents,
quotients subtract them, and powers multiply them.
-/

namespace Metrology

/-- Exponents of the seven base dimensions. -/
structure Dimension where
  length : Int := 0
  mass : Int := 0
  time : Int := 0
  current : Int := 0
  temperature : Int := 0
  amount : Int := 0
  luminosity : Int := 0
  deriving DecidableEq

namespace Dimension

/-- The dimension of pure numbers. -/
def one : Dimension := {}

/-- The dimension of a product. -/
def mul (a b : Dimension) : Dimension where
  length := a.length + b.length
  mass := a.mass + b.mass
  time := a.time + b.time
  current := a.current + b.current
  temperature := a.temperature + b.temperature
  amount := a.amount + b.amount
  luminosity := a.luminosity + b.luminosity

/-- The dimension of a quotient. -/
def div (a b : Dimension) : Dimension where
  length := a.length - b.length
  mass := a.mass - b.mass
  time := a.time - b.time
  current := a.current - b.current
  temperature := a.temperature - b.temperature
  amount := a.amount - b.amount
  luminosity := a.luminosity - b.luminosity

/-- The dimension of a power. -/
def pow (a : Dimension) (n : Int) : Dimension where
  length := a.length * n
  mass := a.mass * n
  time := a.time * n
  current := a.current * n
  temperature := a.temperature * n
  amount := a.amount * n
  luminosity := a.luminosity * n

/-- The exponents in order: length, mass, time, current, temperature, amount, luminosity. -/
def toList (d : Dimension) : List Int :=
  [d.length, d.mass, d.time, d.current, d.temperature, d.amount, d.luminosity]

/-- The dimension with the given exponents; there must be seven. -/
def ofList : List Int → Except Failure Dimension
  | [l, m, t, i, th, n, j] => .ok ⟨l, m, t, i, th, n, j⟩
  | _ => .error .dimensionLength

/-- The largest magnitude among the exponents. -/
def maxExponent (d : Dimension) : Nat := d.toList.foldr (fun e most => max e.natAbs most) 0

theorem ofList_toList (d : Dimension) : ofList d.toList = .ok d := rfl

theorem mul_comm (a b : Dimension) : a.mul b = b.mul a := by
  simp only [mul, Int.add_comm]

theorem mul_assoc (a b c : Dimension) : (a.mul b).mul c = a.mul (b.mul c) := by
  simp only [mul, Int.add_assoc]

theorem one_mul (a : Dimension) : one.mul a = a := by
  simp only [mul, one, Int.zero_add]

theorem mul_one (a : Dimension) : a.mul one = a := by
  simp only [mul, one, Int.add_zero]

theorem div_self (a : Dimension) : a.div a = one := by
  simp only [div, one, Int.sub_self]

/-- Dividing is multiplying by the power -1. -/
theorem div_eq_mul_pow (a b : Dimension) : a.div b = a.mul (b.pow (-1)) := by
  simp only [div, mul, pow, Int.mul_neg, Int.mul_one, Int.sub_eq_add_neg]

theorem pow_one (a : Dimension) : a.pow 1 = a := by
  simp only [pow, Int.mul_one]

theorem pow_zero (a : Dimension) : a.pow 0 = one := by
  simp only [pow, one, Int.mul_zero]

theorem pow_pow (a : Dimension) (m n : Int) : (a.pow m).pow n = a.pow (m * n) := by
  simp only [pow, Int.mul_assoc]

theorem mul_pow (a b : Dimension) (n : Int) : (a.mul b).pow n = (a.pow n).mul (b.pow n) := by
  simp only [mul, pow, Int.add_mul]

theorem pow_add (a : Dimension) (m n : Int) : a.pow (m + n) = (a.pow m).mul (a.pow n) := by
  simp only [mul, pow, Int.mul_add]

/-! ## Texts -/

/-- The names of the base dimensions, in the order of the exponents. -/
def baseNames : List String :=
  ["length", "mass", "time", "current", "temperature", "amount", "luminosity"]

/-- The letters of the base dimensions, in the order of the exponents. -/
def baseLetters : List String := ["L", "M", "T", "I", "Θ", "N", "J"]

/-- The exponents that are not zero, under the names of their base dimensions. -/
def nonzero (d : Dimension) : List (String × Int) :=
  (baseNames.zip d.toList).filter fun (_, e) => e ≠ 0

/-- Letters with their exponents, such as `L T^-2`; `1` for pure numbers. -/
def text (d : Dimension) : String :=
  match (baseLetters.zip d.toList).filter fun (_, e) => e ≠ 0 with
  | [] => "1"
  | parts =>
    " ".intercalate (parts.map fun (n, e) => if e = 1 then n else n ++ "^" ++ toString e)

/-- Letters with their exponents, each pair in brackets. -/
def bracketed (d : Dimension) : String :=
  let parts := (baseLetters.zip d.toList).filter fun (_, e) => e ≠ 0
  let inside := String.join (parts.map fun (n, e) => "[" ++ n ++ "^" ++ toString e ++ "]")
  "Dimension(" ++ (if inside = "" then "1" else inside) ++ ")"

end Dimension

end Metrology
