import Metrology.Catalog
import Metrology.Text.Digit

/-!
# Unit expressions

The structure of a unit text: names and the unit one, combined by products, quotients and
integer powers. An expression knows names only; it gets a scale when its names are looked up in
a catalog. Every name in an expression stands for its unit without offset; a single name as a
whole text keeps it.
-/

namespace Metrology

/-- A unit expression. -/
inductive UnitExpr where
  | name (symbol : String)
  | one
  | pow (base : UnitExpr) (exponent : Int)
  | mul (left right : UnitExpr)
  | div (left right : UnitExpr)
  deriving DecidableEq

namespace UnitExpr

/-- An expression to a power: the first power is the expression itself, the zeroth is one. -/
def toPower (base : UnitExpr) (n : Int) : UnitExpr :=
  if n = 1 then base else if n = 0 then one else pow base n

/-- The names in an expression, in order. -/
def names : UnitExpr → List String
  | name s => [s]
  | one => []
  | pow base _ => base.names
  | mul left right => left.names ++ right.names
  | div left right => left.names ++ right.names

end UnitExpr

namespace Catalog

open Text

/-- A name that ends in a 2 or 3 behind a character that is no digit: the name in front, and
the power that the digit stands for. -/
def trailingPower? (name : String) : Option (String × Int) :=
  match name.toList.reverse with
  | d :: c :: front =>
    let exponent : Option Int := if d = '2' then some 2 else if d = '3' then some 3 else none
    if isDecimalDigit c then none
    else exponent.map fun n => (String.ofList (c :: front).reverse, n)
  | _ => none

/-- The scale of a name: that of its unit or, where no unit has the name, of the power that a
trailing 2 or 3 makes of the name in front of it. -/
def named (c : Catalog) (name : String) (hint : Option Dimension := none) : Except Failure Scale :=
  match c.get? name hint with
  | some r => .ok r.entry.scale
  | none =>
    match trailingPower? name with
    | some (base, n) =>
      match c.get? base with
      | some r => r.entry.scale.dropOffset.pow n
      | none => .error (c.unknown name)
    | none => .error (c.unknown name)

/-- The scale of an expression. -/
def scaleOf (c : Catalog) : UnitExpr → Except Failure Scale
  | .name s => (c.named s).map Scale.dropOffset
  | .one => .ok Scale.one
  | .pow base n => do
    let s ← c.scaleOf base
    s.pow n
  | .mul left right => do
    let s ← c.scaleOf left
    let t ← c.scaleOf right
    .ok (s.mul t)
  | .div left right => do
    let s ← c.scaleOf left
    let t ← c.scaleOf right
    s.div t

end Catalog

end Metrology
