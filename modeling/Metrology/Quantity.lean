import Metrology.Label
import Metrology.Number.Power
import Metrology.UnitExpr.Reader

/-!
# Quantities

A quantity is an exact number on a scale, with a label that shows the unit. The label is what
its author wrote or what an operation composed; conversion and the base form set it, and
nothing else renames it. A quantity and a plain number are the two sorts of amount that
arithmetic takes.
-/

namespace Metrology

/-- A number with a unit. -/
structure Quantity where
  value : Rat
  scale : Scale := Scale.one
  label : String := ""
  deriving DecidableEq

/-- A plain number or a quantity. -/
inductive Amount where
  | number (n : Rat)
  | quantity (q : Quantity)
  deriving DecidableEq

namespace Quantity

/-- The quantity of a value in a unit; the unit text becomes the label as it is. -/
def inUnit (c : Catalog) (value : Rat) (text : String) : Except Failure Quantity :=
  (c.unit text).map fun scale => { value, scale, label := text }

/-- What the quantity measures. -/
def dimension (q : Quantity) : Dimension := q.scale.dimension

/-- A quantity of dimension one. -/
def isDimensionless (q : Quantity) : Bool := q.scale.isDimensionless

/-- A pure number in the form of a quantity. -/
def isScalar (q : Quantity) : Bool :=
  q.isDimensionless && q.scale.factor = 1 && Label.isUnity q.label

/-- The value in the coherent SI unit. -/
def siValue (q : Quantity) : Rat := q.scale.toSI q.value

/-- The quantity in the coherent SI unit, labelled in base units. -/
def toBase (q : Quantity) : Quantity where
  value := q.siValue
  scale := Scale.linear q.dimension
  label := Label.ofDimension q.dimension

/-- The quantity in another unit. The unit text is read with the dimension of the quantity as a
hint, so that a symbol of several owners means the one that fits. -/
def convert (c : Catalog) (target : String) (q : Quantity) : Except Failure Quantity :=
  match c.unit target (some q.dimension) with
  | .ok scale =>
    if scale.dimension ≠ q.dimension then .error (.mismatch q.label target "convert")
    else (Scale.convert q.scale scale q.value).map fun value => { value, scale, label := target }
  | .error f => .error f

/-! ## Text -/

/-- A number text with the label behind it, if there is one. -/
def labelled (q : Quantity) (number : String) : String :=
  if q.label = "" then number else number ++ " " ++ q.label

/-- The text of a quantity with the default precision. -/
def text (q : Quantity) : String := q.labelled (Number.format Number.defaultPrecision q.value)

/-- The text of a quantity with the precision asked for. -/
def textTo (precision : Int) (q : Quantity) : Except Failure String :=
  (Number.formatTo precision q.value).map q.labelled

end Quantity

end Metrology
