import Metrology.Catalog.Standard
import Metrology.Simplifier

/-!
# Settings

What evaluation depends on besides its operands: the catalog, the display policy, and the
precision of printed numbers. The policy chooses the unit that a quantity is brought to in its
normal form: the coherent SI unit, or an imperial unit for the common dimensions.
-/

namespace Metrology

/-- Which family of units results are shown in. -/
inductive Policy where
  | si
  | imperial
  deriving DecidableEq

namespace Policy

/-- The name of a policy. -/
def name : Policy → String
  | si => "SI"
  | imperial => "imperial"

/-- The policy that a text names, in any case and with blanks around it. -/
def ofName? (s : String) : Option Policy :=
  let folded := Text.caseFold (Text.strip s)
  [si, imperial].find? fun p => Text.caseFold p.name = folded

end Policy

/-- The imperial unit of each dimension that has one of its own. -/
def imperialUnits : List (Dimension × String) := [
  (Dimension.ofLength, "ft"), (Dimension.ofMass, "lb"), (Dimension.ofTemperature, "F"),
  (Dimension.area, "ft^2"), (Dimension.volume, "gal"), (Dimension.velocity, "mph"),
  (Dimension.force, "lbf"), (Dimension.energy, "BTU"), (Dimension.power, "hp"),
  (Dimension.pressure, "psi")]

/-- What evaluation depends on besides its operands. -/
structure Setting where
  catalog : Catalog := Catalog.standard
  policy : Policy := .si
  precision : Nat := Number.defaultPrecision

namespace Setting

/-- The label of the unit that a dimension is shown in. -/
def preferredLabel (s : Setting) (d : Dimension) : String :=
  let siLabel := (Simplifier.ofCatalog s.catalog).siLabel d
  match s.policy with
  | .si => siLabel
  | .imperial => (imperialUnits.lookup d).getD siLabel

/-- A quantity in the unit that its dimension is shown in. -/
def normalize (s : Setting) (q : Quantity) : Except Failure Quantity :=
  let label := s.preferredLabel q.dimension
  if label = "" then .ok { value := q.siValue } else q.convert s.catalog label

end Setting

end Metrology
