import Metrology.Cell
import Metrology.Quantity.Arithmetic
import Metrology.Setting

/-!
# Reading cells

What a cell stands for where a number, a dimension, a policy or a precision is expected. Truth
values are never numbers.
-/

namespace Metrology

namespace Cell

/-- The exact number that a cell stands for; a text is read as a number. -/
def exact : Cell → Except Failure Rat
  | truth _ => .error .truthValue
  | number n => n.exact
  | text s =>
    match Number.ofText? s with
    | some q => .ok q
    | none => .error (.notANumber s)
  | c => .error (.notNumeric c.typeName)

/-- The members of a cell that has some: items, characters, or names of fields. -/
def members? : Cell → Option (List Cell)
  | list items => some items
  | text s => some (s.toList.map fun c => text (String.singleton c))
  | object fields => some (fields.map fun (name, _) => text name)
  | _ => none

/-- The integers in a list of cells, in which there must be nothing else. -/
def integers : List Cell → Except Failure (List Int)
  | [] => .ok []
  | number (.integer n) :: rest => (integers rest).map (n :: ·)
  | c :: _ => .error (.dimensionEntry c.shown)

/-- The dimension that a cell stands for: seven integers. -/
def dimension (c : Cell) : Except Failure Dimension :=
  match c.members? with
  | none => .error .unsupported
  | some members =>
    if members.length ≠ 7 then .error .dimensionLength
    else
      match integers members with
      | .ok exponents => Dimension.ofList exponents
      | .error f => .error f

/-- The name of the type of a cell where a list counts as a tuple. -/
def tupleTypeName : Cell → String
  | list _ => "tuple"
  | c => c.typeName

/-- The integer by which a dimension is raised. -/
def dimensionPower : Cell → Except Failure Int
  | number (.integer n) => .ok n
  | c => .error (.dimensionPower c.tupleTypeName)

/-- The exact value of a cell in a comparison, where a truth value counts as 0 or 1. -/
def comparable? : Cell → Option Rat
  | truth b => some (if b then 1 else 0)
  | number n => match n with
    | .integer n => some n
    | .fraction q => some q
    | .double x => x.toRat?
    | .decimal d => d.toRat?
  | _ => none

/-- Whether cells are exactly the given integers, compared one by one up to the first that
differs. A signalling NaN cannot be compared. -/
def areIntegers : List Cell → List Int → Except Failure Bool
  | [], [] => .ok true
  | number (.decimal (.nan _ true _)) :: _, _ :: _ => .error (.decimalFault .range)
  | number (.decimal d) :: cells, n :: rest =>
    if d.equals n then areIntegers cells rest else .ok false
  | c :: cells, n :: rest =>
    if c.comparable? = some (n : Rat) then areIntegers cells rest else .ok false
  | _, _ => .ok false

/-- Whether a cell lists exactly the exponents of a dimension. -/
def listsDimension (d : Dimension) : Cell → Except Failure Bool
  | list items => areIntegers items d.toList
  | _ => .ok false

/-- The amount that a number or a quantity stands for. -/
def amount : Cell → Except Failure Amount
  | quantity q => .ok (.quantity q)
  | c => c.exact.map .number

/-- The exponent that a cell stands for behind a quantity labelled `label`. -/
def exponent (label : String) : Cell → Except Failure Int
  | quantity q => (Amount.quantity q).exponent label
  | number n =>
    match n.exact with
    | .ok q => (Amount.number q).exponent label
    | .error f => .error f
  | c => .error (.exponentType c.typeName)

/-- The precision that a cell stands for, in writing a number whose expansion does not end. A
truth value counts as 0 or 1. -/
def precision : Cell → Except Failure Int
  | number (.integer n) => .ok n
  | truth b => .ok (if b then 1 else 0)
  | _ => .error .unsupported

/-- The text of a number with the precision that a cell stands for, which is looked at only
where the number needs it. -/
def formatNumber (precision : Cell) (q : Rat) : Except Failure String :=
  match Number.decimalPlaces? q with
  | some _ => Number.formatTo Number.defaultPrecision q
  | none =>
    match precision.precision with
    | .ok p => Number.formatTo p q
    | .error f => .error f

end Cell

namespace Policy

/-- The policy that a cell names. -/
def ofCell (c : Cell) : Except Failure Policy :=
  match ofName? c.plainText with
  | some p => .ok p
  | none => .error (.unknownPolicy c.shown)

end Policy

namespace Setting

/-- A setting with a policy and a precision that must be a positive integer. -/
def make (catalog : Catalog) (policy : Policy) (precision : Cell) : Except Failure Setting :=
  match precision with
  | .number (.integer n) =>
    if n < 1 then .error (.badPrecision precision.shown)
    else .ok { catalog, policy, precision := n.toNat }
  | _ => .error (.badPrecision precision.shown)

/-- The setting that a section asks for by its attributes `units` and `precision`; the
precision is the integer that the text of its attribute spells. -/
def ofAttributes (catalog : Catalog) (attributes : List (String × Cell)) :
    Except Failure Setting := do
  let policy ← match attributes.lookup "units" with
    | some c => Policy.ofCell c
    | none => .ok .si
  let precision ← match attributes.lookup "precision" with
    | some c =>
      match Number.integer? (Text.strip c.plainText) with
      | some n => .ok (Cell.ofInt n)
      | none => .error (.badPrecision c.shown)
    | none => .ok (Cell.ofInt Number.defaultPrecision)
  make catalog policy precision

end Setting

end Metrology
