import Metrology.FunctionTable

/-!
# The standard functions

Conversion, inspection and construction of quantities. A function checks the number of its
arguments first and then the arguments themselves from left to right; what does not fit is
answered by an error value that names the argument.
-/

namespace Metrology

namespace UnitFunction

/-! ## Arguments -/

/-- Goes on with an argument that must be a quantity. -/
def takeQuantity (function argument : String) (c : Cell)
    (next : Quantity → Except Failure Cell) : Except Failure Cell :=
  match c with
  | .quantity q => next q
  | c => .ok (.error (ErrorValue.argType function argument "Quantity" c.kindName))

/-- Goes on with an argument that must be a text. -/
def takeText (function argument : String) (c : Cell)
    (next : String → Except Failure Cell) : Except Failure Cell :=
  match c with
  | .text s => next s
  | c => .ok (.error (ErrorValue.argType function argument "Text" c.kindName))

/-- Goes on with the exact value of an argument that must be a number. -/
def takeNumber (function argument : String) (c : Cell)
    (next : Rat → Except Failure Cell) : Except Failure Cell :=
  match c with
  | .number n => do next (← n.exact)
  | c => .ok (.error (ErrorValue.argType function argument "Number" c.kindName))

/-- Goes on with the scale of a quantity, of a number, or of a unit text. -/
def takeScale (function argument : String) (c : Cell) (s : Setting)
    (next : Scale → Except Failure Cell) : Except Failure Cell :=
  match c with
  | .quantity q => next q.scale
  | .number _ => next Scale.one
  | c => takeText function argument c fun text => do next (← s.catalog.unit text)

/-- The quantity that a text such as `5 km` spells. -/
def spelled (s : Setting) (text : String) : Except Failure Quantity := do
  let (value, unit) ← Written.quantity text
  Quantity.inUnit s.catalog value unit

/-- Goes on with a quantity, with a number as one, or with the quantity that a text spells. -/
def takeAnyQuantity (function argument : String) (c : Cell) (s : Setting)
    (next : Quantity → Except Failure Cell) : Except Failure Cell :=
  match c with
  | .quantity q => next q
  | .number n => do next (Amount.number (← n.exact)).lift
  | c => takeText function argument c fun text => do next (← spelled s text)

/-- The answer to a wrong number of arguments. -/
def wrongCount (function expected : String) (arguments : List Cell) : Except Failure Cell :=
  .ok (.error (ErrorValue.argCount function expected arguments.length))

/-- A number converted from one unit into another. -/
def convertNumber (s : Setting) (x : Rat) (source target : String) : Except Failure Cell := do
  let q ← Quantity.inUnit s.catalog x source
  let converted ← q.convert s.catalog target
  return .ofRat converted.value

/-! ## Conversion -/

/-- A quantity in another unit, or a number carried from one unit to another. -/
def convert : UnitFunction where
  guide := {
    name := "convert"
    usage := "convert(quantity, unit) | convert(value, from_unit, to_unit)"
    description := "Convert a quantity to another unit of the same dimension. With three " ++
      "arguments, convert a plain number and return a plain number."
    examples := ["convert(5 @ km, \"mi\")", "convert(100, \"C\", \"F\")  → 212"] }
  run := fun arguments s =>
    match arguments with
    | [q, unit] =>
      takeQuantity "convert" "quantity" q fun q =>
      takeText "convert" "unit" unit fun unit =>
      (q.convert s.catalog unit).map .quantity
    | [value, source, target] =>
      takeNumber "convert" "value" value fun value =>
      takeText "convert" "from_unit" source fun source =>
      takeText "convert" "to_unit" target fun target =>
      convertNumber s value source target
    | _ => wrongCount "convert" "2 or 3" arguments

/-- A quantity in base units, or the SI value of a number with a unit. -/
def toBase : UnitFunction where
  guide := {
    name := "to_base"
    usage := "to_base(quantity) | to_base(value, unit)"
    description := "Express a quantity in coherent SI base units. With a number and a unit, " ++
      "return the SI value as a plain number."
    examples := ["to_base(20 @ C)  → 293.15 K", "to_base(1, \"km\")  → 1000"] }
  run := fun arguments s =>
    match arguments with
    | [q] => takeQuantity "to_base" "quantity" q fun q => .ok (.quantity q.toBase)
    | [value, unit] =>
      takeNumber "to_base" "value" value fun value =>
      takeText "to_base" "unit" unit fun unit =>
      (Quantity.inUnit s.catalog value unit).map fun q => .ofRat q.siValue
    | _ => wrongCount "to_base" "1 or 2" arguments

/-- A quantity under the name of its derived unit. -/
def simplify : UnitFunction where
  guide := {
    name := "simplify"
    usage := "simplify(quantity) | simplify(value, unit)"
    description := "Re-label a quantity with the named derived unit that has exactly the same " ++
      "dimension and scale (kg*m/s^2 → N). The value is unchanged."
    examples := ["simplify(10 @ kg * 9.8 @ m/s^2)  → 98 N"] }
  run := fun arguments s =>
    let simplified (q : Quantity) : Cell := .quantity ((Simplifier.ofCatalog s.catalog).simplify q)
    match arguments with
    | [q] => takeQuantity "simplify" "quantity" q fun q => .ok (simplified q)
    | [value, unit] =>
      takeNumber "simplify" "value" value fun value =>
      takeText "simplify" "unit" unit fun unit =>
      (Quantity.inUnit s.catalog value unit).map simplified
    | _ => wrongCount "simplify" "1 or 2" arguments

/-- The target that a text names: the second unit of a conversion, or the text itself. -/
def targetOf (text : String) : String :=
  match Written.conversion text with
  | .ok (_, target) => target
  | .error _ => text

/-- A quantity in another unit, or a number carried through a conversion. -/
def inUnits : UnitFunction where
  guide := {
    name := "in_units"
    usage := "in_units(quantity, unit) | in_units(value, \"from->to\")"
    description := "Same as convert(quantity, unit). A plain number takes a conversion string " ++
      "such as \"km->mi\" and returns a plain number."
    examples := ["in_units(3 @ ft, \"in\")", "in_units(5, \"km->mi\")"] }
  run := fun arguments s =>
    match arguments with
    | [c, unit] =>
      takeText "in_units" "unit" unit fun text =>
      match c with
      | .quantity q => (q.convert s.catalog (targetOf text)).map .quantity
      | c =>
        takeNumber "in_units" "value" c fun value => do
          let (source, target) ← Written.conversion text
          convertNumber s value source target
    | _ => wrongCount "in_units" "2" arguments

/-! ## Inspection -/

/-- The number of a quantity in its own unit. -/
def value : UnitFunction where
  guide := {
    name := "value"
    usage := "value(quantity)"
    description := "The numeric part of a quantity, in its own unit."
    examples := ["value(5 @ km)  → 5", "value(\"9.8 m/s^2\")  → 9.8"]
    returns := "Number" }
  run := fun arguments s =>
    match arguments with
    | [q] => takeAnyQuantity "value" "quantity" q s fun q => .ok (.ofRat q.value)
    | _ => wrongCount "value" "1" arguments

/-- The label of a quantity. -/
def unit : UnitFunction where
  guide := {
    name := "unit"
    usage := "unit(quantity)"
    description := "The unit text of a quantity, exactly as displayed."
    examples := ["unit(5 @ km)  → \"km\""]
    returns := "Text" }
  run := fun arguments s =>
    match arguments with
    | [q] => takeAnyQuantity "unit" "quantity" q s fun q => .ok (.text q.label)
    | _ => wrongCount "unit" "1" arguments

/-- The exponents of a quantity or unit that are not zero. -/
def dimensions : UnitFunction where
  guide := {
    name := "dimensions"
    usage := "dimensions(quantity_or_unit)"
    description := "The base-dimension exponents of a quantity or unit, nonzero entries only."
    examples := ["dimensions(\"m/s\")  → \x7blength: 1, time: -1\x7d"]
    returns := "Object" }
  run := fun arguments s =>
    match arguments with
    | [q] =>
      takeScale "dimensions" "quantity" q s fun scale =>
      .ok (.object (scale.dimension.nonzero.map fun (name, e) => (name, .ofInt e)))
    | _ => wrongCount "dimensions" "1" arguments

/-- Whether a quantity or unit has dimension one. -/
def isDimensionless : UnitFunction where
  guide := {
    name := "is_dimensionless"
    usage := "is_dimensionless(quantity_or_unit)"
    description := "True if every base-dimension exponent is zero."
    examples := ["is_dimensionless(3 @ rad)  → true"]
    returns := "Bool" }
  run := fun arguments s =>
    match arguments with
    | [q] =>
      takeScale "is_dimensionless" "quantity" q s fun scale => .ok (.truth scale.isDimensionless)
    | _ => wrongCount "is_dimensionless" "1" arguments

/-- Whether two quantities or units have the same dimension. -/
def compatible : UnitFunction where
  guide := {
    name := "compatible"
    usage := "compatible(a, b)"
    description := "True if two quantities (or unit texts) have the same dimension and can be " ++
      "added or converted into each other."
    examples := ["compatible(5 @ km, 3 @ mi)  → true", "compatible(\"J\", \"kWh\")  → true"]
    returns := "Bool" }
  run := fun arguments s =>
    match arguments with
    | [a, b] =>
      takeScale "compatible" "a" a s fun a =>
      takeScale "compatible" "b" b s fun b => .ok (.truth (a.isCompatible b))
    | _ => wrongCount "compatible" "2" arguments

/-! ## Construction -/

/-- The quantity of a number and a unit, or the one that a text spells. -/
def quantity : UnitFunction where
  guide := {
    name := "quantity"
    usage := "quantity(value, unit) | quantity(\"5 km\")"
    description := "Build a quantity from a number and a unit, or from quantity text."
    examples := ["quantity(5, \"km\")", "quantity(\"9.8 m/s^2\")"] }
  run := fun arguments s =>
    match arguments with
    | [text] =>
      takeText "quantity" "quantity" text fun text => (spelled s text).map .quantity
    | [value, unit] =>
      takeNumber "quantity" "value" value fun value =>
      takeText "quantity" "unit" unit fun unit =>
      (Quantity.inUnit s.catalog value (Text.strip unit)).map .quantity
    | _ => wrongCount "quantity" "1 or 2" arguments

end UnitFunction

namespace FunctionTable

/-- The standard functions in order of registration. -/
def standardFunctions : List UnitFunction :=
  [.convert, .toBase, .simplify, .inUnits, .value, .unit, .dimensions, .isDimensionless,
    .compatible, .quantity]

/-- The table of the standard functions. -/
def standard : FunctionTable where
  functions := standardFunctions
  nodup_names := by decide

end FunctionTable

end Metrology
