import Metrology.ErrorValue
import Metrology.Number.Numeral
import Metrology.Quantity

/-!
# Cells

The values that formulas work on. Evaluation is dynamic: any value may meet any operator or
function, and what does not fit is answered by an error value. Two printed forms are defined
here: the plain text of a value, and the form in which it stands in a message or inside a
list, where texts are quoted and numbers show their sort.
-/

namespace Metrology

/-- A value of a formula. -/
inductive Cell where
  | absent
  | number (n : Numeral)
  | truth (b : Bool)
  | text (s : String)
  | list (items : List Cell)
  | object (fields : List (String × Cell))
  | quantity (q : Quantity)
  | error (e : ErrorValue)

namespace Cell

open Text

/-- The cell of an exact number. -/
def ofRat (q : Rat) : Cell := number (.fraction q)

/-- The cell of an integer. -/
def ofInt (n : Int) : Cell := number (.integer n)

/-- The cell of an amount. -/
def ofAmount : Amount → Cell
  | .number n => ofRat n
  | .quantity q => quantity q

/-- The four kinds of cell that operators tell apart. -/
inductive Kind where
  | number
  | quantity
  | error
  | other
  deriving DecidableEq

/-- The name of a kind. -/
def Kind.name : Kind → String
  | number => "Number"
  | quantity => "Quantity"
  | error => "Error"
  | other => "Other"

/-- The kind of a cell. -/
def kind : Cell → Kind
  | number _ => .number
  | quantity _ => .quantity
  | error _ => .error
  | _ => .other

/-- The name of the type of a cell in error values. -/
def kindName : Cell → String
  | absent => "NoneType"
  | truth _ => "Bool"
  | text _ => "Text"
  | list _ => "list"
  | object _ => "Object"
  | c => c.kind.name

/-- The name of the type of a cell in messages of failures. -/
def typeName : Cell → String
  | absent => "NoneType"
  | number n => n.typeName
  | truth _ => "bool"
  | text _ => "str"
  | list _ => "list"
  | object _ => "dict"
  | quantity _ => "Quantity"
  | error _ => "ErrorValue"

/-! ## Printed forms -/

/-- A truth value, capitalised. -/
def truthText (b : Bool) : String := if b then "True" else "False"

/-- A scale as it stands in a message. -/
def shownScale (s : Scale) : String :=
  "Unit(dimensions=" ++ s.dimension.bracketed ++ ", to_si_factor=" ++ fractionShown s.factor ++
    ", to_si_offset=" ++ fractionShown s.offset ++ ")"

/-- A quantity as it stands in a message. -/
def shownQuantity (q : Quantity) : String :=
  "Quantity(value=" ++ fractionShown q.value ++ ", unit=" ++ shownScale q.scale ++
    ", display_unit=" ++ quoted q.label ++ ")"

/-- Quoted texts in parentheses; a single one is followed by a comma. -/
def shownTexts : List String → String
  | [s] => "(" ++ quoted s ++ ",)"
  | ss => "(" ++ ", ".intercalate (ss.map quoted) ++ ")"

/-- An error value as it stands in a message. -/
def shownError (e : ErrorValue) : String :=
  "ErrorValue(code=" ++ quoted e.code ++ ", message=" ++ quoted e.message ++ ", suggestion=" ++
    (match e.suggestion with
      | some s => quoted s
      | none => "None") ++
    ", notes=" ++ shownTexts e.notes ++ ")"

mutual

/-- A value as it stands in a message. -/
def shown : Cell → String
  | absent => "None"
  | number n => n.shown
  | truth b => truthText b
  | text s => quoted s
  | list items => "[" ++ ", ".intercalate (shownItems items) ++ "]"
  | object fields => "\x7b" ++ ", ".intercalate (shownFields fields) ++ "\x7d"
  | quantity q => shownQuantity q
  | error e => shownError e

/-- The items of a list as they stand in a message. -/
def shownItems : List Cell → List String
  | [] => []
  | c :: rest => c.shown :: shownItems rest

/-- The fields of an object as they stand in a message. -/
def shownFields : List (String × Cell) → List String
  | [] => []
  | (name, c) :: rest => (quoted name ++ ": " ++ c.shown) :: shownFields rest

end

/-- The plain text of a value. -/
def plainText : Cell → String
  | number n => n.text
  | text s => s
  | quantity q => q.text
  | error e => e.message
  | c => c.shown

end Cell

end Metrology
