import Metrology.Scale

/-!
# Catalog entries

A listing says what is to be known of a unit: its symbol and name, its scale, its category, and
the other spellings of its symbol. An entry is a listing that makes sense: its factor is
positive, and it has an offset only if it measures temperature.
-/

namespace Metrology

/-- What a catalog is told of a unit. -/
structure Listing where
  symbol : String
  name : String
  dimension : Dimension
  factor : Rat := 1
  offset : Rat := 0
  category : String := ""
  derived : Bool := false
  aliases : List String := []
  deriving DecidableEq

/-- A listing that makes sense. -/
structure Entry extends Listing where
  factor_pos : 0 < factor
  offset_eq_zero : dimension ≠ Dimension.ofTemperature → offset = 0
  deriving DecidableEq

namespace Listing

/-- A listing of a unit that is not named in simplified results. -/
def plain (category : String) (dimension : Dimension) (symbol name : String) (factor : Rat)
    (aliases : List String := []) : Listing :=
  { symbol, name, dimension, factor, category, aliases }

/-- A listing of a named derived unit. -/
def named (category : String) (dimension : Dimension) (symbol name : String) (factor : Rat)
    (aliases : List String := []) : Listing :=
  { symbol, name, dimension, factor, category, derived := true, aliases }

/-- The entry of a listing, if it makes sense. -/
def entry (l : Listing) : Except Failure Entry :=
  if factor_pos : 0 < l.factor then
    if h : l.offset = 0 ∨ l.dimension = Dimension.ofTemperature then
      .ok { l with factor_pos, offset_eq_zero := fun other => h.resolve_right other }
    else .error (.entryOffset l.symbol)
  else .error (.entryFactor l.symbol)

end Listing

namespace Entry

/-- The scale of the unit. -/
def scale (e : Entry) : Scale :=
  { dimension := e.dimension, factor := e.factor, offset := e.offset
    offset_eq_zero := e.offset_eq_zero }

/-- The keys under which an entry asks to be found. -/
def spellings (e : Entry) : List String := e.symbol :: e.aliases

end Entry

end Metrology
