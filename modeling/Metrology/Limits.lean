/-!
# Limits

The bounds that keep unit texts and unit powers small.
-/

namespace Metrology

/-- The largest magnitude of an exponent that is written, or that a power may produce. -/
def exponentLimit : Nat := 64

/-- The largest number of operators in one unit expression. -/
def operatorLimit : Nat := 128

/-- The deepest nesting of parentheses in one unit expression. -/
def nestingLimit : Nat := 32

end Metrology
