import Metrology.Text.Blank
import Metrology.Text.Canonical

/-!
# Unit symbols

The form in which symbols are stored and looked up: without blanks around it, canonically
composed, and with Greek mu for the micro sign. Case is kept.
-/

namespace Metrology.Symbol

open Text

/-- The micro sign is written as Greek mu. -/
def foldMicro (c : Char) : Char := if c = '\u00b5' then '\u03bc' else c

/-- The form of a symbol, or of a whole unit text, under which it is looked up. -/
def normalize (s : String) : String := String.ofList ((canonical (trim s.toList)).map foldMicro)

example : normalize " \u00b5m " = "\u03bcm" := by decide +kernel

end Metrology.Symbol
