import Metrology.Catalog
import Metrology.Catalog.Builder
import Metrology.Catalog.Entry
import Metrology.Catalog.Standard
import Metrology.Catalog.Standard.Base
import Metrology.Catalog.Standard.Electricity
import Metrology.Catalog.Standard.Mechanics
import Metrology.Catalog.Standard.Pure
import Metrology.Cell
import Metrology.Cell.Conversion
import Metrology.Cell.Display
import Metrology.Cell.Evaluation
import Metrology.Cell.Operation
import Metrology.Cell.Reading
import Metrology.Dimension
import Metrology.Dimension.Named
import Metrology.ErrorValue
import Metrology.Exports
import Metrology.Failure
import Metrology.FunctionTable
import Metrology.FunctionTable.Standard
import Metrology.Label
import Metrology.Limits
import Metrology.Number.Decimal
import Metrology.Number.Double
import Metrology.Number.Literal
import Metrology.Number.Numeral
import Metrology.Number.Places
import Metrology.Number.Positional
import Metrology.Number.Power
import Metrology.Number.Rounding
import Metrology.Quantity
import Metrology.Quantity.Arithmetic
import Metrology.Quantity.Written
import Metrology.Scale
import Metrology.Setting
import Metrology.Simplifier
import Metrology.Spelling
import Metrology.Symbol
import Metrology.Text.Blank
import Metrology.Text.Canonical
import Metrology.Text.Canonical.Classes
import Metrology.Text.Canonical.Composites
import Metrology.Text.Canonical.Singles
import Metrology.Text.CaseFold
import Metrology.Text.CaseFold.Table
import Metrology.Text.Digit
import Metrology.Text.Parts
import Metrology.Text.Printable
import Metrology.Text.Quoted
import Metrology.UnitExpr
import Metrology.UnitExpr.Reader
import Metrology.Proofs.Measure
import Metrology.Proofs.Calculation
import Metrology.Proofs.UnitExpr.Grammar
import Metrology.Proofs.UnitExpr.Exponents
import Metrology.Proofs.UnitExpr.Terms
import Metrology.Proofs.Catalog.Building
import Metrology.Proofs.Catalog.Homonyms
import Metrology.Proofs.FunctionTable.Conversion
import Metrology.Proofs.Quantity.Faithful
import Metrology.Proofs.Catalog.Precedence
import Metrology.Proofs.Catalog.FailedRegistration
import Metrology.Proofs.UnitExpr.NetExponents
import Metrology.Proofs.Formula
import Metrology.Proofs.Quantity.Displayed
import Metrology.Proofs.Quantity.Offset
import Metrology.Proofs.Cell.Answers
import Metrology.Proofs.FunctionTable.Answers
import Metrology.Proofs.Setting
import Metrology.Proofs.Catalog.Permanence
import Metrology.Proofs.Catalog.Order
import Metrology.Proofs.Quantity.ExponentLimit
import Metrology.Proofs.Quantity.Written
import Metrology.Proofs.Quantity.Positive
import Metrology.Proofs.Cell.Quotients
import Metrology.Proofs.UnitExpr.WrittenNames
import Metrology.Proofs.Label.Raising
import Metrology.Proofs.UnitExpr.Refusals
import Metrology.Proofs.UnitExpr.Superscripts
import Metrology.Proofs.UnitExpr.PowerSpellings
import Metrology.Proofs.Label.Normal
import Metrology.Proofs.Number.Printed
import Metrology.Proofs.Quantity.WrittenConversion
import Metrology.Proofs.FunctionTable.InUnits
import Metrology.Proofs.FunctionTable.Compatibility
import Metrology.Proofs.Cell.Operators
import Metrology.Proofs.Cell.Display
import Metrology.Proofs.Spelling.Suggestions
import Metrology.Proofs.Spelling.Distance
import Metrology.Proofs.Number.Places
