import Metrology.Limits
import Metrology.Text.Quoted

/-!
# Failures

Why an operation has no result. A failure is a cause with the data that its message needs; the
wording of all messages stands in this module. Callers tell failures apart by kind: parse
failures, domain failures, failures of type and so on.
-/

namespace Metrology

open Text

/-- What is wrong with a text that should spell a unit, a quantity or a conversion. Positions
count characters from 0. -/
inductive Malformed where
  | strayCharacters (found text : String)
  | trailing (position : Nat) (rest : String)
  | tooManyOperators
  | tooDeep (position : Nat)
  | exponentTooLarge (exponent : Int) (position : Nat)
  | exponentTooLong (digits : String) (position : Nat)
  | badSuperscript (text : String)
  | strayNumber (digits : String) (position : Nat)
  | noFactor (position : Nat) (found : String)
  | notClosed (position : Nat) (found : String)
  | exponentNotInteger (text : String) (position : Nat)
  | noMark (text : String)
  | noNumber (text : String)
  | noLeadingNumber (text : String)
  | noConversion (text : String)
  deriving DecidableEq

namespace Malformed

/-- The message of a malformed text. -/
def message : Malformed → String
  | strayCharacters found text =>
    "Unexpected character(s) " ++ quoted found ++ " in unit expression " ++ quoted text
  | trailing position rest =>
    "Unexpected trailing input at " ++ toString position ++ ": " ++ quoted rest
  | tooManyOperators =>
    "Unit expression has more than " ++ toString operatorLimit ++ " operators"
  | tooDeep position =>
    "Parentheses nested deeper than " ++ toString nestingLimit ++ " at " ++ toString position
  | exponentTooLarge exponent position =>
    "exponent " ++ toString exponent ++ " at " ++ toString position ++ " is too large (limit " ++
      toString exponentLimit ++ ")"
  | exponentTooLong digits position =>
    "exponent " ++ quoted digits ++ " at " ++ toString position ++ " is too large (limit " ++
      toString exponentLimit ++ ")"
  | badSuperscript text => "Bad superscript exponent " ++ quoted text
  | strayNumber digits position =>
    "Unexpected number " ++ quoted digits ++ " at " ++ toString position ++
      "; only '1' may stand for a unit"
  | noFactor position found =>
    "Expected unit name or '(' at " ++ toString position ++ ", got " ++ quoted found
  | notClosed position found =>
    "Expected ')' at " ++ toString position ++ ", got " ++ quoted found
  | exponentNotInteger text position =>
    "non-integer exponent " ++ quoted text ++ " at " ++ toString position
  | noMark text => "Expected 'value @ unit', got " ++ quoted text
  | noNumber text => "Expected a number before the unit in " ++ quoted text
  | noLeadingNumber text => "Expected a number followed by a unit, got " ++ quoted text
  | noConversion text => "Expected a conversion like 'km->mi', got " ++ quoted text

end Malformed

/-- What decimal arithmetic reports instead of a number. -/
inductive DecimalFault where
  /-- A text that spells no decimal number. -/
  | spelling
  /-- Exponents out of range, or a NaN where numbers are put in order. -/
  | range
  /-- A result too large to be held. -/
  | overflow
  deriving DecidableEq

/-- The message of a fault of decimal arithmetic: the condition that was met. -/
def DecimalFault.message : DecimalFault → String
  | spelling => "[<class 'decimal.ConversionSyntax'>]"
  | range => "[<class 'decimal.InvalidOperation'>]"
  | overflow => "[<class 'decimal.Overflow'>]"

/-- The kinds of failure that callers tell apart. -/
inductive FailureKind where
  | value
  | type
  | overflow
  | divisionByZero
  | invalidDecimal
  | decimalOverflow
  | memory
  | malformed
  | unknownUnit
  | domain
  | mismatch
  | temperatureScales
  | exponent
  | missingKey
  | missingName
  | other (name : String)
  deriving DecidableEq

namespace FailureKind

/-- A text that does not spell what it should, a name that is not found included. -/
def isMalformed : FailureKind → Bool
  | malformed | unknownUnit => true
  | _ => false

/-- A well-formed operation that is not defined for its operands. -/
def isDomain : FailureKind → Bool
  | domain | mismatch | temperatureScales | exponent => true
  | _ => false

/-- An operand of the wrong type; quantities of different dimensions count as such. -/
def isType : FailureKind → Bool
  | type | mismatch => true
  | _ => false

/-- An operand of a right type with a wrong value. -/
def isValue (k : FailureKind) : Bool :=
  k = value || k.isMalformed || k.isDomain

/-- Failures of arithmetic itself. -/
def isArithmetic : FailureKind → Bool
  | overflow | divisionByZero | invalidDecimal | decimalOverflow => true
  | _ => false

/-- The failures that evaluation turns into values; any other is the caller's. -/
def isRecoverable (k : FailureKind) : Bool := k.isValue || k.isType || k.isArithmetic

end FailureKind

/-- Why an operation has no result. -/
inductive Failure where
  /-- A failure that a registered function reports in its own words. -/
  | raised (kind : FailureKind) (text : String)
  /-- An operation that the operands do not have at all. -/
  | unsupported
  | notFinite (shown : String)
  | notANumber (text : String)
  | notNumeric (type : String)
  | truthValue
  | notAnInteger (text : String)
  | notAFraction (text : String)
  | notADouble (text : String)
  | noRatio
  | infiniteRatio
  | quotientTooLarge
  | integerTooLarge
  | powerTooLarge
  | decimalFault (fault : DecimalFault)
  | precisionRange
  | precisionSize
  | outOfMemory
  | dimensionLength
  | dimensionEntry (shown : String)
  | dimensionPower (type : String)
  | dimensionModulus
  | offsetDimension
  | entryFactor (symbol : String)
  | entryOffset (symbol : String)
  | symbolTaken (key name owner : String)
  | aliasTarget (spelling symbol : String)
  | unknownUnit (symbol : String) (suggestions : List String)
  | malformed (cause : Malformed)
  | zeroFactor
  | powerTooHigh (exponent : String)
  | negativeBase (shown : String)
  | mismatch (left right action : String)
  | temperatureScales (left right : String)
  | fractionalExponent (shown unit : String)
  | exponentType (type : String)
  | divisionByZero
  | unknownPolicy (shown : String)
  | badPrecision (shown : String)
  | unknownOperator (text : String)
  | functionTaken (name : String)
  | unknownFunction (name : String)
  | noExport (library name : String)
  deriving DecidableEq

namespace Failure

/-- The kind of a failure. -/
def kind : Failure → FailureKind
  | raised kind _ => kind
  | unsupported | notNumeric _ | truthValue | dimensionEntry _ | dimensionPower _
  | dimensionModulus | exponentType _ => .type
  | notFinite _ | notANumber _ | notAnInteger _ | notAFraction _ | notADouble _
  | noRatio | precisionRange | dimensionLength
  | offsetDimension | entryFactor _ | entryOffset _ | symbolTaken .. | aliasTarget ..
  | unknownPolicy _ | badPrecision _ | unknownOperator _ | functionTaken _ => .value
  | infiniteRatio | quotientTooLarge | integerTooLarge | powerTooLarge | precisionSize => .overflow
  | decimalFault .overflow => .decimalOverflow
  | decimalFault _ => .invalidDecimal
  | outOfMemory => .memory
  | unknownUnit .. => .unknownUnit
  | malformed _ => .malformed
  | zeroFactor | powerTooHigh _ | negativeBase _ => .domain
  | mismatch .. => .mismatch
  | temperatureScales .. => .temperatureScales
  | fractionalExponent .. => .exponent
  | divisionByZero => .divisionByZero
  | unknownFunction _ => .missingKey
  | noExport .. => .missingName

/-- A unit text as it stands in a message: `1` if it is empty. -/
def unitShown (text : String) : String := if text = "" then "1" else text

/-- The message of a failure. -/
def message : Failure → String
  | raised _ text => text
  | unsupported => "operation not supported for these operands"
  | notFinite shown => "non-finite number: " ++ shown
  | notANumber text => "Not a number: " ++ quoted text
  | notNumeric type => "Expected a number, got " ++ type
  | truthValue => "bool is not a number"
  | notAnInteger text =>
    "invalid literal for int() with base 10: " ++ String.ofList ((quoted text).toList.take 200)
  | notAFraction text => "Invalid literal for Fraction: " ++ quoted text
  | notADouble text => "could not convert string to float: " ++ quoted text
  | noRatio => "cannot convert NaN to integer ratio"
  | infiniteRatio => "cannot convert Infinity to integer ratio"
  | quotientTooLarge => "integer division result too large for a float"
  | integerTooLarge => "int too large to convert to float"
  | decimalFault fault => fault.message
  | powerTooLarge => "(34, 'Numerical result out of range')"
  | precisionRange => "valid range for prec is [1, MAX_PREC]"
  | precisionSize => "Python int too large to convert to C ssize_t"
  | outOfMemory => ""
  | dimensionLength => "Dimension must have length 7 (L, M, T, I, Θ, N, J)."
  | dimensionEntry shown => "Dimension exponents must be integers, got " ++ shown
  | dimensionPower type => "Dimension exponent must be an int, got " ++ type
  | dimensionModulus => "Modulo exponentiation is not supported for Dimension."
  | offsetDimension => "Only a pure temperature unit may carry an offset"
  | entryFactor symbol => symbol ++ ": to_si_factor must be positive"
  | entryOffset symbol => symbol ++ ": only pure temperature units may carry an offset"
  | symbolTaken key name owner =>
    "Cannot register '" ++ key ++ "' for " ++ name ++ ": already used by " ++ owner ++
      " with the same dimension."
  | aliasTarget spelling symbol =>
    "Cannot alias '" ++ spelling ++ "': unknown unit '" ++ symbol ++ "'"
  | unknownUnit symbol suggestions =>
    "Unknown unit symbol: " ++ quoted symbol ++
      (if suggestions = [] then ""
       else " (did you mean " ++ ", ".intercalate suggestions ++ "?)")
  | malformed cause => cause.message
  | zeroFactor => "cannot convert into a unit with a zero SI factor"
  | powerTooHigh exponent =>
    "unit exponent " ++ exponent ++ " is too large (limit " ++ toString exponentLimit ++ ")"
  | negativeBase shown => "cannot raise negative number " ++ shown ++ " to a fractional power"
  | mismatch left right action =>
    "Cannot " ++ action ++ " '" ++ unitShown left ++ "' and '" ++ unitShown right ++
      "': incompatible dimensions"
  | temperatureScales left right =>
    "Cannot add temperatures on different scales ('" ++ left ++ "' and '" ++ right ++
      "'); use convert() to bring them onto one scale first"
  | fractionalExponent shown unit =>
    "non-integer unit exponent " ++ shown ++ (if unit = "" then "" else " on '" ++ unit ++ "'")
  | exponentType type => "Exponent must be a number, got " ++ type
  | divisionByZero => "division by zero"
  | unknownPolicy shown =>
    "Unknown unit policy " ++ shown ++ "; expected one of: SI, imperial"
  | badPrecision shown => "precision must be a positive integer, got " ++ shown
  | unknownOperator text => "Unknown operator " ++ quoted text
  | functionTaken name => "Function " ++ quoted name ++ " is already registered"
  | unknownFunction name => quoted name
  | noExport library name =>
    "module " ++ quoted library ++ " has no attribute " ++ quoted name

end Failure

end Metrology
