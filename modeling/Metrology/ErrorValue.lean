import Metrology.Failure

/-!
# Error values

An error that travels through evaluation as an ordinary value, so that one failing cell does
not stop the cells that do not depend on it. It keeps a code, a message, perhaps a suggestion,
and a note for every operation that it passed through.
-/

namespace Metrology

/-- An error as a value. -/
structure ErrorValue where
  code : String
  message : String
  suggestion : Option String := none
  notes : List String := []
  deriving DecidableEq

namespace ErrorValue

/-- Adds a note behind those already there. -/
def withNote (e : ErrorValue) (note : String) : ErrorValue := { e with notes := e.notes ++ [note] }

/-- Replaces the suggestion. -/
def withSuggestion (e : ErrorValue) (suggestion : String) : ErrorValue :=
  { e with suggestion := some suggestion }

/-- A text could not be read. -/
def parseError (details : String) (suggestion : Option String := none) : ErrorValue :=
  { code := "PARSE_ERROR", message := "Parse error: " ++ details, suggestion }

/-- An operation is not defined for its operands. -/
def domainError (details : String) : ErrorValue :=
  { code := "DOMAIN_ERROR", message := "Domain error: " ++ details }

/-- A divisor is zero. -/
def divZero : ErrorValue :=
  { code := "DIV_ZERO", message := "Division by zero"
    suggestion := some "Ensure divisor is not zero" }

/-- An operand has a type that the operation does not take. -/
def typeError (expected got : String) : ErrorValue :=
  { code := "TYPE_ERROR", message := "Expected " ++ expected ++ ", got " ++ got }

/-- A function is called with a wrong number of arguments. -/
def argCount (function expected : String) (got : Int) : ErrorValue :=
  { code := "ARG_COUNT"
    message := function ++ "() expects " ++ expected ++ " arguments, got " ++ toString got
    suggestion := some ("Use help('" ++ function ++ "') for usage") }

/-- An argument of a function has a wrong type. -/
def argType (function argument expected got : String) : ErrorValue :=
  { code := "ARG_TYPE"
    message := function ++ "() argument '" ++ argument ++ "': expected " ++ expected ++ ", got " ++
      got }

/-- A name is called that no function has. -/
def undefinedFunction (name : String) (similar : List String := []) : ErrorValue :=
  { code := "UNDEFINED_FUNC", message := "Unknown function: " ++ name
    suggestion := if similar = [] then none else some ("Similar: " ++ ", ".intercalate similar) }

/-- The value that a failure becomes. -/
def ofFailure (f : Failure) : ErrorValue :=
  match f with
  | .unknownUnit _ suggestions =>
    parseError f.message
      (if suggestions = [] then none else some ("Did you mean: " ++ ", ".intercalate suggestions))
  | _ =>
    if f.kind.isMalformed then parseError f.message
    else if f.kind = .divisionByZero then divZero
    else if f.kind.isDomain then domainError f.message
    else if f.kind.isType then { code := "TYPE_ERROR", message := f.message }
    else domainError f.message

/-- Notes do not touch what the error says. -/
@[simp] theorem message_withNote (e : ErrorValue) (note : String) :
    (e.withNote note).message = e.message := rfl

@[simp] theorem code_withNote (e : ErrorValue) (note : String) :
    (e.withNote note).code = e.code := rfl

@[simp] theorem notes_withNote (e : ErrorValue) (note : String) :
    (e.withNote note).notes = e.notes ++ [note] := rfl

end ErrorValue

end Metrology
