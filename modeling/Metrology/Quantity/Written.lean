import Metrology.Number.Literal
import Metrology.Failure
import Metrology.Text.Parts

/-!
# Written quantities and conversions

Reading a number and a unit from one text, either with a mark between them (`100 @ km`) or with
the number in front (`5 km`), and the two units of a conversion (`km->mi`). The unit texts are
taken as they stand, without the blanks around them; they are not read here.
-/

namespace Metrology.Written

open Text Number

/-- The number in front of a unit; `whole` is the text that it stands in. -/
def number (whole text : String) : Except Failure Rat :=
  match Number.ofText? text with
  | some q => .ok q
  | none => .error (.malformed (.noNumber whole))

/-- A value and a unit with `@` between them. -/
def marked (text : String) : Except Failure (Rat × String) :=
  match cutString "@" text with
  | some (value, unit) => (number text value).map fun q => (q, strip unit)
  | none => .error (.malformed (.noMark text))

/-- The exponent of ten in front of a text, as written, and what follows it. -/
def exponentPart (cs : List Char) : List Char × List Char :=
  match cs with
  | c :: rest =>
    if c = 'e' ∨ c = 'E' then
      let front := match rest with
        | '+' :: _ => ['+']
        | '-' :: _ => ['-']
        | _ => []
      let body := rest.drop front.length
      match body.takeWhile isDecimalDigit with
      | [] => ([], cs)
      | digits => (c :: front ++ digits, body.dropWhile isDecimalDigit)
    else ([], cs)
  | [] => ([], cs)

/-- The digits in front of a text, with point and fraction, and what follows them. The digits
before the point may be separated by underscores. -/
def mantissa? (cs : List Char) : Option (List Char × List Char) :=
  let inWhole (c : Char) : Bool := isDecimalDigit c || c == '_'
  match cs with
  | '.' :: rest =>
    match rest.takeWhile isDecimalDigit with
    | [] => none
    | part => some ('.' :: part, rest.dropWhile isDecimalDigit)
  | c :: _ =>
    if isDecimalDigit c then
      let whole := cs.takeWhile inWhole
      match cs.dropWhile inWhole with
      | '.' :: rest =>
        some (whole ++ '.' :: rest.takeWhile isDecimalDigit, rest.dropWhile isDecimalDigit)
      | rest => some (whole, rest)
    else none
  | [] => none

/-- The longest number in front of a text, blanks before it skipped, and what follows it. -/
def leadingNumber? (cs : List Char) : Option (List Char × List Char) :=
  let cs := skipBlanks cs
  let front := match cs with
    | '+' :: _ => ['+']
    | '-' :: _ => ['-']
    | _ => []
  (mantissa? (cs.drop front.length)).map fun (digits, rest) =>
    let (power, after) := exponentPart rest
    (front ++ digits ++ power, after)

/-- A value with its unit behind it, or with a mark between them. -/
def quantity (text : String) : Except Failure (Rat × String) :=
  if '@' ∈ text.toList then marked text
  else
    match leadingNumber? text.toList with
    | some (digits, rest) =>
      (number text (String.ofList digits)).map fun q => (q, String.ofList (trim rest))
    | none => .error (.malformed (.noLeadingNumber text))

/-- The marks between the units of a conversion, in the order in which they are looked for. -/
def conversionMarks : List String := ["->", "→", " to ", " in "]

/-- The units before and after the first of the marks that occurs; both must be there. -/
def conversion (text : String) : Except Failure (String × String) :=
  match conversionMarks.findSome? fun mark => cutString mark text with
  | some (source, target) =>
    let source := strip source
    let target := strip target
    if source = "" ∨ target = "" then .error (.malformed (.noConversion text))
    else .ok (source, target)
  | none => .error (.malformed (.noConversion text))

end Metrology.Written
