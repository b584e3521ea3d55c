import Metrology.Number.Literal
import Metrology.Dimension

/-!
# Labels

The text that is shown for a unit. A quantity keeps the text that its author wrote; the label
of a result is composed from those of the operands, as text: nothing is cancelled or renamed.
-/

namespace Metrology.Label

open Text Number

/-- The superscript characters with the ASCII characters they raise. -/
def superscripts : List (Char × Char) := [
  ('⁰', '0'), ('¹', '1'), ('²', '2'), ('³', '3'), ('⁴', '4'), ('⁵', '5'), ('⁶', '6'), ('⁷', '7'),
  ('⁸', '8'), ('⁹', '9'), ('⁻', '-'), ('⁺', '+')]

/-- A superscript digit or sign. -/
def isSuperscript (c : Char) : Bool := (superscripts.lookup c).isSome

/-- A character with superscripts brought down to the line. -/
def lower (c : Char) : Char := (superscripts.lookup c).getD c

/-- The integer that a text with superscripts spells. -/
def superscriptInteger (s : String) : Except Failure Int :=
  let lowered := String.ofList (s.toList.map lower)
  match integer? lowered with
  | some n => .ok n
  | none => .error (.notAnInteger lowered)

/-- The characters of a name in a label: neither operators nor blanks nor superscripts. -/
def isBaseChar (c : Char) : Bool :=
  !(c == '*' || c == '/' || c == '·' || c == '^' || c == '(' || c == ')' || isBlank c ||
    isSuperscript c)

/-- The end of a label; one line feed may stand there. -/
def isEnd : List Char → Bool
  | [] => true
  | ['\n'] => true
  | _ => false

/-- A name with an exponent in ASCII, such as `m^2`: the name and the exponent. -/
def powerParts? (cs : List Char) : Option (List Char × Int) :=
  match cs.takeWhile isBaseChar, cs.dropWhile isBaseChar with
  | [], _ => none
  | base, '^' :: rest =>
    let (negative, rest) := sign rest
    match digitRun rest with
    | ([], _) => none
    | (run, after) =>
      if isEnd after then
        some (base, if negative then -(positional run : Int) else positional run)
      else none
  | _, _ => none

/-- A name with an exponent in superscripts, such as `m²`: the name and the exponent. -/
def superscriptParts? (cs : List Char) : Option (List Char × Int) :=
  match cs.takeWhile isBaseChar, cs.dropWhile isBaseChar with
  | [], _ => none
  | base, rest =>
    let raised := rest.takeWhile isSuperscript
    let (negative, digits) := sign (raised.map lower)
    match digitRun digits with
    | ([], _) => none
    | (run, []) =>
      if isEnd (rest.dropWhile isSuperscript) then
        some (base, if negative then -(positional run : Int) else positional run)
      else none
    | _ => none

/-- A name to an integer power: the name itself to the first, nothing to the zeroth. -/
def powerText (base : List Char) (n : Int) : String :=
  if n = 1 then String.ofList base
  else if n = 0 then ""
  else String.ofList base ++ "^" ++ toString n

/-- A name with an ASCII exponent in its one form; any other text as it is. -/
def normalizePower (s : String) : String :=
  match powerParts? s.toList with
  | some (base, n) => powerText base n
  | none => s

/-- A label of a pure number. -/
def isUnity (s : String) : Bool := strip s = "" || strip s = "1"

/-- Whether no product or quotient stands outside parentheses, `depth` of which are open. Two
stars in a row are one power sign. -/
def isSingleTermAt : (depth : Int) → List Char → Bool
  | _, [] => true
  | depth, '*' :: '*' :: rest => isSingleTermAt depth rest
  | depth, c :: rest =>
    if c = '(' then isSingleTermAt (depth + 1) rest
    else if c = ')' then isSingleTermAt (depth - 1) rest
    else if depth = 0 ∧ (c = '*' ∨ c = '/' ∨ c = '·' ∨ isBlank c = true) then false
    else isSingleTermAt depth rest

/-- A label without product or quotient outside parentheses. -/
def isSingleTerm (s : String) : Bool := isSingleTermAt 0 s.toList

/-- The label of a product. -/
def product (left right : String) : String :=
  let left := strip left
  let right := strip right
  if isUnity left then (if isUnity right then "" else right)
  else if isUnity right then left
  else
    match right.toList with
    | '1' :: '/' :: rest => left ++ "/" ++ String.ofList rest
    | _ => left ++ "*" ++ right

/-- The label of a quotient; a divisor of several terms is put in parentheses. -/
def quotient (left right : String) : String :=
  let left := strip left
  let right := strip right
  if isUnity right then (if isUnity left then "" else left)
  else
    (if isUnity left then "1" else left) ++ "/" ++
      (if isSingleTerm right then right else "(" ++ right ++ ")")

/-- The label of an integer power. -/
def power (text : String) (n : Int) : String :=
  let text := strip text
  if n = 1 then text
  else if n = 0 ∨ isUnity text = true then ""
  else
    match powerParts? text.toList with
    | some (base, k) => powerText base (k * n)
    | none =>
      match superscriptParts? text.toList with
      | some (base, k) => powerText base (k * n)
      | none =>
        if isSingleTerm text ∧ '^' ∉ text.toList then text ++ "^" ++ toString n
        else "(" ++ text ++ ")^" ++ toString n

/-! ## Base units -/

/-- The base units with their exponents, in the order in which they are written. -/
def baseUnits (d : Dimension) : List (String × Int) := [
  ("kg", d.mass), ("m", d.length), ("s", d.time), ("A", d.current), ("K", d.temperature),
  ("mol", d.amount), ("cd", d.luminosity)]

/-- A base unit with a positive exponent. -/
def factorText (base : String) (n : Int) : String :=
  if n = 1 then base else base ++ "^" ++ toString n

/-- The label of the coherent SI unit of a dimension in base units, such as `kg*m/s^2`. -/
def ofDimension (d : Dimension) : String :=
  let above := (baseUnits d).filterMap fun (base, n) =>
    if 0 < n then some (factorText base n) else none
  let below := (baseUnits d).filterMap fun (base, n) =>
    if n < 0 then some (factorText base (-n)) else none
  if above = [] ∧ below = [] then ""
  else "/".intercalate ((if above = [] then "1" else "*".intercalate above) :: below)

example : quotient "kg" "m*s" = "kg/(m*s)" := by decide +kernel
example : power "m²" 3 = "m^6" := by decide +kernel

end Metrology.Label
