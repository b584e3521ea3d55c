import Metrology.Label
import Metrology.UnitExpr

/-!
# Reading unit expressions

The grammar of unit texts, blanks allowed around every sign:

* an expression is a sequence of terms, each joined to those before it by `*`, `·`, `/`, or by
  a blank alone if the next term begins with a name or a parenthesis;
* a term is a factor with at most one power, `^` or `**` and an integer, or superscripts;
* a factor is a name, the digit `1`, or an expression in parentheses.

Joining is left-associative. An integer after a power sign may stand in parentheses, has at
most four digits, and its magnitude is bounded; so are the nesting of parentheses and the
number of joints. These two bounds are also what the recursion is on: `levels` counts the
parentheses that may still be opened, and a cursor carries the joints that may still follow.
-/

namespace Metrology.UnitExpr

open Text

/-! ## Characters -/

/-- The characters of operators and parentheses. -/
def isOperatorChar (c : Char) : Bool :=
  c == '*' || c == '/' || c == '·' || c == '^' || c == '(' || c == ')'

/-- The characters that no unit text may hold, in order. -/
def strayChars : List Char := [
  '!', '"', '#', '$', '%', '&', '\'', ',', ':', ';', '<', '=', '>', '?', '@', '[', '\\', ']',
  '\x60', '\x7b', '|', '\x7d', '~']

/-- The characters of names. -/
def isNameChar (c : Char) : Bool :=
  !(isBlank c || isOperatorChar c || Label.isSuperscript c || c == '+' || c == '-' ||
    strayChars.contains c)

/-- The characters that a name may begin with. -/
def isNameStart (c : Char) : Bool := isNameChar c && !isDigitSign c

namespace Reader

/-- What is left to read, and how many joints may still follow. -/
structure Cursor where
  rest : List Char
  joints : Nat

/-- Where `rest` begins, in a text of `size` characters that ends with it. -/
def position (size : Nat) (rest : List Char) : Nat := size - rest.length

/-! ## Exponents -/

/-- The exponent, if it is not too large; it was read at `rest`. -/
def bounded (size : Nat) (rest : List Char) (n : Int) : Except Failure Int :=
  if exponentLimit < n.natAbs then
    .error (.malformed (.exponentTooLarge n (position size rest)))
  else .ok n

/-- Skips blanks and a closing parenthesis. -/
def close (size : Nat) (cs : List Char) : Except Failure (List Char) :=
  match skipBlanks cs with
  | ')' :: rest => .ok rest
  | rest => .error (.malformed (.notClosed (position size rest) (String.ofList (rest.take 1))))

/-- The sign in front of a text. -/
def signText : List Char → List Char
  | '+' :: _ => ['+']
  | '-' :: _ => ['-']
  | _ => []

/-- Whether a text goes on as a number that is no integer would after its first digits. -/
def startsFraction : List Char → Bool
  | c :: _ => c == '.' || c == 'e' || c == 'E'
  | [] => false

/-- The characters that a misplaced exponent is shown with. -/
def isExponentText (c : Char) : Bool :=
  !(isBlank c || c == '*' || c == '/' || c == '·' || c == ')')

/-- Reads an integer exponent of at most four digits. -/
def integer (size : Nat) (cs : List Char) : Except Failure (Int × List Char) :=
  let front := signText cs
  let body := cs.drop front.length
  let digits := body.takeWhile isDigitSign
  let after := body.dropWhile isDigitSign
  if digits = [] ∨ startsFraction after = true then
    let shown := front ++ digits ++ after.takeWhile isExponentText
    .error (.malformed (.exponentNotInteger
      (if shown = [] then "?" else String.ofList shown) (position size cs)))
  else if 4 < digits.length then
    .error (.malformed (.exponentTooLong (String.ofList (front ++ digits)) (position size cs)))
  else
    match digits.mapM digitValue? with
    | none => .error (.notAnInteger (String.ofList (front ++ digits)))
    | some run =>
      let n : Int := Number.positional run
      match bounded size cs (if front = ['-'] then -n else n) with
      | .ok n => .ok (n, after)
      | .error f => .error f

/-- Reads an exponent: an integer, or an exponent in parentheses. -/
def exponent (size : Nat) : (levels : Nat) → List Char → Except Failure (Int × List Char)
  | levels, cs =>
    match skipBlanks cs with
    | '(' :: rest =>
      match levels with
      | 0 => .error (.malformed (.tooDeep (position size ('(' :: rest))))
      | levels + 1 =>
        match exponent size levels rest with
        | .ok (n, after) => (close size after).map fun after => (n, after)
        | .error f => .error f
    | rest => integer size rest

/-- Reads a run of superscripts as an integer. -/
def superscript (size : Nat) (cs : List Char) : Except Failure (Int × List Char) :=
  let raised := cs.takeWhile Label.isSuperscript
  match Number.integer? (String.ofList (raised.map Label.lower)) with
  | some n => (bounded size cs n).map fun n => (n, cs.dropWhile Label.isSuperscript)
  | none => .error (.malformed (.badSuperscript (String.ofList raised)))

/-- Reads the power behind a factor, if there is one. Blanks may stand in front of any power;
where none follows, the text is left as it was. -/
def power (size levels : Nat) (base : UnitExpr) (cs : List Char) :
    Except Failure (UnitExpr × List Char) :=
  match skipBlanks cs with
  | '*' :: '*' :: rest => (exponent size levels rest).map fun (n, after) => (base.toPower n, after)
  | '^' :: rest => (exponent size levels rest).map fun (n, after) => (base.toPower n, after)
  | c :: rest =>
    if Label.isSuperscript c then
      (superscript size (c :: rest)).map fun (n, after) => (base.toPower n, after)
    else .ok (base, cs)
  | [] => .ok (base, cs)

/-! ## Terms and expressions -/

/-- How a term is joined to those before it. -/
inductive Joint where
  | times
  | per

/-- Joins a term to those before it. -/
def Joint.apply : Joint → UnitExpr → UnitExpr → UnitExpr
  | times, left, right => left.mul right
  | per, left, right => left.div right

/-- The joint in front of a text, and the text of the term that it joins. A blank joins a name
or a parenthesis; two stars are no joint. -/
def joint? (cs : List Char) : Option (Joint × List Char) :=
  match skipBlanks cs with
  | [] => none
  | c :: rest =>
    if c = '*' then (if rest.head? = some '*' then none else some (.times, rest))
    else if c = '·' then some (.times, rest)
    else if c = '/' then some (.per, rest)
    else if (cs.head?.any isBlank) = true ∧ (c = '(' ∨ isNameStart c = true) then
      some (.times, c :: rest)
    else none

/-- A step that reads a part of an expression. -/
abbrev Step := Cursor → Except Failure (UnitExpr × Cursor)

/-- Reads a factor and the power behind it. -/
def term (size levels : Nat) (factor : Step) : Step := fun c =>
  match factor c with
  | .ok (base, after) =>
    (power size levels base after.rest).map fun (e, rest) => (e, { after with rest })
  | .error f => .error f

/-- Reads the terms that are joined to `left`. The first argument is at least the number of
joints that the cursor allows, and so never runs out first. -/
def products (term : Step) : Nat → UnitExpr → Step
  | fuel, left, c =>
    match joint? c.rest with
    | none => .ok (left, c)
    | some (joint, rest) =>
      match fuel, c.joints with
      | fuel + 1, joints + 1 =>
        match term ⟨rest, joints⟩ with
        | .ok (right, after) => products term fuel (joint.apply left right) after
        | .error f => .error f
      | _, _ => .error (.malformed .tooManyOperators)

/-- Reads a term and those joined to it. -/
def terms (term : Step) : Step := fun c =>
  match term c with
  | .ok (left, after) => products term after.joints left after
  | .error f => .error f

/-- Reads a factor that is not in parentheses. -/
def atom (size : Nat) (cs : List Char) : Except Failure (UnitExpr × List Char) :=
  match cs with
  | c :: _ =>
    if isDigitSign c then
      let inNumber (d : Char) : Bool := isDigitSign d || d == '.'
      let run := cs.takeWhile inNumber
      if run = ['1'] then .ok (.one, cs.dropWhile inNumber)
      else .error (.malformed (.strayNumber (String.ofList run) (position size cs)))
    else if isNameChar c then
      .ok (.name (String.ofList (cs.takeWhile isNameChar)), cs.dropWhile isNameChar)
    else .error (.malformed (.noFactor (position size cs) (String.ofList [c])))
  | [] => .error (.malformed (.noFactor (position size cs) ""))

/-- Reads a factor. -/
def factor (size : Nat) : (levels : Nat) → Step
  | levels, c =>
    match skipBlanks c.rest with
    | '(' :: rest =>
      match levels with
      | 0 => .error (.malformed (.tooDeep (position size ('(' :: rest))))
      | levels + 1 =>
        match terms (term size levels (factor size levels)) { c with rest } with
        | .ok (e, after) => (close size after.rest).map fun rest => (e, { after with rest })
        | .error f => .error f
    | cs => (atom size cs).map fun (e, rest) => (e, { c with rest })

/-- Reads an expression in which `levels` parentheses may be nested. -/
def expression (size levels : Nat) : Step := terms (term size levels (factor size levels))

end Reader

/-- Reads a whole text as an expression. -/
def ofChars (cs : List Char) : Except Failure UnitExpr :=
  match strayChars.filter cs.contains with
  | [] =>
    match Reader.expression cs.length nestingLimit ⟨cs, operatorLimit⟩ with
    | .ok (e, after) =>
      match skipBlanks after.rest with
      | [] => .ok e
      | rest =>
        .error (.malformed (.trailing (Reader.position cs.length rest)
          (String.ofList (rest.take 10))))
    | .error f => .error f
  | stray =>
    .error (.malformed (.strayCharacters (String.ofList stray) (String.ofList cs)))

/-- The expression that a text spells, read in the normal form of symbols. -/
def ofText (s : String) : Except Failure UnitExpr := ofChars (Symbol.normalize s).toList

end UnitExpr

namespace Catalog

/-- The scale that a unit text names. An empty text names the unit one. A hint and an offset
count only where the whole text is a single name. -/
def unit (c : Catalog) (text : String) (hint : Option Dimension := none) : Except Failure Scale :=
  let text := Symbol.normalize text
  if text = "" then .ok Scale.one
  else
    match UnitExpr.ofChars text.toList with
    | .ok (.name s) => c.named s hint
    | .ok e => c.scaleOf e
    | .error f => .error f

end Catalog

end Metrology
