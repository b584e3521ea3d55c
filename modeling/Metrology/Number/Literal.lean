import Metrology.Text.Blank
import Metrology.Text.Digit

/-!
# Number literals

Reading numbers from text. A rational number is written as a quotient of two digit runs, or in
decimal with a point and an exponent, both optional; an integer as a single digit run. In a
run, single underscores may separate digits, and digits of every decimal script count. The
readers never read part of a text.
-/

namespace Metrology.Number

open Text

/-- The leading run of digits, by value, and what follows it. -/
def digitRun : List Char → List Nat × List Char
  | [] => ([], [])
  | c :: rest =>
    match digitValue? c with
    | some d =>
      let (run, after) := digitRun rest
      (d :: run, after)
    | none => ([], c :: rest)

/-- The number that a run of digits stands for. -/
def positional (run : List Nat) : Nat := run.foldl (fun n d => 10 * n + d) 0

/-- Whether a minus sign stands in front, and what follows the sign, if there is one. -/
def sign : List Char → Bool × List Char
  | '-' :: rest => (true, rest)
  | '+' :: rest => (false, rest)
  | cs => (false, cs)

/-- The leading run of digits, of which neighbours may be separated by one underscore, by value,
and what follows it. -/
def digitGroups : List Char → List Nat × List Char
  | [] => ([], [])
  | [c] =>
    match digitValue? c with
    | some d => ([d], [])
    | none => ([], [c])
  | c :: next :: rest =>
    match digitValue? c with
    | none => ([], c :: next :: rest)
    | some d =>
      if next = '_' then
        match digitGroups rest with
        | ([], _) => ([d], next :: rest)
        | (run, after) => (d :: run, after)
      else
        let (run, after) := digitGroups (next :: rest)
        (d :: run, after)

/-- The exponent of ten in front of a text and what follows it; 0 if none is written. -/
def exponent (cs : List Char) : Int × List Char :=
  match cs with
  | [] => (0, cs)
  | c :: rest =>
    if c = 'e' ∨ c = 'E' then
      let (negative, rest) := sign rest
      match digitGroups rest with
      | ([], _) => (0, cs)
      | (run, after) => (if negative then -(positional run : Int) else positional run, after)
    else (0, cs)

/-- The decimal number whose digits before and after the point are `whole` and `part`. -/
def decimal (whole part : List Nat) (power : Int) : Rat :=
  positional (whole ++ part) * (10 : Rat) ^ (power - part.length)

/-- Why a text spells no rational number. -/
inductive Misspelling where
  /-- It has not the form of a number. -/
  | form
  /-- Behind the point stands a run of the letter `d`, which has the form of digits but is no
  integer. -/
  | letters (run : List Char)
  /-- The number below the bar is zero. -/
  | zeroBelow
  deriving DecidableEq

/-- The letter that counts as a digit behind the point, as far as the form goes. -/
def isDigitLetter (c : Char) : Bool := c == 'd' || c == 'D'

/-- An unsigned number in front of a text, or why it is none in spite of its form, and what
follows it. -/
def unsigned (cs : List Char) : Option (Except Misspelling Rat × List Char) :=
  match digitGroups cs with
  | ([], '.' :: rest) =>
    match digitGroups rest with
    | ([], _) => none
    | (part, rest) =>
      let (power, after) := exponent rest
      some (.ok (decimal [] part power), after)
  | ([], _) => none
  | (whole, '/' :: rest) =>
    match digitGroups rest with
    | ([], _) => none
    | (below, after) =>
      if positional below = 0 then some (.error .zeroBelow, after)
      else some (.ok ((positional whole : Rat) / (positional below : Rat)), after)
  | (whole, '.' :: rest) =>
    match rest.takeWhile isDigitLetter with
    | [] =>
      let (part, rest) := digitGroups rest
      let (power, after) := exponent rest
      some (.ok (decimal whole part power), after)
    | run => some (.error (.letters run), (exponent (rest.dropWhile isDigitLetter)).2)
  | (whole, rest) =>
    let (power, after) := exponent rest
    some (.ok (decimal whole [] power), after)

/-- The rational number that a whole text spells, blanks around it allowed. -/
def readRat (cs : List Char) : Except Misspelling Rat :=
  let (negative, rest) := sign (skipBlanks cs)
  match unsigned rest with
  | some (value, after) =>
    if skipBlanks after = [] then value.map fun q => if negative then -q else q
    else .error .form
  | none => .error .form

/-- The rational number that a text spells; blanks around it and underscores do not count. -/
def ofText? (s : String) : Option Rat :=
  (readRat ((trim s.toList).filter (· ≠ '_'))).toOption

/-- The blanks that may surround an integer or a double: the information separators may not. -/
def isNumeralMargin (c : Char) : Bool := isBlank c && !(0x1C ≤ c.toNat && c.toNat ≤ 0x1F)

/-- A text without the blanks that may surround an integer or a double. -/
def withoutMargin (cs : List Char) : List Char :=
  ((cs.dropWhile isNumeralMargin).reverse.dropWhile isNumeralMargin).reverse

/-- The integer that a whole text spells. -/
def integer? (s : String) : Option Int :=
  let (negative, rest) := sign (withoutMargin s.toList)
  match digitGroups rest with
  | ([], _) => none
  | (run, []) => some (if negative then -(positional run : Int) else positional run)
  | _ => none

/-- Reading a run of digits loses nothing: what follows is a suffix of the text. -/
theorem length_digitRun (cs : List Char) :
    (digitRun cs).1.length + (digitRun cs).2.length = cs.length := by
  induction cs with
  | nil => rfl
  | cons c rest ih =>
    unfold digitRun
    split
    · simp only [List.length_cons]; omega
    · simp

example : readRat ['1', '.', 'd'] = .error (.letters ['d']) := rfl
example : (readRat "1_0/2_5".toList).toOption = some (2 / 5) := by decide +kernel
example : ofText? " 9.8 " = some (49 / 5) := by decide +kernel
example : ofText? "1e-3" = some (1 / 1000) ∧ ofText? "3/-4" = none := by decide +kernel
example : integer? "1_0" = some 10 ∧ integer? "1__0" = none := by decide +kernel

end Metrology.Number
