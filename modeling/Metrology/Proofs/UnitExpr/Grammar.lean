import Metrology.Proofs.Text.Runs
import Metrology.UnitExpr.Reader

/-!
# The grammar of unit expressions

Which texts spell which expression, as derivations and not as a reader:

* `full := expression blanks`;
* `expression := blanks term (blanks sign blanks term | blanks⁺ term)*`, the sign being `*`, `·`
  or `/`, and a term joined by blanks alone beginning with a name or a parenthesis;
* `term := factor (blanks (^ | **) exponent | blanks superscripts)?`;
* `exponent := blanks (exponent blanks) | blanks sign? digits`, with one to four digits;
* `factor := name | 1 | (expression blanks)`.

A derivation holds the text that it is of and all that stands after it, so that it can say of a
run of characters that it is maximal. It also counts its operators and the depth to which its
parentheses are nested. Main statement: what stands after a text matters only through the
character that follows it directly (`Derives.congr_after`).
-/

namespace Metrology.UnitExpr

open Text

/-- The characters that a number is taken to consist of. -/
def isNumberChar (c : Char) : Bool := isDigitSign c || c == '.'

/-- What a sign between terms does. -/
def jointOf? (c : Char) : Option Reader.Joint :=
  if c = '*' ∨ c = '·' then some .times else if c = '/' then some .per else none

theorem jointOf?_eq_some_iff {sign : Char} {joint : Reader.Joint} :
    jointOf? sign = some joint ↔
      (sign = '*' ∨ sign = '·') ∧ .times = joint ∨ sign = '/' ∧ .per = joint := by
  unfold jointOf?
  split
  · next times =>
    have other : sign ≠ '/' := by rcases times with rfl | rfl <;> decide
    simp [times, other]
  · next other => simp [other]

/-- What an expression to a power can be. -/
@[elab_as_elim]
theorem toPower_cases {motive : UnitExpr → Prop} (base : UnitExpr) (n : Int)
    (first : n = 1 → motive base) (zero : n = 0 → motive one)
    (other : n ≠ 1 → n ≠ 0 → motive (base.pow n)) : motive (base.toPower n) := by
  unfold toPower
  split
  · next same => exact first same
  · next differs =>
    split
    · next same => exact zero same
    · next nonzero => exact other differs nonzero

/-- A term that blanks alone may join begins with a name or a parenthesis. -/
def BeginsFactor (cs : List Char) : Prop := ∃ c ∈ cs.head?, c = '(' ∨ isNameStart c = true

/-- The sign in front of the digits of an exponent. -/
def IsSign (cs : List Char) : Prop := cs = [] ∨ cs = ['+'] ∨ cs = ['-']

/-- The integer that a sign and a run of digits stand for. -/
def signed (sign : List Char) (run : List Nat) : Int :=
  if sign = ['-'] then -(Number.positional run : Int) else Number.positional run

/-- The texts of exponents, with the integer that they spell and the depth of parentheses. -/
inductive Exponent : (text : List Char) → (value : Int) → (depth : Nat) → Prop
  | digits {blanks sign digits : List Char} {run : List Nat}
      (hblanks : Blanks blanks) (hsign : IsSign sign) (nonempty : digits ≠ [])
      (short : digits.length ≤ 4) (values : digits.mapM digitValue? = some run)
      (bounded : (signed sign run).natAbs ≤ exponentLimit) :
      Exponent (blanks ++ sign ++ digits) (signed sign run) 0
  | group {blanks text closing : List Char} {n : Int} {depth : Nat}
      (hblanks : Blanks blanks) (inner : Exponent text n depth) (hclosing : Blanks closing) :
      Exponent (blanks ++ '(' :: text ++ closing ++ [')']) n (depth + 1)

/-- The parts of a unit text. -/
inductive Part where
  | factor
  | term
  | expression

/-- `Derives part text after e operators depth`: in front of `after`, the part `text` spells
`e`, with so many operators and parentheses nested so deep. -/
inductive Derives : Part → (text after : List Char) → UnitExpr → (operators depth : Nat) → Prop
  | name {c : Char} {rest after : List Char} (start : isNameStart c = true)
      (run : ∀ d ∈ rest, isNameChar d = true) (maximal : StopsAt isNameChar after) :
      Derives .factor (c :: rest) after (.name (String.ofList (c :: rest))) 0 0
  | one {after : List Char} (maximal : StopsAt isNumberChar after) :
      Derives .factor ['1'] after .one 0 0
  | group {text closing after : List Char} {e : UnitExpr} {k d : Nat}
      (inner : Derives .expression text (closing ++ ')' :: after) e k d)
      (hclosing : Blanks closing) :
      Derives .factor ('(' :: text ++ closing ++ [')']) after e k (d + 1)
  | bare {text after : List Char} {e : UnitExpr} {k d : Nat}
      (factor : Derives .factor text after e k d) : Derives .term text after e k d
  | power {base blanks sign exponent after : List Char} {e : UnitExpr} {n : Int} {k d l : Nat}
      (factor : Derives .factor base (blanks ++ sign ++ exponent ++ after) e k d)
      (hblanks : Blanks blanks) (hsign : sign = ['^'] ∨ sign = ['*', '*'])
      (hexponent : Exponent exponent n l) :
      Derives .term (base ++ blanks ++ sign ++ exponent) after (e.toPower n) k (max d l)
  | superscript {base blanks raised after : List Char} {e : UnitExpr} {n : Int} {k d : Nat}
      (factor : Derives .factor base (blanks ++ raised ++ after) e k d)
      (hblanks : Blanks blanks) (nonempty : raised ≠ [])
      (run : ∀ c ∈ raised, Label.isSuperscript c = true)
      (maximal : StopsAt Label.isSuperscript after)
      (value : Number.integer? (String.ofList (raised.map Label.lower)) = some n)
      (bounded : n.natAbs ≤ exponentLimit) :
      Derives .term (base ++ blanks ++ raised) after (e.toPower n) k d
  | single {blanks text after : List Char} {e : UnitExpr} {k d : Nat}
      (hblanks : Blanks blanks) (term : Derives .term text after e k d) :
      Derives .expression (blanks ++ text) after e k d
  | joined {left before behind right after : List Char} {sign : Char} {joint : Reader.Joint}
      {e f : UnitExpr} {k l d m : Nat}
      (first : Derives .expression left (before ++ sign :: behind ++ right ++ after) e k d)
      (hbefore : Blanks before) (hsign : jointOf? sign = some joint) (hbehind : Blanks behind)
      (last : Derives .term right after f l m) :
      Derives .expression (left ++ before ++ sign :: behind ++ right) after (joint.apply e f)
        (k + 1 + l) (max d m)
  | juxtaposed {left between right after : List Char} {e f : UnitExpr} {k l d m : Nat}
      (first : Derives .expression left (between ++ right ++ after) e k d)
      (hbetween : Blanks between) (nonempty : between ≠ []) (begins : BeginsFactor right)
      (last : Derives .term right after f l m) :
      Derives .expression (left ++ between ++ right) after (e.mul f) (k + 1 + l) (max d m)

/-- A whole text spells an expression, blanks at its end included. -/
def Spells (cs : List Char) (e : UnitExpr) (operators depth : Nat) : Prop :=
  ∃ text blanks, cs = text ++ blanks ∧ Blanks blanks ∧
    Derives .expression text blanks e operators depth

/-! ## What stands after a part -/

/-- The classes of characters whose runs a derivation takes whole. -/
def runClasses : List (Char → Bool) := [isNameChar, isNumberChar, Label.isSuperscript]

/-- What stands after a part matters only where it would lengthen a run. -/
theorem Derives.congr_after {part : Part} {text after : List Char} {e : UnitExpr} {k d : Nat}
    (h : Derives part text after e k d) {after' : List Char}
    (stops : ∀ p ∈ runClasses, StopsAt p after → StopsAt p after') :
    Derives part text after' e k d := by
  -- a factor or expression inside the part has more of the part behind it, which stays
  induction h generalizing after' with
  | name start run maximal => exact .name start run (stops _ (by simp [runClasses]) maximal)
  | one maximal => exact .one (stops _ (by simp [runClasses]) maximal)
  | @group text closing after e k d inner hclosing ih =>
    refine .group (ih fun p _ stop => ?_) hclosing
    rw [List.append_cons] at stop ⊢
    exact stop.congr_append (by simp) after'
  | bare factor ih => exact .bare (ih stops)
  | @power base blanks sign exponent after e n k d l factor hblanks hsign hexponent ih =>
    refine .power (ih fun p _ stop => ?_) hblanks hsign hexponent
    refine stop.congr_append ?_ after'
    rcases hsign with rfl | rfl <;> simp
  | superscript factor hblanks nonempty run maximal value bounded ih =>
    refine .superscript (ih fun p _ stop => ?_) hblanks nonempty run
      (stops _ (by simp [runClasses]) maximal) value bounded
    exact stop.congr_append (by simp [nonempty]) after'
  | single hblanks term ih => exact .single hblanks (ih stops)
  | joined first hbefore hsign hbehind last ihFirst ihLast =>
    refine .joined (ihFirst fun p _ stop => ?_) hbefore hsign hbehind (ihLast stops)
    exact stop.congr_append (by simp) after'
  | juxtaposed first hbetween nonempty begins last ihFirst ihLast =>
    refine .juxtaposed (ihFirst fun p _ stop => ?_) hbetween nonempty begins (ihLast stops)
    exact stop.congr_append (by simp [nonempty]) after'

/-- Blanks may stand in front of an expression. -/
theorem Derives.blanks_append {text after : List Char} {e : UnitExpr} {k d : Nat}
    (h : Derives .expression text after e k d) {blanks : List Char} (hblanks : Blanks blanks) :
    Derives .expression (blanks ++ text) after e k d := by
  generalize hpart : Part.expression = part at h
  induction h with
  | name | one | group | bare | power | superscript => cases hpart
  | single inner term =>
    rw [← List.append_assoc]
    exact .single (hblanks.append inner) term
  | joined first hbefore hsign hbehind last ih =>
    have derived := (ih rfl).joined hbefore hsign hbehind last
    simpa using derived
  | juxtaposed first hbetween nonempty begins last ih =>
    have derived := (ih rfl).juxtaposed hbetween nonempty begins last
    simpa using derived

/-! ## Short texts -/

theorem Exponent.depth_le_length {text : List Char} {n : Int} {d : Nat} (h : Exponent text n d) :
    2 * d ≤ text.length := by
  induction h with
  | digits => exact Nat.zero_le _
  | group hblanks inner hclosing ih =>
    simp only [List.length_append, List.length_cons, List.length_nil]
    omega

/-- A part has more characters than operators, and two for each level of parentheses. -/
theorem Derives.counts_le_length {part : Part} {text after : List Char} {e : UnitExpr} {k d : Nat}
    (h : Derives part text after e k d) : k + 1 ≤ text.length ∧ 2 * d ≤ text.length := by
  induction h with
  | name | one => simp
  | group inner hclosing ih =>
    simp only [List.length_append, List.length_cons, List.length_nil]
    omega
  | bare factor ih => exact ih
  | power factor hblanks hsign hexponent ih =>
    have depth := hexponent.depth_le_length
    simp only [List.length_append]
    omega
  | superscript factor hblanks nonempty run maximal value bounded ih =>
    simp only [List.length_append]
    omega
  | single hblanks term ih =>
    simp only [List.length_append]
    omega
  | joined first hbefore hsign hbehind last ihFirst ihLast =>
    simp only [List.length_append, List.length_cons]
    omega
  | juxtaposed first hbetween nonempty begins last ihFirst ihLast =>
    have gap := List.length_pos_iff.2 nonempty
    simp only [List.length_append]
    omega

theorem Spells.counts_le_length {cs : List Char} {e : UnitExpr} {k d : Nat}
    (h : Spells cs e k d) : k + 1 ≤ cs.length ∧ 2 * d ≤ cs.length := by
  obtain ⟨text, blanks, rfl, -, derived⟩ := h
  have counts := derived.counts_le_length
  rw [List.length_append]
  omega

/-- A text that is no longer than the parentheses nested as deep as they may be keeps to both
limits. -/
theorem Spells.counts_of_length_le {cs : List Char} {e : UnitExpr} {k d : Nat}
    (h : Spells cs e k d) (short : cs.length ≤ 2 * nestingLimit) :
    k ≤ operatorLimit ∧ d ≤ nestingLimit := by
  have counts := h.counts_le_length
  have limits : 2 * nestingLimit ≤ operatorLimit := by decide
  omega

end Metrology.UnitExpr
