import Metrology.Text.Canonical.Classes
import Metrology.Text.Canonical.Composites
import Metrology.Text.Canonical.Singles

/-!
# Canonical form

The composed canonical form of a text (form C of Unicode normalisation): every character is
taken apart, marks are put in order of their combining class, and what composes is put
together again. Two canonically equivalent spellings have one form.

Characters below U+0300 are never marks, and no pair composes with one of them as its second
member; a text of such characters is in canonical form already.
-/

namespace Metrology.Text.Canonical

/-- The combining class: 0 for a base character, above 0 for a mark. -/
def combiningClass (c : Char) : Nat :=
  let n := c.toNat
  if n < 0x300 then 0
  else
    match classRanges.find? fun (lo, hi, _) => lo ≤ n && n ≤ hi with
    | some (_, _, k) => k
    | none => 0

/-! ## Hangul

A syllable is a leading consonant, a vowel and perhaps a trailing consonant, and its number
is computed from theirs. -/

/-- First syllable, first leading consonant, first vowel, and the place before the first
trailing consonant. -/
def syllableBase : Nat := 0xAC00
def leadBase : Nat := 0x1100
def vowelBase : Nat := 0x1161
def trailBase : Nat := 0x11A7

/-- Numbers of leading consonants, vowels, and trailing consonants (none counted as one). -/
def leadCount : Nat := 19
def vowelCount : Nat := 21
def trailCount : Nat := 28

/-- The consonants and the vowel of a syllable. -/
def splitSyllable? (n : Nat) : Option (List Nat) :=
  let i := n - syllableBase
  if syllableBase ≤ n ∧ i < leadCount * vowelCount * trailCount then
    let front := [leadBase + i / (vowelCount * trailCount),
      vowelBase + i % (vowelCount * trailCount) / trailCount]
    some (if i % trailCount = 0 then front else front ++ [trailBase + i % trailCount])
  else none

/-- The syllable of a leading consonant and a vowel, or of a syllable without trailing
consonant and a trailing consonant. -/
def joinSyllable? (a b : Nat) : Option Nat :=
  if leadBase ≤ a ∧ a < leadBase + leadCount ∧ vowelBase ≤ b ∧ b < vowelBase + vowelCount then
    some (syllableBase + ((a - leadBase) * vowelCount + (b - vowelBase)) * trailCount)
  else if syllableBase ≤ a ∧ a < syllableBase + leadCount * vowelCount * trailCount ∧
      (a - syllableBase) % trailCount = 0 ∧ trailBase < b ∧ b < trailBase + trailCount then
    some (a + (b - trailBase))
  else none

/-! ## Taking apart -/

/-- One step of taking a character apart. -/
def split? (n : Nat) : Option (List Nat) :=
  if n < 0xC0 then none
  else
    match splitSyllable? n with
    | some parts => some parts
    | none =>
      match (composites ++ splitOnly).lookup n with
      | some (a, b) => some [a, b]
      | none => ((singles ++ ideographSingles).lookup n).map fun a => [a]

/-- A character after `steps` steps of taking apart. -/
def expand : (steps : Nat) → Nat → List Nat
  | 0, n => [n]
  | steps + 1, n =>
    match split? n with
    | some parts => parts.flatMap (expand steps)
    | none => [n]

/-- A character taken apart completely; no character needs more than three steps. -/
def decompose (c : Char) : List Char := (expand 3 c.toNat).map Char.ofNat

/-! ## Ordering marks -/

/-- Puts a character in front of ordered marks: behind those of a smaller class, in front of
those of its own. -/
def insertMark (c : Char) : List Char → List Char
  | [] => [c]
  | d :: rest =>
    if 0 < combiningClass d ∧ combiningClass d < combiningClass c then d :: insertMark c rest
    else c :: d :: rest

/-- Every run of marks in order of class, marks of one class in the order written. -/
def orderMarks (cs : List Char) : List Char := cs.foldr insertMark []

/-! ## Putting together -/

/-- The character that `a` followed by `b` is written as. -/
def join? (a b : Char) : Option Char :=
  if b.toNat < 0x300 then none
  else
    match joinSyllable? a.toNat b.toNat with
    | some n => some (Char.ofNat n)
    | none =>
      (composites.find? fun (_, x, y) => x == a.toNat && y == b.toNat).map fun (c, _, _) =>
        Char.ofNat c

/-- A mark or base joins the last base if nothing held in between blocks it: a held mark of
its own class or a higher one does. -/
def joinsPast (held : List Char) (c : Char) : Bool :=
  match held.getLast? with
  | none => true
  | some d => combiningClass d < combiningClass c

/-- Puts together what follows `base`, with the marks `held` behind it that did not join. -/
def composeFrom (base : Char) (held : List Char) : List Char → List Char
  | [] => base :: held
  | c :: rest =>
    match if joinsPast held c then join? base c else none with
    | some joined => composeFrom joined held rest
    | none =>
      if combiningClass c = 0 then base :: held ++ composeFrom c [] rest
      else composeFrom base (held ++ [c]) rest

/-- Puts a text together; marks in front of the first base stay as they are. -/
def compose : List Char → List Char
  | [] => []
  | c :: rest => if combiningClass c = 0 then composeFrom c [] rest else c :: compose rest

end Canonical

/-- A character below U+0300: composed already, no mark, and no second member of a pair. -/
def isSettled (c : Char) : Bool := c.toNat < 0x300

/-- The composed canonical form of a text. -/
def canonical (cs : List Char) : List Char :=
  if cs.all isSettled then cs
  else Canonical.compose (Canonical.orderMarks (cs.flatMap Canonical.decompose))

/-- A text of settled characters is its own canonical form. -/
theorem canonical_of_settled {cs : List Char} (settled : ∀ c ∈ cs, isSettled c = true) :
    canonical cs = cs := by
  unfold canonical
  rw [if_pos (List.all_eq_true.2 settled)]

/-- An angstrom sign becomes the letter, and a letter with a ring is composed. -/
example : canonical ['\u212b', 'A', '\u030a'] = ['\u00c5', '\u00c5'] := by decide +kernel

end Metrology.Text
