/-!
# Blanks

White space and what is done with it: skipping, trimming, and the text between blanks. A
blank is any white space character of Unicode, line and paragraph separators and the four
information separators included; the zero width space is none.
-/

namespace Metrology.Text

/-- White space. -/
def isBlank (c : Char) : Bool :=
  let n := c.toNat
  (0x09 ≤ n && n ≤ 0x0D) || (0x1C ≤ n && n ≤ 0x20) || n == 0x85 || n == 0xA0 || n == 0x1680 ||
    (0x2000 ≤ n && n ≤ 0x200A) || n == 0x2028 || n == 0x2029 || n == 0x202F || n == 0x205F ||
    n == 0x3000

/-- What is left after the leading blanks. -/
def skipBlanks (cs : List Char) : List Char := cs.dropWhile isBlank

/-- What is left after the trailing blanks. -/
def skipBlanksRight (cs : List Char) : List Char := (skipBlanks cs.reverse).reverse

/-- A text without the blanks around it. -/
def trim (cs : List Char) : List Char := skipBlanksRight (skipBlanks cs)

/-- A text without the blanks around it. -/
def strip (s : String) : String := String.ofList (trim s.toList)

theorem isBlank_of_isWhitespace {c : Char} (h : c.isWhitespace = true) : isBlank c = true := by
  simp only [Char.isWhitespace, Bool.or_eq_true, decide_eq_true_eq] at h
  rcases h with ((rfl | rfl) | rfl) | rfl <;> decide

theorem skipBlanks_cons_of_not {c : Char} (cs : List Char) (h : isBlank c = false) :
    skipBlanks (c :: cs) = c :: cs := by
  simp [skipBlanks, h]

theorem skipBlanks_cons_of_isBlank {c : Char} (cs : List Char) (h : isBlank c = true) :
    skipBlanks (c :: cs) = skipBlanks cs := by
  simp [skipBlanks, h]

/-- Skipping blanks never lengthens a text. -/
theorem length_skipBlanks_le (cs : List Char) : (skipBlanks cs).length ≤ cs.length :=
  (List.dropWhile_sublist isBlank).length_le

end Metrology.Text
