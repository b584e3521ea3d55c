import Metrology.Text.CaseFold.Table

/-!
# Case folding

The caseless form of a text, in which two spellings that differ in case only are equal. One
character may fold to several, as the sharp s does.
-/

namespace Metrology.Text

/-- The folded form of one character. -/
def foldChar (c : Char) : List Char :=
  let n := c.toNat
  match foldLong.lookup n with
  | some long => long.map Char.ofNat
  | none =>
    match foldRanges.find? fun (lo, hi, step, _) => lo ≤ n && n ≤ hi && (n - lo) % step == 0 with
    | some (_, _, _, shift) => [Char.ofNat (n + shift).toNat]
    | none => [c]

/-- The folded form of a text. -/
def caseFold (s : String) : String := String.ofList (s.toList.flatMap foldChar)

example : caseFold "Stra\u00dfe" = "strasse" := by decide +kernel
example : caseFold "MPH" = caseFold "mph" := by decide +kernel

end Metrology.Text
