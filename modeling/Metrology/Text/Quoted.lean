import Metrology.Text.Printable

/-!
# Quoted text

How a text stands in a message: between single quotes, or between double quotes if it holds a
single quote and no double one. Inside, the quote in use and the backslash are escaped, tab,
line feed and carriage return have short escapes, and any other character that is not
printable is written by its number with two, four or eight hexadecimal digits.
-/

namespace Metrology.Text.Quoted

/-- The quote that surrounds a text. -/
def quoteFor (cs : List Char) : Char :=
  if cs.contains '\'' && !cs.contains '"' then '"' else '\''

/-- A number in hexadecimal, padded with zeros to `width` digits. -/
def hex (width n : Nat) : List Char :=
  let digits := Nat.toDigits 16 n
  List.replicate (width - digits.length) '0' ++ digits

/-- One character of a text between quotes. -/
def escape (quote c : Char) : List Char :=
  if c = quote ∨ c = '\\' then ['\\', c]
  else if c = '\t' then ['\\', 't']
  else if c = '\n' then ['\\', 'n']
  else if c = '\r' then ['\\', 'r']
  else if isPrintable c then [c]
  else if c.toNat < 0x100 then '\\' :: 'x' :: hex 2 c.toNat
  else if c.toNat < 0x10000 then '\\' :: 'u' :: hex 4 c.toNat
  else '\\' :: 'U' :: hex 8 c.toNat

end Quoted

/-- A text as it stands in a message. -/
def quoted (s : String) : String :=
  let quote := Quoted.quoteFor s.toList
  String.ofList (quote :: s.toList.flatMap (Quoted.escape quote) ++ [quote])

example : quoted "a'b" = "\"a'b\"" := by decide +kernel
example : quoted "m\u200bs" = "'m\\u200bs'" := by decide +kernel

end Metrology.Text
