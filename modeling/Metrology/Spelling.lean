import Metrology.Text.CaseFold

/-!
# Spelling

How far two texts are apart, and which of many candidates are closest to a misspelt one. The
distance is the number of single-character insertions, deletions and substitutions that turn
one text into the other; two spellings that differ in case only count as equal.
-/

namespace Metrology.Spelling

open Text

/-- The distances of the empty text from `b` and from every shorter end of `b`. -/
def emptyRow (b : List Char) : List Nat := (List.range (b.length + 1)).reverse

/-- The distances of `x :: a` from `b` and from every shorter end of `b`, out of those
of `a`. -/
def extendRow (x : Char) : (b : List Char) → (row : List Nat) → List Nat
  | y :: ys, d :: ds =>
    let shorter := extendRow x ys ds
    min (min (d + 1) (shorter.headD 0 + 1)) (ds.headD 0 + if x = y then 0 else 1) :: shorter
  | _, row => [row.headD 0 + 1]

/-- The distances of `a` from `b` and from every shorter end of `b`. -/
def row (a b : List Char) : List Nat := a.foldr (fun x r => extendRow x b r) (emptyRow b)

/-- The fewest single-character edits that turn one text into the other. -/
def distance (a b : String) : Nat := (row a.toList b.toList).headD 0

/-- A candidate with its distance. -/
structure Scored where
  distance : Nat
  candidate : String

/-- The order of suggestions: by distance, then by length, then by characters. -/
def Scored.le (s t : Scored) : Bool :=
  s.distance < t.distance ||
    (s.distance == t.distance &&
      (s.candidate.length < t.candidate.length ||
        (s.candidate.length == t.candidate.length && !decide (t.candidate < s.candidate))))

/-- The distance of a candidate, spellings with one folded form being at distance 0. -/
def score (fold : String → String) (symbol candidate : String) : Nat :=
  if fold candidate = fold symbol then 0 else distance symbol candidate

/-- A candidate is close if few edits lead to it and they leave something of it: among very
short texts one edit turns anything into anything. -/
def isClose (symbol : String) (maxDistance : Int) (s : Scored) : Bool :=
  s.distance ≤ maxDistance && s.distance < max symbol.length s.candidate.length

/-- The first `limit` members of a list; a negative limit leaves out that many at the end. -/
def takeLimit (limit : Int) (xs : List String) : List String :=
  if limit < 0 then xs.take (xs.length - limit.natAbs) else xs.take limit.toNat

/-- The close candidates other than the symbol itself, closest first. Spellings that differ in case
only count as equal, unless texts are folded in another way. -/
def closest (symbol : String) (candidates : List String) (maxDistance : Int := 2)
    (limit : Int := 5) (fold : String → String := caseFold) : List String :=
  if symbol = "" then []
  else
    let others := candidates.eraseDups.filter (· ≠ symbol)
    let scored := others.map fun c => Scored.mk (score fold symbol c) c
    takeLimit limit (((scored.filter (isClose symbol maxDistance)).mergeSort Scored.le).map
      Scored.candidate)

example : distance "flaw" "lawn" = 2 := by decide +kernel

end Metrology.Spelling
