import Metrology.Proofs.Number.Plain
import Metrology.Proofs.Text.Parts
import Metrology.Quantity
import Metrology.Quantity.Written

/-!
# Displayed quantities are read back

A number text is cut off in front of whatever does not go on with it, and a blank does not
(`leadingNumber?_append`). So a unit text behind a blank is neither taken for a part of the number
nor cut, whatever it begins with, and the text of a quantity is read as the number that it shows and
the label (`text_read_back`).
-/

namespace Metrology

namespace Text

theorem blanks_space : Blanks [' '] := by
  intro c mem
  rw [List.mem_singleton.1 mem]
  decide

end Text

namespace Written

open Text Number

variable {cs rest : List Char} {q : Rat}

/-- The characters that go on with a number: digits and separators, the point, and the marks of an
exponent. -/
def continuesNumber (c : Char) : Bool := inRun c || ['.', 'e', 'E'].contains c

theorem continuesNumber_eq_false {c : Char} (h : continuesNumber c = false) :
    inRun c = false ∧ c ≠ '.' ∧ c ≠ 'e' ∧ c ≠ 'E' := by
  simpa [continuesNumber] using h

theorem exponentPart_of_stopsAt (stop : StopsAt continuesNumber rest) :
    exponentPart rest = ([], rest) := by
  cases rest with
  | nil => rfl
  | cons c rest =>
    obtain ⟨-, -, lower, upper⟩ := continuesNumber_eq_false (stopsAt_cons.1 stop)
    simp only [exponentPart, lower, upper, or_self, if_false]

/-- A number that begins with a digit: a run of digits, and what a point adds to it. -/
theorem mantissa?_of_digit {c : Char} (digit : isDecimalDigit c = true) (tail : List Char) :
    mantissa? (c :: tail) =
      match (c :: tail).dropWhile inRun with
      | '.' :: rest =>
        some ((c :: tail).takeWhile inRun ++ '.' :: rest.takeWhile isDecimalDigit,
          rest.dropWhile isDecimalDigit)
      | rest => some ((c :: tail).takeWhile inRun, rest) := by
  unfold mantissa?
  split
  · next same =>
    obtain ⟨rfl, -⟩ := List.cons.inj same
    exact absurd digit (by decide)
  · next same =>
    obtain ⟨rfl, rfl⟩ := List.cons.inj same
    exact if_pos digit
  · next same => cases same

/-- The digits and the point of a number end where nothing goes on with it. -/
theorem mantissa?_append (h : IsUnsigned cs q) (stop : StopsAt continuesNumber rest) :
    mantissa? (cs ++ rest) = some (cs, rest) := by
  cases h with
  | whole nonempty all =>
    have run : ∀ c ∈ cs, inRun c = true := fun c mem => inRun_of_isDigit (all c mem)
    have ended : StopsAt inRun rest := fun c mem => (continuesNumber_eq_false (stop c mem)).1
    have taken := takeWhile_append_of_stopsAt run ended
    have left := dropWhile_append_of_stopsAt run ended
    obtain ⟨c, tail, rfl⟩ := List.exists_cons_of_ne_nil nonempty
    rw [List.cons_append] at taken left ⊢
    rw [mantissa?_of_digit (isDecimalDigit_of_isDigit (all c List.mem_cons_self)), taken, left]
    -- what stands behind the digits is no point either
    split
    · exact absurd rfl (continuesNumber_eq_false (stop '.' rfl)).2.1
    · rfl
  | @fraction whole part nonempty all =>
    obtain ⟨front, behind⟩ := List.forall_mem_append.1 all
    have run : ∀ c ∈ whole, inRun c = true := fun c mem => inRun_of_isDigit (front c mem)
    have point : StopsAt inRun ('.' :: (part ++ rest)) := stopsAt_cons.2 (by decide)
    have taken := takeWhile_append_of_stopsAt run point
    have left := dropWhile_append_of_stopsAt run point
    have digits : ∀ c ∈ part, isDecimalDigit c = true := fun c mem =>
      isDecimalDigit_of_isDigit (behind c mem)
    have ended : StopsAt isDecimalDigit rest := fun c mem =>
      (inRun_eq_false (continuesNumber_eq_false (stop c mem)).1).1
    obtain ⟨c, tail, rfl⟩ := List.exists_cons_of_ne_nil nonempty
    rw [List.append_assoc, List.cons_append, List.cons_append]
    rw [List.cons_append] at taken left
    rw [mantissa?_of_digit (isDecimalDigit_of_isDigit (front c List.mem_cons_self)), taken, left]
    simp only [takeWhile_append_of_stopsAt digits ended, dropWhile_append_of_stopsAt digits ended]

/-- A plain text is the number in front of whatever does not go on with it. -/
theorem leadingNumber?_append (h : IsPlain cs q) (stop : StopsAt continuesNumber rest) :
    leadingNumber? (cs ++ rest) = some (cs, rest) := by
  unfold leadingNumber?
  rw [skipBlanks_of_stopsAt ((stopsAt_append h.ne_nil rest).2 h.tight.front)]
  cases h with
  | positive h =>
    have number := mantissa?_append h stop
    obtain ⟨c, tail, rfl, digit⟩ := h.head
    -- a digit is no sign
    dsimp only
    split
    · next same =>
      obtain ⟨rfl, -⟩ := List.cons.inj same
      exact absurd digit (by decide)
    · next same =>
      obtain ⟨rfl, -⟩ := List.cons.inj same
      exact absurd digit (by decide)
    · simp only [List.length_nil, List.drop_zero, number, Option.map_some,
        exponentPart_of_stopsAt stop, List.append_nil, List.nil_append]
  | negative h =>
    simp only [List.cons_append, List.length_singleton, List.drop_succ_cons, List.drop_zero,
      mantissa?_append h stop, Option.map_some, exponentPart_of_stopsAt stop, List.append_nil,
      List.nil_append]

theorem number_of_isPlain (h : IsPlain cs q) {blanks : List Char} (hblanks : Blanks blanks)
    (whole : String) : number whole (String.ofList (cs ++ blanks)) = .ok q := by
  rw [number, ofText?_of_isPlain h hblanks]

/-- A plain text and a unit text that are kept apart are read as number and unit. -/
theorem quantity_append (h : IsPlain cs q) (stop : StopsAt continuesNumber rest)
    (unmarked : '@' ∉ rest) :
    quantity (String.ofList (cs ++ rest)) = .ok (q, String.ofList (trim rest)) := by
  have absent : '@' ∉ cs ++ rest := by
    rw [List.mem_append]
    exact not_or.2 ⟨h.not_mem (by decide) (by decide), unmarked⟩
  have read := number_of_isPlain h .nil (String.ofList (cs ++ rest))
  rw [List.append_nil] at read
  rw [quantity, String.toList_ofList, if_neg absent, leadingNumber?_append h stop]
  dsimp only
  rw [read]
  rfl

end Written

namespace Quantity

open Text Number

/-- What stands behind the number in the text of a quantity: nothing, or a blank and the label. -/
def unitPart (q : Quantity) : List Char := if q.label = "" then [] else ' ' :: q.label.toList

theorem toList_labelled (q : Quantity) (number : String) :
    (q.labelled number).toList = number.toList ++ q.unitPart := by
  unfold labelled unitPart
  split
  · rw [List.append_nil]
  · rw [String.toList_append, String.toList_append, List.append_assoc]
    rfl

/-- Whatever the label begins with, it does not go on with the number. -/
theorem stopsAt_unitPart (q : Quantity) : StopsAt Written.continuesNumber q.unitPart := by
  unfold unitPart
  split
  · exact .nil _
  · exact stopsAt_cons.2 (by decide)

theorem trim_unitPart (q : Quantity) : trim q.unitPart = trim q.label.toList := by
  unfold unitPart
  split
  · next empty => rw [empty]; rfl
  · exact trim_append blanks_space _

/-- Whatever precision it is shown with, a quantity without the mark in its label is read back as
the number that is shown and the label without the blanks around it. -/
theorem quantity_labelled (q : Quantity) (precision : Nat) (unmarked : '@' ∉ q.label.toList) :
    Written.quantity (q.labelled (format precision q.value)) =
      .ok (shownValue precision q.value, strip q.label) := by
  have absent : '@' ∉ q.unitPart := by
    unfold unitPart
    split
    · exact List.not_mem_nil
    · rw [List.mem_cons]
      exact not_or.2 ⟨by decide, unmarked⟩
  have read := Written.quantity_append (isPlain_format precision q.value) q.stopsAt_unitPart absent
  rwa [← toList_labelled, String.ofList_toList, trim_unitPart] at read

end Quantity

end Metrology
