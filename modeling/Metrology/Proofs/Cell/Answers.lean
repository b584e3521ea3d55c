import Metrology.Cell.Evaluation
import Metrology.Proofs.UnitExpr.Recovery

/-!
# Operators always answer

An operator that meets two cells gives an exact number, a quantity or an error value, whatever
the cells are; so do the mark `@` between two cells and a literal with that mark in it
(`operators_answer`). What is shown for each of them is that its failures are recoverable, since
`Cell.recover` answers those with an error value (`Cell.Answers.of_recoverable`).
-/

namespace Metrology

namespace Cell

/-- The answers of operators: an exact number, a quantity or an error value. -/
inductive IsAnswer : Cell → Prop where
  | number (q : Rat) : IsAnswer (ofRat q)
  | quantity (q : Quantity) : IsAnswer (quantity q)
  | error (e : ErrorValue) : IsAnswer (error e)

/-- Evaluation has a result, and it is one of the answers of operators. -/
def Answers (result : Except Failure Cell) : Prop := ∃ c, result = .ok c ∧ IsAnswer c

theorem IsAnswer.answers {c : Cell} (h : IsAnswer c) : Answers (.ok c) := ⟨c, rfl, h⟩

theorem isAnswer_ofAmount (a : Amount) : IsAnswer (ofAmount a) := by
  cases a with
  | number n => exact .number n
  | quantity q => exact .quantity q

/-- A failure that is recoverable becomes an error value. -/
theorem exists_recover {result : Except Failure Cell} (h : Recoverable result) :
    ∃ c, recover result = .ok c := by
  cases h with
  | ok c => exact ⟨c, rfl⟩
  | error h => exact ⟨_, if_pos h⟩

theorem Answers.of_recoverable {result : Except Failure Cell} (h : Recoverable result)
    (values : ∀ c, result = .ok c → IsAnswer c) : Answers (recover result) := by
  cases h with
  | ok c => exact (values c rfl).answers
  | error h => exact ⟨_, if_pos h, .error _⟩

/-! ## Operands -/

theorem recoverable_exact (c : Cell) : Recoverable c.exact := by
  cases c with
  | number n => exact Numeral.recoverable_exact n
  | text s =>
    unfold exact
    dsimp only
    split
    · exact .ok _
    · exact .error rfl
  | absent | truth _ | list _ | object _ | quantity _ | error _ => exact .error rfl

theorem recoverable_amount (c : Cell) : Recoverable c.amount := by
  unfold amount
  split
  · exact .ok _
  · exact (recoverable_exact c).map _

/-! ## Operators -/

/-- Cells that are neither numbers nor quantities never reach arithmetic. -/
theorem answers_apply (op : Operator) (left right : Cell) : Answers (apply op left right) := by
  unfold apply
  split
  · exact (IsAnswer.error _).answers
  · split
    · exact (IsAnswer.error _).answers
    · -- what is left are quantities and numbers, of which some are not finite
      refine Answers.of_recoverable ?_ ?_
      · exact (recoverable_amount left).bind fun a =>
          (recoverable_amount right).bind fun b => (a.recoverable_apply op b).map _
      · intro c value
        obtain ⟨a, -, value⟩ := bind_eq_ok_iff.1 value
        obtain ⟨b, -, value⟩ := bind_eq_ok_iff.1 value
        obtain ⟨amount, -, rfl⟩ := map_eq_ok_iff.1 value
        exact isAnswer_ofAmount amount

theorem answers_attach (catalog : Catalog) (value unit : Cell) :
    Answers (attach catalog value unit) := by
  unfold attach
  split
  · exact (IsAnswer.error _).answers
  · split
    · next n s _ =>
      refine Answers.of_recoverable ?_ ?_
      · refine (Numeral.recoverable_exact n).bind ?_
        intro x
        exact (Quantity.recoverable_inUnit catalog x (Text.strip s)).map quantity
      · intro c made
        obtain ⟨x, -, made⟩ := bind_eq_ok_iff.1 made
        obtain ⟨q, -, rfl⟩ := map_eq_ok_iff.1 made
        exact .quantity q
    · exact (IsAnswer.error _).answers
    · exact (IsAnswer.error _).answers

theorem answers_literal (catalog : Catalog) (s : String) : Answers (literal catalog s) := by
  unfold literal
  split
  · exact answers_attach catalog _ _
  · next failed =>
    refine Answers.of_recoverable ((Written.recoverable_marked s).of_eq_error failed) ?_
    intro c value
    cases value

end Cell

/-- Operators never fail: every sign of an operator between two cells of any sort gives an exact
number, a quantity or an error value, and so do a number with a unit behind it and a literal. -/
theorem operators_answer (catalog : Catalog) :
    (∀ sign op, Operator.ofSign? sign = some op →
      ∀ left right, Cell.Answers (Cell.binary sign left right)) ∧
    (∀ value unit, Cell.Answers (Cell.attach catalog value unit)) ∧
    ∀ text, Cell.Answers (Cell.literal catalog text) := by
  refine ⟨?_, Cell.answers_attach catalog, Cell.answers_literal catalog⟩
  intro sign op known left right
  rw [Cell.binary, known]
  exact Cell.answers_apply op left right

/-- A number that is not finite, divided by a quantity whose unit has factor zero. -/
theorem operators_answer_not_finite :
    Operator.ofSign? "÷" = some .div ∧
      Cell.Answers (Cell.binary "÷" (.number (.double .nan))
        (.quantity { value := 1, scale := Scale.linear Dimension.ofLength 0 })) :=
  ⟨by decide, (operators_answer Catalog.empty).1 "÷" .div (by decide) (.number (.double .nan))
    (.quantity { value := 1, scale := Scale.linear Dimension.ofLength 0 })⟩

end Metrology
