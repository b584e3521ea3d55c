import Metrology.Proofs.Cell.Answers
import Metrology.Proofs.Quantity.Positive

/-!
# Products and quotients of cells

A product of exact numbers and quantities is never an error value. A quotient is one for two
reasons: the value of the divisor is zero, or a pure number is divided by a unit beyond the limit of
exponents. Such a unit has no reciprocal, although any other quantity is divided by it.
Main statement: `quotients`.
-/

namespace Metrology.Cell

variable {c : Catalog} {l r : Cell} {a b : Amount}

/-! ## Operands -/

/-- The cells that stand for amounts: exact numbers, and the quantities that runs lead to. -/
inductive StandsFor (c : Catalog) : Cell → Amount → Prop
  | integer (n : Int) : StandsFor c (ofInt n) (.number n)
  | fraction (x : Rat) : StandsFor c (ofRat x) (.number x)
  | quantity {q : Quantity} (h : q.Attained c) : StandsFor c (quantity q) (.quantity q)

theorem StandsFor.attained (h : StandsFor c l a) : Quantity.Attained c a.lift := by
  cases h with
  | integer n | fraction x => exact Amount.attained_lift_number c _
  | quantity h => exact h

/-- The operator that a sign spells joins the amounts of its operands, and a failure becomes an
error value. -/
theorem StandsFor.binary (hl : StandsFor c l a) (hr : StandsFor c r b) {sign : String}
    {op : Operator} (spelled : Operator.ofSign? sign = some op) :
    Cell.binary sign l r = recover ((a.apply op b).map ofAmount) := by
  rw [Cell.binary, spelled]
  cases hl with
  | integer n | fraction x | quantity h =>
    cases hr with
    | integer m | fraction y | quantity h' => rfl

theorem StandsFor.binary_ok (hl : StandsFor c l a) (hr : StandsFor c r b) {sign : String}
    {op : Operator} (spelled : Operator.ofSign? sign = some op) {x : Amount}
    (result : a.apply op b = .ok x) : Cell.binary sign l r = .ok (ofAmount x) := by
  rw [hl.binary hr spelled, result]
  rfl

theorem StandsFor.binary_error (hl : StandsFor c l a) (hr : StandsFor c r b) {sign : String}
    {op : Operator} (spelled : Operator.ofSign? sign = some op) {f : Failure}
    (result : a.apply op b = .error f) :
    Cell.binary sign l r = .ok (error (ErrorValue.ofFailure f)) := by
  have recoverable := Amount.recoverable_apply op a b
  rw [result] at recoverable
  cases recoverable with
  | error kind =>
    rw [hl.binary hr spelled, result]
    exact if_pos kind

/-! ## Quotients -/

/-- The dividend counts as a pure number, and the unit of the divisor is beyond the limit. -/
def LacksReciprocal (a b : Amount) : Prop :=
  a.lift.isScalar = true ∧ exponentLimit < b.lift.dimension.maxExponent

/-- Multiplication always has a result. Division has one unless the value of the divisor is zero or
a pure number is divided by a unit that is beyond the limit of exponents. -/
theorem quotients (hl : StandsFor c l a) (hr : StandsFor c r b) :
    (∃ x, binary "*" l r = .ok (ofAmount x)) ∧
      (b.lift.value = 0 → binary "/" l r = .ok (error (.ofFailure .divisionByZero))) ∧
      (b.lift.value ≠ 0 → LacksReciprocal a b →
        binary "/" l r = .ok (error (.ofFailure (.powerTooHigh "-1")))) ∧
      (b.lift.value ≠ 0 → ¬ LacksReciprocal a b → ∃ x, binary "/" l r = .ok (ofAmount x)) := by
  have times : Operator.ofSign? "*" = some .mul := by decide
  have slash : Operator.ofSign? "/" = some .div := by decide
  have nonzero := hr.attained.factor_pos.ne'
  refine ⟨?_, fun zero => ?_, fun filled lacks => ?_, fun filled lacks => ?_⟩
  · obtain ⟨x, product⟩ := Amount.exists_apply_mul a b
    exact ⟨x, hl.binary_ok hr times product⟩
  · exact hl.binary_error hr slash ((Amount.apply_div_eq_error_iff nonzero).2 (.inl ⟨zero, rfl⟩))
  · -- the unit is inverted, which is a power
    have inverse := (Scale.inverse_eq_error_iff nonzero).2 ⟨lacks.2, rfl⟩
    exact hl.binary_error hr slash
      ((Amount.apply_div_eq_error_iff nonzero).2 (.inr ⟨filled, lacks.1, inverse⟩))
  · cases result : a.apply .div b with
    | ok x => exact ⟨x, hl.binary_ok hr slash result⟩
    | error f =>
      rcases (Amount.apply_div_eq_error_iff nonzero).1 result with ⟨zero, -⟩ | ⟨-, scalar, failed⟩
      · exact absurd zero filled
      · exact absurd ⟨scalar, ((Scale.inverse_eq_error_iff nonzero).1 failed).1⟩ lacks

/-- A length to the power of 65. -/
def beyondLimit : Quantity where
  value := 1
  scale := (Scale.linear (.ofLength ^ (64 : Int))).mul (.linear .ofLength)
  label := "m^64*m"

theorem standsFor_metres (x : Rat) :
    StandsFor Catalog.standard (quantity ⟨x, .linear .ofLength, "m"⟩)
      (.quantity ⟨x, .linear .ofLength, "m"⟩) :=
  .quantity (.inUnit (Quantity.inUnit_of_unit Quantity.unit_metre x))

theorem inUnit_beyondLimit : Quantity.inUnit Catalog.standard 1 "m^64*m" = .ok beyondLimit :=
  Quantity.inUnit_of_unit (Quantity.unit_metre_beyond Quantity.named_metre) 1

/-- Metres are divided by it, but the number one is not. -/
theorem quotients_beyondLimit :
    (∃ x, binary "/" (quantity ⟨3, .linear .ofLength, "m"⟩) (quantity beyondLimit) =
        .ok (ofAmount x)) ∧
      binary "/" (ofInt 1) (quantity beyondLimit) =
        .ok (error (.ofFailure (.powerTooHigh "-1"))) := by
  have divisor : StandsFor Catalog.standard (quantity beyondLimit) (.quantity beyondLimit) :=
    .quantity (.inUnit inUnit_beyondLimit)
  have filled : (Amount.quantity beyondLimit).lift.value ≠ 0 := by decide
  have metres : ¬ LacksReciprocal (.quantity ⟨3, .linear .ofLength, "m"⟩)
      (.quantity beyondLimit) := by
    rintro ⟨scalar, -⟩
    exact absurd scalar (by decide)
  have number : LacksReciprocal (.number 1) (.quantity beyondLimit) :=
    ⟨Amount.isScalar_lift_number 1, by decide⟩
  exact ⟨(quotients (standsFor_metres 3) divisor).2.2.2 filled metres,
    (quotients (.integer 1) divisor).2.2.1 filled number⟩

/-- So it is not the value of the divisor alone that decides. -/
theorem not_quotient_of_value_ne_zero :
    ¬ ∀ (n : Int) (text : String) (q : Quantity),
      Quantity.inUnit Catalog.standard 1 text = .ok q → q.value ≠ 0 →
      ∀ e, binary "/" (ofInt n) (quantity q) ≠ .ok (error e) := by
  intro always
  have failed : binary "/" (ofInt 1) (quantity beyondLimit) =
      .ok (error (.ofFailure (.powerTooHigh "-1"))) :=
    rfl
  exact always 1 _ _ inUnit_beyondLimit (by decide) _ failed

end Metrology.Cell
