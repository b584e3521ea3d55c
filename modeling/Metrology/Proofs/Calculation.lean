import Metrology.Cell.Evaluation
import Metrology.Proofs.Measure

/-!
# Calculations

Trees of operators over cells. Evaluation works on cells and may answer an error value anywhere;
the meaning of a calculation works on measures alone. Main statement: where the leaves are exact
numbers and quantities on linear scales, and a plain number is only ever raised to a whole power,
a calculation that yields a number or a quantity yields one that measures its meaning
(`Calculation.measure_of_eval`).
-/

namespace Metrology

/-- A formula made of operators. -/
inductive Calculation where
  | leaf (c : Cell)
  | join (op : Operator) (left right : Calculation)

namespace Cell

/-- What an exact number or a quantity says. -/
def measure? : Cell → Option Measure
  | number (.integer n) => some (Measure.ofNumber n)
  | number (.fraction x) => some (Measure.ofNumber x)
  | quantity q => some q.measure
  | _ => none

/-- An exact number, or a quantity on a linear scale. -/
def IsLinear : Cell → Prop
  | number (.integer _) => True
  | number (.fraction _) => True
  | quantity q => q.scale.IsLinear
  | _ => False

end Cell

namespace Calculation

/-- The value of a calculation; every operator is applied as its sign spells it. -/
def eval : Calculation → Except Failure Cell
  | leaf c => .ok c
  | join op left right => do
    let a ← left.eval
    let b ← right.eval
    Cell.binary op.sign a b

/-- The measure that the operators give to the measures of the leaves. -/
def meaning : Calculation → Option Measure
  | leaf c => c.measure?
  | join op left right => do
    let a ← left.meaning
    let b ← right.meaning
    Measure.apply op a b

/-- Every leaf is an exact number or a quantity on a linear scale. -/
def HasLinearLeaves : Calculation → Prop
  | leaf c => c.IsLinear
  | join _ left right => left.HasLinearLeaves ∧ right.HasLinearLeaves

/-- Wherever a plain number is raised to a power, the exponent is whole. -/
def HasWholePowers : Calculation → Prop
  | leaf _ => True
  | join op left right =>
    left.HasWholePowers ∧ right.HasWholePowers ∧
      ∀ n c m, op = .pow → left.eval = .ok (.number n) → right.eval = .ok c →
        c.measure? = some m → m.magnitude.den = 1

end Calculation

namespace Cell

/-- Cells that are linear stand for amounts that are, and say the same. -/
theorem IsLinear.amount {c : Cell} (h : c.IsLinear) :
    ∃ x, c.amount = .ok x ∧ x.IsLinear ∧ c.measure? = some x.measure ∧
      (∀ n, x = .number n → ∃ k, c = number k) := by
  cases c with
  | number k =>
    cases k with
    | integer n => exact ⟨.number n, rfl, trivial, rfl, fun _ _ => ⟨_, rfl⟩⟩
    | fraction x => exact ⟨.number x, rfl, trivial, rfl, fun _ _ => ⟨_, rfl⟩⟩
    | double x => exact h.elim
    | decimal d => exact h.elim
  | quantity q => exact ⟨.quantity q, rfl, h, rfl, fun _ same => nomatch same⟩
  | absent => exact h.elim
  | truth b => exact h.elim
  | text s => exact h.elim
  | list items => exact h.elim
  | object fields => exact h.elim
  | error e => exact h.elim

theorem isLinear_ofAmount {x : Amount} (h : x.IsLinear) : (ofAmount x).IsLinear := by
  cases x with
  | number n => trivial
  | quantity q => exact h

theorem measure?_ofAmount (x : Amount) : (ofAmount x).measure? = some x.measure := by
  cases x with
  | number n => rfl
  | quantity q => rfl

/-- A result that is a number or a quantity. -/
def IsAmount (c : Cell) : Prop := c.kind = .number ∨ c.kind = .quantity

theorem not_isAmount_error (e : ErrorValue) : ¬ (error e).IsAmount := by
  simp [IsAmount, kind]

/-- What recovery leaves as an amount was there before. -/
theorem eq_of_recover {result : Except Failure Cell} {c : Cell} (h : recover result = .ok c)
    (amount : c.IsAmount) : result = .ok c := by
  cases result with
  | ok d => exact h
  | error f =>
    rw [recover] at h
    split at h
    · cases h
      exact absurd amount (not_isAmount_error _)
    · cases h

/-- An operator answers with an amount only where both operands are amounts, and then with what
it makes of them. -/
theorem apply_eq_ok {op : Operator} {a b c : Cell} (h : apply op a b = .ok c)
    (amount : c.IsAmount) :
    a.IsAmount ∧ b.IsAmount ∧
      ∃ x y z, a.amount = .ok x ∧ b.amount = .ok y ∧ x.apply op y = .ok z ∧ c = ofAmount z := by
  -- neither operand is an error value, and neither is of a kind that has no arithmetic
  have operand {d : Cell} (plain : firstError? [a, b] = none)
      (known : [a, b].find? (fun c => c.kind = .other) = none) (mem : d ∈ [a, b]) :
      d.IsAmount := by
    have kind := List.find?_eq_none.1 known d mem
    have value := List.findSome?_eq_none_iff.1 plain d mem
    cases d <;> simp_all [IsAmount, Cell.kind]
  unfold apply at h
  split at h
  · cases h
    exact absurd amount (not_isAmount_error _)
  · next plain =>
    split at h
    · cases h
      exact absurd amount (not_isAmount_error _)
    · next known =>
      refine ⟨operand plain known (by simp), operand plain known (by simp), ?_⟩
      obtain ⟨x, left, h⟩ := bind_eq_ok_iff.1 (eq_of_recover h amount)
      obtain ⟨y, right, h⟩ := bind_eq_ok_iff.1 h
      obtain ⟨z, result, rfl⟩ := map_eq_ok_iff.1 h
      exact ⟨x, y, z, left, right, result, rfl⟩

theorem binary_sign (op : Operator) (a b : Cell) : binary op.sign a b = apply op a b := by
  cases op with
  | add => rfl
  | sub => rfl
  | mul => rfl
  | div => rfl
  | pow => rfl

end Cell

namespace Calculation

/-- By induction on the tree: a value that is an amount is linear again, which is what the step
above it needs, and it measures the meaning. -/
theorem isLinear_of_eval {t : Calculation} (linear : t.HasLinearLeaves)
    (whole : t.HasWholePowers) {c : Cell} (value : t.eval = .ok c) (amount : c.IsAmount) :
    c.IsLinear ∧ t.meaning = c.measure? := by
  induction t generalizing c with
  | leaf d =>
    cases value
    exact ⟨linear, rfl⟩
  | join op left right ihl ihr =>
    obtain ⟨a, evalLeft, value⟩ := bind_eq_ok_iff.1 value
    obtain ⟨b, evalRight, value⟩ := bind_eq_ok_iff.1 value
    rw [Cell.binary_sign] at value
    obtain ⟨amountLeft, amountRight, x, y, z, hx, hy, result, rfl⟩ :=
      Cell.apply_eq_ok value amount
    obtain ⟨linearLeft, meaningLeft⟩ := ihl linear.1 whole.1 evalLeft amountLeft
    obtain ⟨linearRight, meaningRight⟩ := ihr linear.2 whole.2.1 evalRight amountRight
    obtain ⟨x', hx', linearX, measureX, number⟩ := linearLeft.amount
    obtain ⟨y', hy', linearY, measureY, -⟩ := linearRight.amount
    -- the amounts that the operator saw are those that the hypotheses speak of
    cases hx.symm.trans hx'
    cases hy.symm.trans hy'
    have exponent (n : Rat) (same : x = .number n) (power : op = .pow) :
        y.measure.magnitude.den = 1 := by
      obtain ⟨k, rfl⟩ := number n same
      exact whole.2.2 k b y.measure power evalLeft evalRight measureY
    obtain ⟨linearZ, measured⟩ := Amount.measure_apply linearX linearY exponent result
    refine ⟨Cell.isLinear_ofAmount linearZ, ?_⟩
    rw [Cell.measure?_ofAmount, meaning, meaningLeft, meaningRight, measureX, measureY]
    exact measured

/-- Arithmetic means what it says: neither the unit that a sum is brought to, nor the scalars
that products and quotients pass over, nor a number in front of a quantity changes what a
calculation measures. -/
theorem measure_of_eval {t : Calculation} (linear : t.HasLinearLeaves)
    (whole : t.HasWholePowers) {c : Cell} (value : t.eval = .ok c) (amount : c.IsAmount) :
    ∃ m, c.measure? = some m ∧ t.meaning = some m := by
  obtain ⟨linear, meaning⟩ := isLinear_of_eval linear whole value amount
  obtain ⟨x, -, -, measure, -⟩ := linear.amount
  exact ⟨x.measure, measure, meaning.trans measure⟩

/-- Six divided by the square of the sum of two kilometres and five hundred metres. -/
def inverseArea : Calculation :=
  let kilometres : Quantity :=
    { value := 2, scale := Scale.linear Dimension.ofLength 1000, label := "km" }
  let metres : Quantity := { value := 500, scale := Scale.linear Dimension.ofLength, label := "m" }
  join .div (leaf (.ofInt 6))
    (join .pow (join .add (leaf (.quantity kilometres)) (leaf (.quantity metres)))
      (leaf (.ofInt 2)))

theorem inverseArea_measured :
    inverseArea.HasLinearLeaves ∧ inverseArea.HasWholePowers ∧
      ∃ c, inverseArea.eval = .ok c ∧ c.IsAmount ∧
        ∃ m, c.measure? = some m ∧ inverseArea.meaning = some m := by
  have linear : inverseArea.HasLinearLeaves :=
    ⟨trivial, ⟨⟨rfl, by decide⟩, ⟨rfl, by decide⟩⟩, trivial⟩
  have whole : inverseArea.HasWholePowers := by
    refine ⟨trivial, ⟨⟨trivial, trivial, ?_⟩, trivial, ?_⟩, ?_⟩
    · intro n c m power
      cases power
    · intro n c m _ _ evaluated measured
      cases evaluated
      cases measured
      rfl
    · intro n c m power
      cases power
  have kind : inverseArea.eval.toOption.map Cell.kind = some .quantity := by decide +kernel
  obtain ⟨c, value, kind⟩ := Option.map_eq_some_iff.1 kind
  have value : inverseArea.eval = .ok c := toOption_eq_some_iff.1 value
  exact ⟨linear, whole, c, value, .inr kind, measure_of_eval linear whole value (.inr kind)⟩

end Calculation

end Metrology
