import Mathlib.Algebra.Ring.Rat
import Metrology.Cell.Operation
import Metrology.Proofs.Cell.Answers

/-!
# Operators that fail and operators that answer

An operator next to a quantity is applied in two ways: as an operation that may fail (`operate`), and
in formulas, where it answers (`binary`). Both look at the operands in the same order, so that
whatever the first one yields is the answer of the second, and whatever it fails with becomes the
error value (`binary_of_operate`). The change of sign is an operation as well, and it answers to the
product with `-1` in the same way (`times_minus_one`); formulas apply it without recovery, so it
fails for a number that is not finite.
-/

namespace Metrology

/-! ## Numbers -/

namespace Numeral

/-- A number that is neither infinite nor a NaN. -/
def IsFinite : Numeral → Prop
  | integer _ | fraction _ | double (.finite ..) | decimal (.finite ..) => True
  | double (.infinite _) | double .nan | decimal (.infinite _) | decimal (.nan ..) => False

variable {n : Numeral}

theorem IsFinite.exists_exact (finite : n.IsFinite) : ∃ x, n.exact = .ok x := by
  match n, finite with
  | integer n, _ => exact ⟨n, rfl⟩
  | fraction x, _ => exact ⟨x, rfl⟩
  | double (.finite negative m e), _ => exact ⟨_, rfl⟩
  | decimal (.finite negative c e), _ => exact ⟨_, rfl⟩

theorem exact_of_not_isFinite (endless : ¬ n.IsFinite) : n.exact = .error (.notFinite n.shown) := by
  match n, endless with
  | integer _, endless | fraction _, endless => exact absurd trivial endless
  | double (.finite ..), endless | decimal (.finite ..), endless => exact absurd trivial endless
  | double (.infinite _), _ | double .nan, _ => rfl
  | decimal (.infinite _), _ | decimal (.nan ..), _ => rfl

end Numeral

namespace Cell

variable {op : Operator} {l r c : Cell} {q : Quantity} {n : Numeral}

/-! ## Recovery -/

theorem recover_error {f : Failure} (recoverable : Recoverable (.error f : Except Failure Cell)) :
    recover (.error f) = .ok (error (.ofFailure f)) := by
  cases recoverable with
  | error kind => exact if_pos kind

theorem amount_number (n : Numeral) : (number n).amount = n.exact.map .number := rfl

/-- The cells that operators of formulas compute with. -/
inductive IsOperand : Cell → Prop
  | number (n : Numeral) : IsOperand (number n)
  | quantity (q : Quantity) : IsOperand (quantity q)

/-- In formulas both operands are read before the operator is applied. -/
theorem apply_of_isOperand (left : IsOperand l) (right : IsOperand r) :
    apply op l r =
      recover (l.amount >>= fun a => r.amount >>= fun b => (a.apply op b).map ofAmount) := by
  cases left with
  | number n | quantity q =>
    cases right with
    | number m | quantity p => rfl

/-! ## A quantity in front -/

/-- Behind a quantity, an exponent is read from the number that any operand is read as. -/
theorem exponent_of_isOperand (right : IsOperand r) (label : String) :
    r.exponent label = r.amount >>= fun b => b.exponent label := by
  cases right with
  | quantity p => rfl
  | number n =>
    rw [exponent, amount_number]
    cases n.exact with
    | ok x => rfl
    | error f => rfl

theorem ofAmount_quantity (result : Except Failure Quantity) :
    (result.map Amount.quantity).map ofAmount = result.map quantity := by
  cases result with
  | ok q => rfl
  | error f => rfl

/-- A quantity in front reads the other operand and is applied to it. -/
theorem operate_quantity (right : IsOperand r) : operate op (quantity q) r =
    r.amount >>= fun b => (Amount.applyQuantity op q b).map ofAmount := by
  by_cases power : op = .pow
  · subst power
    rw [operate, if_pos rfl, exponent_of_isOperand right]
    cases r.amount with
    | error f => rfl
    | ok b =>
      rw [ok_bind, ok_bind, Amount.applyQuantity]
      cases b.exponent q.label with
      | error f => rfl
      | ok n => exact (ofAmount_quantity (q.pow n)).symm
  · have operand : r.operand = r.amount := by
      cases right with
      | number n => rfl
      | quantity p => rfl
    rw [operate, if_neg power, operand]

/-! ## A number in front -/

/-- Whether a number divided by a quantity is read before the divisor is found to be zero makes no
difference, unless the number is not finite and the divisor is zero. -/
theorem divideInto_number (readable : n.IsFinite ∨ q.value ≠ 0) :
    divideInto q (number n) = n.exact >>= fun x => q.divInto x := by
  have read : (number n).exact = n.exact := rfl
  rw [divideInto, read]
  by_cases zero : q.value = 0
  · obtain ⟨x, exact⟩ := (readable.resolve_right (not_not_intro zero)).exists_exact
    rw [if_pos zero, exact, ok_bind, Quantity.divInto, if_pos zero]
  · rw [if_neg zero]
    cases n.exact with
    | ok x => rfl
    | error f => rfl

/-- A number in front of a quantity, with any operator but the one of powers. -/
theorem operate_number (arithmetic : op ≠ .pow)
    (readable : op = .div → n.IsFinite ∨ q.value ≠ 0) : operate op (number n) (quantity q) =
      n.exact >>= fun a => (Amount.applyNumber op a q).map ofAmount := by
  cases op with
  | pow => exact absurd rfl arithmetic
  | add | sub | mul => rfl
  | div =>
    have divided : operate .div (number n) (quantity q) = (divideInto q (number n)).map quantity :=
      rfl
    rw [divided, divideInto_number (readable rfl)]
    cases n.exact with
    | error f => rfl
    | ok x => exact (ofAmount_quantity (q.divInto x)).symm

/-! ## Both ways -/

/-- Operands of which at least one is a quantity, and the other one is a quantity or a number. A
number is not raised to a quantity, and it is finite where a quantity of value zero divides it. -/
inductive Joined (op : Operator) : Cell → Cell → Prop
  | quantities (p q : Quantity) : Joined op (quantity p) (quantity q)
  | behind (q : Quantity) (n : Numeral) : Joined op (quantity q) (number n)
  | inFront {n : Numeral} {q : Quantity} (arithmetic : op ≠ .pow)
      (readable : op = .div → n.IsFinite ∨ q.value ≠ 0) : Joined op (number n) (quantity q)

/-- In formulas, the operation is applied and its failure is recovered from. -/
theorem apply_eq_recover (h : Joined op l r) : apply op l r = recover (operate op l r) := by
  cases h with
  | quantities p q =>
    rw [apply_of_isOperand (.quantity p) (.quantity q), operate_quantity (.quantity q)]
    rfl
  | behind q n =>
    rw [apply_of_isOperand (.quantity q) (.number n), operate_quantity (.number n)]
    rfl
  | inFront arithmetic readable =>
    rw [apply_of_isOperand (.number _) (.quantity _), operate_number arithmetic readable,
      amount_number]
    cases Numeral.exact _ with
    | ok x => rfl
    | error f => rfl

theorem recoverable_operate (h : Joined op l r) : Recoverable (operate op l r) := by
  cases h with
  | quantities p q =>
    rw [operate_quantity (.quantity q)]
    exact (recoverable_amount _).bind fun b => (Amount.recoverable_applyQuantity op p b).map _
  | behind q n =>
    rw [operate_quantity (.number n)]
    exact (recoverable_amount _).bind fun b => (Amount.recoverable_applyQuantity op q b).map _
  | inFront arithmetic readable =>
    rw [operate_number arithmetic readable]
    exact (Numeral.recoverable_exact _).bind fun x => (Amount.recoverable_applyNumber op x _).map _

/-- An operator answers with what the operation yields, and where the operation fails it answers
with the error value of the same failure, whatever sign spells it, whichever operand is the quantity
and of whatever sort the number is. -/
theorem binary_of_operate {sign : String} (spelled : Operator.ofSign? sign = some op)
    (h : Joined op l r) :
    (∀ c, operate op l r = .ok c → binary sign l r = .ok c) ∧
      ∀ f, operate op l r = .error f → binary sign l r = .ok (error (.ofFailure f)) := by
  have recovered : binary sign l r = recover (operate op l r) := by
    rw [binary, spelled]
    exact apply_eq_recover h
  rw [recovered]
  constructor
  · intro c result
    rw [result]
    rfl
  · intro f failed
    rw [failed]
    exact recover_error (failed ▸ recoverable_operate h)

/-- Two and a half by four metres is a result of both ways. Two and a half and four metres have no
sum, and the answer says so. -/
theorem binary_of_operate_decimal :
    let n : Numeral := .decimal (.finite false 25 (-1))
    let q : Quantity := ⟨4, .linear .ofLength, "m"⟩
    let quotient : Quantity := ⟨5 / 8, .linear (Dimension.ofLength.pow (-1)), "1/m"⟩
    binary "÷" (number n) (quantity q) = .ok (quantity quotient) ∧
      binary "+" (number n) (quantity q) = .ok (error (.ofFailure (.mismatch "" "m" "add"))) := by
  intro n q quotient
  have exact : n.exact = .ok (5 / 2) := by decide +kernel
  have divided : q.divInto (5 / 2) = .ok quotient := by decide +kernel
  have finite : n.IsFinite := trivial
  have sum : Operator.add = .div → n.IsFinite ∨ q.value ≠ 0 := fun same => nomatch same
  have division : Operator.ofSign? "÷" = some .div := by decide
  have addition : Operator.ofSign? "+" = some .add := by decide
  constructor
  · refine (binary_of_operate division (.inFront (by decide) fun _ => .inl finite)).1 _ ?_
    rw [operate_number (by decide) fun _ => .inl finite, exact, ok_bind, Amount.applyNumber,
      divided]
    rfl
  · refine (binary_of_operate addition (.inFront (by decide) sum)).2 _ ?_
    rw [operate_number (by decide) sum, exact]
    rfl

/-- The two ways part where a number that is not finite is divided by a quantity of value zero:
the operation looks at the divisor first, the operator at the number. -/
theorem divide_not_finite (endless : ¬ n.IsFinite) (zero : q.value = 0) :
    operate .div (number n) (quantity q) = .error .divisionByZero ∧
      binary "/" (number n) (quantity q) = .ok (error (.ofFailure (.notFinite n.shown))) := by
  have divided : operate .div (number n) (quantity q) = (divideInto q (number n)).map quantity :=
    rfl
  have joined : binary "/" (number n) (quantity q) = apply .div (number n) (quantity q) := rfl
  constructor
  · rw [divided, divideInto, if_pos zero]
    rfl
  · rw [joined, apply_of_isOperand (.number n) (.quantity q), amount_number,
      Numeral.exact_of_not_isFinite endless]
    exact recover_error (.error rfl)

/-! ## The change of sign -/

theorem negate_of_not_isFinite (endless : ¬ n.IsFinite) :
    negate (number n) = .error (.notFinite n.shown) := by
  rw [negate, Numeral.exact_of_not_isFinite endless]
  rfl

/-- Only a number that is not finite cannot change its sign. -/
theorem exists_negate (finite : ∀ n, c = number n → n.IsFinite) : ∃ d, negate c = .ok d := by
  cases c with
  | number n =>
    obtain ⟨x, exact⟩ := (finite n rfl).exists_exact
    exact ⟨ofRat (-x), by rw [negate, exact]; rfl⟩
  | quantity q => exact ⟨quantity q.neg, rfl⟩
  | error e => exact ⟨error (e.withNote (noteThrough "unary '-'")), rfl⟩
  | absent | truth _ | text _ | list _ | object _ =>
    exact ⟨error (.typeError "Number or Quantity" _), rfl⟩

/-- The product with `-1` is the change of sign, recovered from its failure. -/
theorem times_minus_one (noError : ∀ e, c ≠ error e) :
    binary "*" c (ofInt (-1)) = recover (negate c) := by
  have joined : binary "*" c (ofInt (-1)) = apply .mul c (ofInt (-1)) := rfl
  rw [joined]
  cases c with
  | number n =>
    rw [ofInt, apply_of_isOperand (.number n) (.number _), negate, amount_number]
    cases n.exact with
    | error f => rfl
    | ok x => exact congrArg (fun y => Except.ok (ofRat y)) (mul_neg_one x)
  | quantity q => exact congrArg (fun y => Except.ok (quantity (q.withValue y))) (mul_neg_one q.value)
  | error e => exact absurd rfl (noError e)
  | absent | truth _ | text _ | list _ | object _ => rfl

/-- The change of sign agrees with the product with `-1` on every cell but an error and a number
that is not finite. It has no result for the latter, where the product answers. -/
theorem negate_eq_times (noError : ∀ e, c ≠ error e) :
    binary "*" c (ofInt (-1)) = recover (negate c) ∧
      (negate c = binary "*" c (ofInt (-1)) ↔ ∀ n, c = number n → n.IsFinite) ∧
      ∀ n, c = number n → ¬ n.IsFinite → negate c = .error (.notFinite n.shown) ∧
        binary "*" c (ofInt (-1)) = .ok (error (.ofFailure (.notFinite n.shown))) := by
  have product := times_minus_one noError
  have fails : ∀ n, c = number n → ¬ n.IsFinite → negate c = .error (.notFinite n.shown) := by
    rintro n rfl endless
    exact negate_of_not_isFinite endless
  have answers : ∀ n, c = number n → ¬ n.IsFinite →
      binary "*" c (ofInt (-1)) = .ok (error (.ofFailure (.notFinite n.shown))) := by
    intro n same endless
    rw [product, fails n same endless]
    exact recover_error (.error rfl)
  refine ⟨product, ⟨?_, ?_⟩, fun n same endless => ⟨fails n same endless, answers n same endless⟩⟩
  · intro agree n same
    by_contra endless
    rw [fails n same endless, answers n same endless] at agree
    cases agree
  · intro finite
    obtain ⟨d, negated⟩ := exists_negate finite
    rw [product, negated]
    rfl

/-- A temperature changes its sign on its scale; an infinite decimal does not change it. -/
theorem negate_eq_times_celsius :
    let q : Quantity := ⟨20, ⟨.ofTemperature, 1, 273.15, fun other => absurd rfl other⟩, "C"⟩
    let n : Numeral := .decimal (.infinite true)
    (negate (quantity q) = binary "*" (quantity q) (ofInt (-1))) ∧
      negate (number n) = .error (.notFinite "Decimal('-Infinity')") ∧
      binary "*" (number n) (ofInt (-1)) =
        .ok (error (.domainError "non-finite number: Decimal('-Infinity')")) := by
  intro q n
  obtain ⟨-, same, -⟩ := negate_eq_times (c := quantity q) (fun _ => nofun)
  obtain ⟨-, -, fails⟩ := negate_eq_times (c := number n) (fun _ => nofun)
  obtain ⟨failed, answered⟩ := fails n rfl id
  exact ⟨same.2 fun _ => nofun, failed, answered⟩

/-- So the change of sign does not always answer as the product does. -/
theorem not_negate_eq_times :
    ¬ ∀ c : Cell, (∀ e, c ≠ error e) → negate c = binary "*" c (ofInt (-1)) := by
  intro always
  have plain : ∀ e, number (.double .nan) ≠ error e := fun _ => nofun
  have agree := always _ plain
  rw [times_minus_one plain, negate_of_not_isFinite id] at agree
  cases agree

end Cell

end Metrology
