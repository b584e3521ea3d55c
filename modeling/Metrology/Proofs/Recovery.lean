import Metrology.Number.Numeral
import Metrology.Proofs.Success
import Metrology.Quantity.Arithmetic

/-!
# Failures that evaluation recovers from

Evaluation turns a failure into an error value if its kind is recoverable, and passes any other
on to the caller. Here the operations of arithmetic are shown to fail in recoverable ways only,
whatever their operands are: a zero divisor or a zero factor, an exponent that is too large, a
double out of range, dimensions that do not fit. Chains of such operations fail in such ways too
(`Recoverable.bind`), so that one lemma for each operation is enough.
-/

namespace Metrology

variable {α β : Type}

/-- A result that evaluation can turn into a value: if it is a failure, then of a kind that
evaluation recovers from. -/
inductive Recoverable : Except Failure α → Prop where
  | ok (a : α) : Recoverable (.ok a)
  | error {f : Failure} (h : f.kind.isRecoverable = true) : Recoverable (.error f)

namespace Recoverable

/-- A text that is malformed can be recovered from, whatever is wrong with it. -/
theorem malformed (cause : Malformed) :
    Recoverable (.error (.malformed cause) : Except Failure α) := .error rfl

/-- Mapping the value keeps the failures. -/
theorem map {result : Except Failure α} (h : Recoverable result) (g : α → β) :
    Recoverable (result.map g) := by
  cases h with
  | ok a => exact .ok (g a)
  | error h => exact .error h

/-- A chain fails where its first step fails or where the rest does. -/
theorem bind {first : Except Failure α} {next : α → Except Failure β}
    (hfirst : Recoverable first) (hnext : ∀ a, Recoverable (next a)) :
    Recoverable (first >>= next) := by
  cases hfirst with
  | ok a => exact hnext a
  | error h => exact .error h

/-- A failure that is passed on is recoverable where the step that failed was. -/
theorem of_eq_error {result : Except Failure α} {f : Failure} (h : Recoverable result)
    (failed : result = .error f) : Recoverable (.error f : Except Failure β) := by
  cases h with
  | ok a => cases failed
  | error h =>
    cases failed
    exact .error h

end Recoverable

/-! ## Numbers -/

theorem Numeral.recoverable_exact (x : Numeral) : Recoverable x.exact := by
  unfold Numeral.exact
  cases x with
  | integer n => exact .ok (n : Rat)
  | fraction q => exact .ok q
  | double x =>
    dsimp only
    split
    · exact .ok _
    · exact .error rfl
  | decimal d =>
    dsimp only
    split
    · exact .ok _
    · exact .error rfl

namespace Number

theorem recoverable_integerPower (base : Rat) (n : Int) : Recoverable (integerPower base n) := by
  unfold integerPower
  split
  · exact .error rfl
  · split <;> exact .ok _

/-- Doubles that leave their range are the only failures of powers with fractions, next to a zero
to a negative power. -/
theorem recoverable_doublePower (base exponent : Rat) :
    Recoverable (doublePower base exponent) := by
  unfold doublePower
  split
  · split
    · exact .ok _
    · split
      · split
        · exact .error rfl
        · exact .ok _
      · split
        · exact .ok _
        · exact .error rfl
  · exact .error rfl

theorem recoverable_power (base exponent : Rat) : Recoverable (power base exponent) := by
  unfold power
  split
  · exact recoverable_integerPower base exponent.num
  · split
    · exact .error rfl
    · exact recoverable_doublePower base exponent

end Number

/-! ## Scales -/

namespace Scale

theorem recoverable_fromSI (s : Scale) (x : Rat) : Recoverable (s.fromSI x) := by
  unfold fromSI
  split
  · exact .error rfl
  · exact .ok _

theorem recoverable_convert (source target : Scale) (x : Rat) :
    Recoverable (convert source target x) := by
  unfold convert
  split
  · exact .error rfl
  · split
    · exact .ok _
    · exact recoverable_fromSI target (source.toSI x)

theorem recoverable_div (s t : Scale) : Recoverable (s.div t) := by
  unfold div
  split
  · exact .error rfl
  · exact .ok _

theorem recoverable_pow (s : Scale) (n : Int) : Recoverable (s.pow n) := by
  unfold pow
  split
  · exact .ok _
  · split
    · exact .error rfl
    · split
      · exact .error rfl
      · exact .ok _

end Scale

/-! ## Quantities -/

namespace Quantity

theorem recoverable_aligned (action : String) (q other : Quantity) :
    Recoverable (q.aligned action other) := by
  unfold aligned
  split
  · exact .error rfl
  · split
    · exact .ok _
    · split
      · exact .error rfl
      · exact Scale.recoverable_convert other.scale q.scale other.value

theorem recoverable_add (q : Quantity) (other : Amount) : Recoverable (q.add other) :=
  (recoverable_aligned "add" q other.lift).map _

theorem recoverable_sub (q : Quantity) (other : Amount) : Recoverable (q.sub other) :=
  (recoverable_aligned "subtract" q other.lift).map _

theorem recoverable_divInto (q : Quantity) (n : Rat) : Recoverable (q.divInto n) := by
  unfold divInto
  split
  · exact .error rfl
  · exact (Scale.recoverable_pow q.scale (-1)).map _

theorem recoverable_div (q : Quantity) (other : Amount) : Recoverable (q.div other) := by
  cases other with
  | number n =>
    unfold div
    dsimp only
    split
    · exact .error rfl
    · exact .ok _
  | quantity o =>
    unfold div
    dsimp only
    split
    · exact .error rfl
    · split
      · exact .ok _
      · -- a scalar in front is taken as a number, and the divisor is inverted
        split
        · exact recoverable_divInto o q.value
        · exact (Scale.recoverable_div q.scale o.scale).map _

theorem recoverable_pow (q : Quantity) (n : Int) : Recoverable (q.pow n) := by
  unfold pow
  split
  · exact (Number.recoverable_integerPower q.value n).map _
  · next failed => exact (Scale.recoverable_pow q.scale n).of_eq_error failed

end Quantity

/-! ## Amounts -/

namespace Amount

theorem recoverable_whole (label : String) (n : Rat) :
    Recoverable (exponent.whole label n) := by
  unfold exponent.whole
  split
  · exact .ok _
  · exact .error rfl

theorem recoverable_exponent (label : String) (a : Amount) : Recoverable (a.exponent label) := by
  cases a with
  | number n => exact recoverable_whole label n
  | quantity q =>
    unfold exponent
    dsimp only
    split
    · exact recoverable_whole label q.siValue
    · exact .error rfl

theorem recoverable_applyNumber (op : Operator) (n : Rat) (q : Quantity) :
    Recoverable (applyNumber op n q) := by
  cases op with
  | add => exact (Quantity.recoverable_aligned "add" _ q).map _
  | sub => exact (Quantity.recoverable_aligned "subtract" _ q).map _
  | mul => exact .ok _
  | div => exact (Quantity.recoverable_divInto q n).map _
  | pow =>
    unfold applyNumber
    dsimp only
    split
    · exact (Number.recoverable_power n q.siValue).map _
    · exact .error rfl

theorem recoverable_applyQuantity (op : Operator) (q : Quantity) (other : Amount) :
    Recoverable (applyQuantity op q other) := by
  cases op with
  | add => exact (Quantity.recoverable_add q other).map _
  | sub => exact (Quantity.recoverable_sub q other).map _
  | mul => exact .ok _
  | div => exact (Quantity.recoverable_div q other).map _
  | pow =>
    unfold applyQuantity
    dsimp only
    split
    · next n _ => exact (Quantity.recoverable_pow q n).map _
    · next failed => exact (recoverable_exponent q.label other).of_eq_error failed

theorem recoverable_applyNumbers (op : Operator) (a b : Rat) :
    Recoverable (applyNumbers op a b) := by
  cases op with
  | add | sub | mul => exact .ok _
  | div =>
    unfold applyNumbers
    dsimp only
    split
    · exact .error rfl
    · exact .ok _
  | pow => exact Number.recoverable_power a b

/-- Arithmetic fails in recoverable ways only, whatever the operands are. -/
theorem recoverable_apply (op : Operator) (left right : Amount) :
    Recoverable (apply op left right) := by
  cases left with
  | quantity q => exact recoverable_applyQuantity op q right
  | number n =>
    cases right with
    | quantity q => exact recoverable_applyNumber op n q
    | number b => exact (recoverable_applyNumbers op n b).map _

end Amount

end Metrology
