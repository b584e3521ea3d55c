import Metrology.FunctionTable.Standard
import Metrology.Proofs.Success

/-!
# Errors in formulas

A formula is a tree of operators, signs, units behind numbers and calls over arbitrary cells. An
operand that is an error decides what its formula answers, whatever the other operands are
(`Formula.eval_of_firstError?`). So an error travels up from where it arose: the formulas that it
passed through add a note each, and nothing else of it changes (`Formula.error_of_eval`).
-/

namespace Metrology

/-- A sign that spells an operator. -/
structure Sign where
  text : String
  op : Operator
  spelled : Operator.ofSign? text = some op

/-- The name of a standard function. -/
structure FunctionName where
  text : String
  function : UnitFunction
  found : FunctionTable.standard.find? text = some function

/-- A formula over cells. -/
inductive Formula where
  | cell (c : Cell)
  | binary (sign : Sign) (left right : Formula)
  | negate (operand : Formula)
  | attach (value unit : Formula)
  | call (name : FunctionName) (arguments : List Formula)

namespace Formula

/-- The formulas that a formula is evaluated from, in order. -/
def operands : Formula → List Formula
  | cell _ => []
  | binary _ left right => [left, right]
  | negate operand => [operand]
  | attach value unit => [value, unit]
  | call _ arguments => arguments

/-- The note that an error of an operand is given. -/
def note : Formula → String
  | cell _ => ""
  | binary sign _ _ => Cell.noteThrough ("'" ++ sign.op.sign ++ "'")
  | negate _ => Cell.noteThrough "unary '-'"
  | attach _ _ => Cell.noteThrough "'@'"
  | call name _ => Cell.noteThrough (name.text ++ "()")

mutual

/-- The value of a formula. -/
def eval (s : Setting) : Formula → Except Failure Cell
  | cell c => .ok c
  | binary sign left right => do
    let a ← left.eval s
    let b ← right.eval s
    Cell.binary sign.text a b
  | negate operand => do
    let a ← operand.eval s
    a.negate
  | attach value unit => do
    let a ← value.eval s
    let b ← unit.eval s
    Cell.attach s.catalog a b
  | call name arguments => do
    let cells ← evalAll s arguments
    FunctionTable.standard.call s name.text cells

/-- The values of formulas, in order. -/
def evalAll (s : Setting) : List Formula → Except Failure (List Cell)
  | [] => .ok []
  | f :: rest => do
    let c ← f.eval s
    let cells ← evalAll s rest
    .ok (c :: cells)

end

/-- A formula fails, by an error value. -/
def Errs (s : Setting) (f : Formula) : Prop := ∃ e, f.eval s = .ok (.error e)

/-- `LeadsTo s f origin notes`: following the first operand that is an error, one comes from `f` to
`origin`, none of whose operands is an error, and `notes` are those of the formulas on the way, the
last one first. -/
inductive LeadsTo (s : Setting) : Formula → Formula → List String → Prop
  | here {f : Formula} (clean : ∀ g ∈ f.operands, ¬ g.Errs s) : LeadsTo s f f []
  | through {f g origin : Formula} {before after : List Formula} {notes : List String}
      (split : f.operands = before ++ g :: after) (clean : ∀ b ∈ before, ¬ b.Errs s)
      (errs : g.Errs s) (rest : LeadsTo s g origin notes) :
      LeadsTo s f origin (notes ++ [f.note])

/-! ## Induction -/

theorem sizeOf_lt_of_mem_operands {f g : Formula} (mem : g ∈ f.operands) :
    sizeOf g < sizeOf f := by
  cases f with
  | cell c => cases mem
  | binary sign left right =>
    have either : g = left ∨ g = right := by simpa [operands] using mem
    rcases either with rfl | rfl
    · simp only [binary.sizeOf_spec]
      omega
    · simp only [binary.sizeOf_spec]
      omega
  | negate operand =>
    rw [List.mem_singleton.1 mem]
    simp
  | attach value unit =>
    have either : g = value ∨ g = unit := by simpa [operands] using mem
    rcases either with rfl | rfl
    · simp only [attach.sizeOf_spec]
      omega
    · simp only [attach.sizeOf_spec]
      omega
  | call name arguments =>
    have smaller := List.sizeOf_lt_of_mem mem
    simp only [operands] at smaller
    simp only [call.sizeOf_spec]
    omega

/-- What holds of a formula as soon as it holds of its operands holds of every formula. -/
theorem operands_induction {P : Formula → Prop}
    (step : ∀ f : Formula, (∀ g ∈ f.operands, P g) → P f) (f : Formula) : P f :=
  step f fun g mem =>
    have := sizeOf_lt_of_mem_operands mem
    operands_induction step g
termination_by sizeOf f

/-! ## One formula -/

variable {s : Setting}

theorem evalAll_cons_eq_ok_iff {f : Formula} {rest : List Formula} {cells : List Cell} :
    evalAll s (f :: rest) = .ok cells ↔
      ∃ c cs, f.eval s = .ok c ∧ evalAll s rest = .ok cs ∧ c :: cs = cells := by
  simp only [evalAll, bind_eq_ok_iff, Except.ok.injEq]
  constructor
  · rintro ⟨c, first, cs, others, same⟩
    exact ⟨c, cs, first, others, same⟩
  · rintro ⟨c, cs, first, others, same⟩
    exact ⟨c, first, cs, others, same⟩

theorem evalAll_pair_eq_ok {f g : Formula} {a b : Cell} (first : f.eval s = .ok a)
    (last : g.eval s = .ok b) : evalAll s [f, g] = .ok [a, b] := by
  simp only [evalAll, first, last, ok_bind]

/-- A formula has a value only if all its operands have one. -/
theorem evalAll_of_eval {f : Formula} {c : Cell} (h : f.eval s = .ok c) :
    ∃ cells, evalAll s f.operands = .ok cells := by
  cases f with
  | cell d => exact ⟨[], rfl⟩
  | binary sign left right =>
    obtain ⟨a, first, h⟩ := bind_eq_ok_iff.1 h
    obtain ⟨b, last, -⟩ := bind_eq_ok_iff.1 h
    exact ⟨[a, b], evalAll_pair_eq_ok first last⟩
  | negate operand =>
    obtain ⟨a, first, -⟩ := bind_eq_ok_iff.1 h
    exact ⟨[a], by simp only [operands, evalAll, first, ok_bind]⟩
  | attach value unit =>
    obtain ⟨a, first, h⟩ := bind_eq_ok_iff.1 h
    obtain ⟨b, last, -⟩ := bind_eq_ok_iff.1 h
    exact ⟨[a, b], evalAll_pair_eq_ok first last⟩
  | call name arguments =>
    obtain ⟨cells, evaluated, -⟩ := bind_eq_ok_iff.1 h
    exact ⟨cells, evaluated⟩

/-- The first operand that is an error decides the value of every formula: it is this error with
the note of the formula. -/
theorem eval_of_firstError? {f : Formula} {cells : List Cell} {e : ErrorValue}
    (evaluated : evalAll s f.operands = .ok cells) (first : Cell.firstError? cells = some e) :
    f.eval s = .ok (.error (e.withNote f.note)) := by
  cases f with
  | cell d =>
    cases evaluated
    cases first
  | binary sign left right =>
    obtain ⟨a, _, evalLeft, others, rfl⟩ := evalAll_cons_eq_ok_iff.1 evaluated
    obtain ⟨b, _, evalRight, none, rfl⟩ := evalAll_cons_eq_ok_iff.1 others
    cases none
    simp only [eval, evalLeft, evalRight, ok_bind, Cell.binary, sign.spelled, Cell.apply, first,
      note]
  | negate operand =>
    obtain ⟨a, _, evalOperand, none, rfl⟩ := evalAll_cons_eq_ok_iff.1 evaluated
    cases none
    cases a with
    | error e' =>
      cases first
      simp only [eval, evalOperand, ok_bind, Cell.negate, note]
    | absent | number | truth | text | list | object | quantity => cases first
  | attach value unit =>
    obtain ⟨a, _, evalValue, others, rfl⟩ := evalAll_cons_eq_ok_iff.1 evaluated
    obtain ⟨b, _, evalUnit, none, rfl⟩ := evalAll_cons_eq_ok_iff.1 others
    cases none
    simp only [eval, evalValue, evalUnit, ok_bind, Cell.attach, first, note]
  | call name arguments =>
    have evaluated : evalAll s arguments = .ok cells := evaluated
    simp only [eval, evaluated, ok_bind, FunctionTable.call, name.found, first, note]

/-! ## The way to the origin -/

/-- No error among the values of formulas, or a first one. -/
theorem firstError?_cases {fs : List Formula} {cells : List Cell}
    (evaluated : evalAll s fs = .ok cells) :
    (Cell.firstError? cells = none ∧ ∀ f ∈ fs, ¬ f.Errs s) ∨
      ∃ before f after e, fs = before ++ f :: after ∧ (∀ b ∈ before, ¬ b.Errs s) ∧
        f.eval s = .ok (.error e) ∧ Cell.firstError? cells = some e := by
  induction fs generalizing cells with
  | nil =>
    cases evaluated
    exact .inl ⟨rfl, List.forall_mem_nil _⟩
  | cons f fs ih =>
    obtain ⟨c, cs, value, others, rfl⟩ := evalAll_cons_eq_ok_iff.1 evaluated
    by_cases errs : f.Errs s
    · obtain ⟨e, failed⟩ := errs
      cases value.symm.trans failed
      exact .inr ⟨[], f, fs, e, rfl, List.forall_mem_nil _, failed, rfl⟩
    · -- the value of the first formula is passed over
      have skip : Cell.firstError? (c :: cs) = Cell.firstError? cs := by
        cases c with
        | error e => exact absurd ⟨e, value⟩ errs
        | absent | number | truth | text | list | object | quantity => rfl
      rw [skip]
      rcases ih others with ⟨none, clean⟩ | ⟨before, g, after, e, rfl, clean, failed, first⟩
      · exact .inl ⟨none, List.forall_mem_cons.2 ⟨errs, clean⟩⟩
      · exact .inr ⟨f :: before, g, after, e, rfl, List.forall_mem_cons.2 ⟨errs, clean⟩, failed,
          first⟩

/-- The first member with a property splits a list in one way only. -/
theorem eq_of_first {P : Formula → Prop} {before before' after after' : List Formula}
    {g g' : Formula} (same : before ++ g :: after = before' ++ g' :: after')
    (clean : ∀ b ∈ before, ¬ P b) (clean' : ∀ b ∈ before', ¬ P b) (h : P g) (h' : P g') :
    g = g' := by
  induction before generalizing before' with
  | nil =>
    cases before' with
    | nil => exact (List.cons.inj same).1
    | cons b before' =>
      obtain ⟨rfl, -⟩ := List.cons.inj same
      exact absurd h (clean' _ List.mem_cons_self)
  | cons b before ih =>
    cases before' with
    | nil =>
      obtain ⟨rfl, -⟩ := List.cons.inj same
      exact absurd h' (clean _ List.mem_cons_self)
    | cons b' before' =>
      exact ih (List.cons.inj same).2 (List.forall_mem_cons.1 clean).2
        (List.forall_mem_cons.1 clean').2

/-- An error leads to one origin on one way. -/
theorem LeadsTo.unique {f origin origin' : Formula} {notes notes' : List String}
    (h : LeadsTo s f origin notes) (h' : LeadsTo s f origin' notes') :
    origin = origin' ∧ notes = notes' := by
  -- both ways go on with the first operand that is an error, or both end here
  induction h generalizing origin' notes' with
  | here clean =>
    cases h' with
    | here => exact ⟨rfl, rfl⟩
    | through split _ errs _ => exact absurd errs (clean _ (by simp [split]))
  | through split clean errs rest ih =>
    cases h' with
    | here clean' => exact absurd errs (clean' _ (by simp [split]))
    | through split' clean' errs' rest' =>
      obtain rfl := eq_of_first (split.symm.trans split') clean clean' errs errs'
      obtain ⟨rfl, rfl⟩ := ih rest'
      exact ⟨rfl, rfl⟩

/-- By induction on the tree: an error came up from where it arose, with a note of each formula on
the way. -/
theorem leadsTo_of_eval (f : Formula) : ∀ e : ErrorValue, f.eval s = .ok (.error e) →
    ∃ origin notes o, LeadsTo s f origin notes ∧ origin.eval s = .ok (.error o) ∧
      e = { o with notes := o.notes ++ notes } := by
  induction f using operands_induction with
  | step f ih =>
    intro e value
    obtain ⟨cells, evaluated⟩ := evalAll_of_eval value
    rcases firstError?_cases evaluated with
      ⟨-, clean⟩ | ⟨before, g, after, e', split, clean, failed, first⟩
    · exact ⟨f, [], e, .here clean, value, by simp⟩
    · have passed := eval_of_firstError? evaluated first
      rw [value] at passed
      cases passed
      obtain ⟨origin, notes, o, way, arose, rfl⟩ := ih g (by simp [split]) e' failed
      exact ⟨origin, notes ++ [f.note], o, .through split clean ⟨_, failed⟩ way, arose,
        by simp [ErrorValue.withNote]⟩

/-- A formula that evaluates to an error leads, from each formula to its first operand that is an
error, to one origin. The error is that of the origin, with one note for each formula on the way,
the innermost first. And a formula of which an operand is an error has no other value than that. -/
theorem error_of_eval (s : Setting) (f : Formula) :
    (∀ e : ErrorValue, f.eval s = .ok (.error e) →
      ∃ origin notes o, LeadsTo s f origin notes ∧
        (∀ origin' notes', LeadsTo s f origin' notes' → origin' = origin ∧ notes' = notes) ∧
        origin.eval s = .ok (.error o) ∧ e.code = o.code ∧ e.message = o.message ∧
        e.suggestion = o.suggestion ∧ e.notes = o.notes ++ notes) ∧
    ∀ cells : List Cell, evalAll s f.operands = .ok cells → (∃ e, .error e ∈ cells) →
      ∃ e, Cell.firstError? cells = some e ∧ f.eval s = .ok (.error (e.withNote f.note)) := by
  refine ⟨fun e value => ?_, fun cells evaluated failed => ?_⟩
  · obtain ⟨origin, notes, o, way, arose, rfl⟩ := leadsTo_of_eval f e value
    exact ⟨origin, notes, o, way, fun _ _ other => other.unique way, arose, rfl, rfl, rfl, rfl⟩
  · obtain ⟨e, mem⟩ := failed
    have some : (Cell.firstError? cells).isSome = true := by
      rw [Cell.firstError?, List.findSome?_isSome_iff]
      exact ⟨_, mem, rfl⟩
    obtain ⟨first, found⟩ := Option.isSome_iff_exists.1 some
    exact ⟨first, found, eval_of_firstError? evaluated found⟩

/-- An error that was noted before. -/
def missingCell : ErrorValue :=
  { code := "REF", message := "No such cell", notes := ["read from B2"] }

/-- A call with two errors among its arguments, the first of them behind a sign. -/
def failedCall : Formula :=
  call ⟨"compatible", .compatible, rfl⟩
    [negate (cell (.error missingCell)), cell (.error ErrorValue.divZero)]

/-- Three times the failed call is the first error, noted by the sign, the call and the product. -/
theorem error_of_eval_failedCall :
    (∃ e origin notes o,
      eval {} (binary ⟨"×", .mul, rfl⟩ (cell (.ofInt 3)) failedCall) = .ok (.error e) ∧
        LeadsTo {} (binary ⟨"×", .mul, rfl⟩ (cell (.ofInt 3)) failedCall) origin notes ∧
        origin.eval {} = .ok (.error o) ∧ e.message = o.message ∧ e.notes = o.notes ++ notes ∧
        e.notes = ["read from B2", "propagated through unary '-'",
          "propagated through compatible()", "propagated through '*'"]) ∧
    ∃ e : ErrorValue, failedCall.eval {} = .ok (.error (e.withNote failedCall.note)) := by
  have value : eval {} (binary ⟨"×", .mul, rfl⟩ (cell (.ofInt 3)) failedCall) =
      .ok (.error { missingCell with
        notes := ["read from B2", "propagated through unary '-'",
          "propagated through compatible()", "propagated through '*'"] }) := rfl
  obtain ⟨origin, notes, o, way, -, arose, -, message, -, noted⟩ := (error_of_eval {} _).1 _ value
  have cells : evalAll {} failedCall.operands = .ok
      [.error (missingCell.withNote (negate (cell (.error missingCell))).note),
        .error ErrorValue.divZero] := rfl
  obtain ⟨e, -, failed⟩ := (error_of_eval {} failedCall).2 _ cells ⟨_, List.mem_cons_self⟩
  exact ⟨⟨_, origin, notes, o, value, way, arose, message, noted, rfl⟩, e, failed⟩

end Formula

end Metrology
