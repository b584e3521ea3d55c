import Metrology.FunctionTable.Standard
import Metrology.Proofs.Cell.Answers

/-!
# Calls always answer

A standard function takes its arguments apart one by one and answers what does not fit with an
error value; all that can fail behind that is reading of texts, conversion and the look-up of
units. So a function fails in recoverable ways only, whatever it is given
(`FunctionTable.recoverable_of_mem_standard`), and a call always has a result
(`calls_answer`).
-/

namespace Metrology

namespace UnitFunction

variable {function argument : String} {s : Setting} {next : Quantity → Except Failure Cell}

/-! ## Arguments -/

theorem recoverable_takeQuantity (c : Cell) (hnext : ∀ q, Recoverable (next q)) :
    Recoverable (takeQuantity function argument c next) := by
  unfold takeQuantity
  split
  · exact hnext _
  · exact .ok _

theorem recoverable_takeText {next : String → Except Failure Cell} (c : Cell)
    (hnext : ∀ text, Recoverable (next text)) :
    Recoverable (takeText function argument c next) := by
  unfold takeText
  split
  · exact hnext _
  · exact .ok _

theorem recoverable_takeNumber {next : Rat → Except Failure Cell} (c : Cell)
    (hnext : ∀ x, Recoverable (next x)) :
    Recoverable (takeNumber function argument c next) := by
  unfold takeNumber
  split
  · exact (Numeral.recoverable_exact _).bind hnext
  · exact .ok _

theorem recoverable_takeScale {next : Scale → Except Failure Cell} (c : Cell) (s : Setting)
    (hnext : ∀ scale, Recoverable (next scale)) :
    Recoverable (takeScale function argument c s next) := by
  unfold takeScale
  split
  · exact hnext _
  · exact hnext Scale.one
  · exact recoverable_takeText c fun text => (s.catalog.recoverable_unit text none).bind hnext

theorem recoverable_spelled (s : Setting) (text : String) : Recoverable (spelled s text) := by
  refine (Written.recoverable_quantity text).bind ?_
  rintro ⟨value, unit⟩
  exact Quantity.recoverable_inUnit s.catalog value unit

theorem recoverable_takeAnyQuantity (c : Cell) (s : Setting) (hnext : ∀ q, Recoverable (next q)) :
    Recoverable (takeAnyQuantity function argument c s next) := by
  unfold takeAnyQuantity
  split
  · exact hnext _
  · exact (Numeral.recoverable_exact _).bind fun x => hnext _
  · exact recoverable_takeText c fun text => (recoverable_spelled s text).bind hnext

theorem recoverable_convertNumber (s : Setting) (x : Rat) (source target : String) :
    Recoverable (convertNumber s x source target) := by
  refine (Quantity.recoverable_inUnit s.catalog x source).bind fun q => ?_
  exact (Quantity.recoverable_convert s.catalog target q).bind fun converted => .ok _

/-! ## Functions -/

/-- A function that fails in recoverable ways only, whatever its arguments are. -/
def IsRecoverable (f : UnitFunction) : Prop := ∀ arguments s, Recoverable (f.run arguments s)

theorem isRecoverable_convert : convert.IsRecoverable := by
  intro arguments s
  rw [convert]
  dsimp only
  split
  · refine recoverable_takeQuantity _ fun q => ?_
    refine recoverable_takeText _ fun unit => ?_
    exact (Quantity.recoverable_convert s.catalog unit q).map _
  · refine recoverable_takeNumber _ fun value => ?_
    refine recoverable_takeText _ fun source => ?_
    refine recoverable_takeText _ fun target => ?_
    exact recoverable_convertNumber s value source target
  · exact .ok _

/-- A number and a unit text as arguments: what comes of the quantity that they make cannot fail,
only the text can. -/
theorem recoverable_takeNumber_takeText {number unit : String} (value text : Cell) (s : Setting)
    (read : String → String) (make : Quantity → Cell) :
    Recoverable (takeNumber function number value fun value =>
      takeText function unit text fun text =>
      (Quantity.inUnit s.catalog value (read text)).map make) := by
  refine recoverable_takeNumber value fun value => ?_
  refine recoverable_takeText text fun text => ?_
  exact (Quantity.recoverable_inUnit s.catalog value (read text)).map make

theorem isRecoverable_toBase : toBase.IsRecoverable := by
  intro arguments s
  rw [toBase]
  dsimp only
  split
  · exact recoverable_takeQuantity _ fun q => .ok _
  · exact recoverable_takeNumber_takeText _ _ s id _
  · exact .ok _

theorem isRecoverable_simplify : simplify.IsRecoverable := by
  intro arguments s
  rw [simplify]
  dsimp only
  split
  · exact recoverable_takeQuantity _ fun q => .ok _
  · exact recoverable_takeNumber_takeText _ _ s id _
  · exact .ok _

theorem isRecoverable_inUnits : inUnits.IsRecoverable := by
  intro arguments s
  rw [inUnits]
  dsimp only
  split
  · refine recoverable_takeText _ fun text => ?_
    split
    · exact (Quantity.recoverable_convert s.catalog (targetOf text) _).map _
    · refine recoverable_takeNumber _ fun value => ?_
      refine (Written.recoverable_conversion text).bind ?_
      rintro ⟨source, target⟩
      exact recoverable_convertNumber s value source target
  · exact .ok _

theorem isRecoverable_value : value.IsRecoverable := by
  intro arguments s
  rw [value]
  dsimp only
  split
  · exact recoverable_takeAnyQuantity _ s fun q => .ok _
  · exact .ok _

theorem isRecoverable_unit : unit.IsRecoverable := by
  intro arguments s
  rw [unit]
  dsimp only
  split
  · exact recoverable_takeAnyQuantity _ s fun q => .ok _
  · exact .ok _

theorem isRecoverable_dimensions : dimensions.IsRecoverable := by
  intro arguments s
  rw [dimensions]
  dsimp only
  split
  · exact recoverable_takeScale _ s fun scale => .ok _
  · exact .ok _

theorem isRecoverable_isDimensionless : isDimensionless.IsRecoverable := by
  intro arguments s
  rw [isDimensionless]
  dsimp only
  split
  · exact recoverable_takeScale _ s fun scale => .ok _
  · exact .ok _

theorem isRecoverable_compatible : compatible.IsRecoverable := by
  intro arguments s
  rw [compatible]
  dsimp only
  split
  · refine recoverable_takeScale _ s fun a => ?_
    exact recoverable_takeScale _ s fun b => .ok _
  · exact .ok _

theorem isRecoverable_quantity : quantity.IsRecoverable := by
  intro arguments s
  rw [quantity]
  dsimp only
  split
  · exact recoverable_takeText _ fun text => (recoverable_spelled s text).map _
  · exact recoverable_takeNumber_takeText _ _ s Text.strip _
  · exact .ok _

end UnitFunction

/-! ## Calls -/

namespace FunctionTable

theorem isRecoverable_of_mem_standard {f : UnitFunction} (h : f ∈ standard.functions) :
    f.IsRecoverable := by
  have cases : f ∈ standardFunctions := h
  simp only [standardFunctions, List.mem_cons, List.not_mem_nil, or_false] at cases
  rcases cases with rfl | rfl | rfl | rfl | rfl | rfl | rfl | rfl | rfl | rfl
  · exact UnitFunction.isRecoverable_convert
  · exact UnitFunction.isRecoverable_toBase
  · exact UnitFunction.isRecoverable_simplify
  · exact UnitFunction.isRecoverable_inUnits
  · exact UnitFunction.isRecoverable_value
  · exact UnitFunction.isRecoverable_unit
  · exact UnitFunction.isRecoverable_dimensions
  · exact UnitFunction.isRecoverable_isDimensionless
  · exact UnitFunction.isRecoverable_compatible
  · exact UnitFunction.isRecoverable_quantity

/-- A call has a result in every table whose functions fail in recoverable ways only. -/
theorem exists_call {t : FunctionTable} (h : ∀ f ∈ t.functions, f.IsRecoverable) (s : Setting)
    (name : String) (arguments : List Cell) : ∃ c, t.call s name arguments = .ok c := by
  unfold call
  split
  · exact ⟨_, rfl⟩
  · next f found =>
    split
    · exact ⟨_, rfl⟩
    · exact Cell.exists_recover (h f (List.mem_of_find?_eq_some found) arguments s)

theorem find?_eq_none {t : FunctionTable} {name : String} (h : name ∉ t.registered) :
    t.find? name = none := by
  rw [find?, List.find?_eq_none]
  intro f mem same
  exact h (List.mem_map.2 ⟨f, mem, of_decide_eq_true same⟩)

/-- A call of a name that is not registered says so. -/
theorem call_of_not_mem {t : FunctionTable} {name : String} (h : name ∉ t.registered)
    (s : Setting) (arguments : List Cell) :
    t.call s name arguments = .ok (.error (ErrorValue.undefinedFunction name
      (Spelling.closest name t.registered suggestionDistance))) := by
  rw [call, find?_eq_none h]

end FunctionTable

/-- Calls never fail: each standard function, and any other name too, has a result for every list
of arguments in every setting. A name that no function has is answered by an error value that
says so, in any table and whatever the arguments are, errors among them included. -/
theorem calls_answer :
    (∀ s name arguments, ∃ c, FunctionTable.standard.call s name arguments = .ok c) ∧
    ∀ (t : FunctionTable) (s : Setting) name, name ∉ t.registered → ∀ arguments,
      ∃ e, t.call s name arguments = .ok (.error e) ∧ e.code = "UNDEFINED_FUNC" := by
  constructor
  · exact FunctionTable.exists_call fun f => FunctionTable.isRecoverable_of_mem_standard
  · intro t s name unknown arguments
    exact ⟨_, FunctionTable.call_of_not_mem unknown s arguments, rfl⟩

/-- A name that is spelt with a capital letter, called with an error as its argument. -/
theorem calls_answer_capital :
    "Convert" ∉ FunctionTable.standard.registered ∧
      ∃ e, FunctionTable.standard.call {} "Convert" [.error ErrorValue.divZero] = .ok (.error e) ∧
        e.code = "UNDEFINED_FUNC" :=
  ⟨by decide, calls_answer.2 FunctionTable.standard {} "Convert" (by decide) _⟩

end Metrology
