import Metrology.Proofs.FunctionTable.Conversion
import Metrology.Proofs.Recovery

/-!
# Compatibility by name

The call of `compatible` compares the dimensions of two unit texts, each read on its own, while
`convert` reads the second text with the dimension of the first as a hint. In the standard catalog
the first call predicts whether the second one yields a number, except where `C` means a charge or
`F` a capacitance only behind the hint; there the number comes against the prediction
(`callCompatible_predicts`).
-/

namespace Metrology

open Catalog

namespace FunctionTable

/-- The call that compares the dimensions of two unit texts. -/
def callCompatible (s : Setting) (a b : String) : Except Failure Cell :=
  standard.call s "compatible" [.text a, .text b]

variable {s : Setting} {x : Numeral} {q : Rat} {a b : String} {u v : Scale}

/-- Both texts are read on their own. -/
theorem callCompatible_eq (readA : s.catalog.unit a = .ok u) (readB : s.catalog.unit b = .ok v) :
    callCompatible s a b = .ok (.truth (u.isCompatible v)) := by
  have call : callCompatible s a b =
      Cell.recover (UnitFunction.compatible.run [.text a, .text b] s) := rfl
  rw [call]
  simp only [UnitFunction.compatible, UnitFunction.takeScale, UnitFunction.takeText, readA, readB,
    ok_bind]
  rfl

/-- With the second text read behind the hint, only the dimensions matter. -/
theorem callConvert_of_eq (exact : x.exact = .ok q) (readA : s.catalog.unit a = .ok u)
    (readB : s.catalog.unit b (some u.dimension) = .ok v) (same : v.dimension = u.dimension) :
    ∃ y, callConvert s x a b = .ok (.number y) :=
  ⟨_, callConvert_eq_number_iff.2 ⟨q, u, v, _, exact, readA, readB, same,
    Scale.convert_eq same.symm (factor_pos_of_unit readB).ne' q, rfl⟩⟩

/-- What has no exact value is not converted at all. -/
theorem callConvert_of_not_exact {f : Failure} (inexact : x.exact = .error f) :
    ∃ e, callConvert s x a b = .ok (.error e) := by
  have recoverable := x.recoverable_exact
  rw [inexact] at recoverable
  cases recoverable with
  | error kind =>
    refine ⟨ErrorValue.ofFailure f, ?_⟩
    rw [callConvert_eq, inexact]
    exact if_pos kind

section Standard

variable (hs : s.catalog = Catalog.standard) (readA : Catalog.standard.unit a = .ok u)
  (readB : Catalog.standard.unit b = .ok v)

include hs readA readB

/-- A text that needs the hint is converted to, but not compatible. -/
theorem callCompatible_of_needsHint (needs : NeedsHint a b) (exact : x.exact = .ok q) :
    callCompatible s a b = .ok (.truth false) ∧ ∃ y, callConvert s x a b = .ok (.number y) := by
  obtain ⟨differ, v', own, temperature⟩ := needs.own readA
  rw [readB] at own
  cases own
  obtain ⟨w, hinted, same⟩ := needs.hinted readA
  rw [← hs] at readA readB hinted
  refine ⟨?_, callConvert_of_eq exact readA hinted same⟩
  rw [callCompatible_eq readA readB, Scale.isCompatible, temperature, decide_eq_false differ]

/-- Any other text means the same to both calls. -/
theorem callCompatible_of_not_needsHint (own : ¬ NeedsHint a b) (exact : x.exact = .ok q) :
    (callCompatible s a b = .ok (.truth true) ∧ ∃ y, callConvert s x a b = .ok (.number y)) ∨
      (callCompatible s a b = .ok (.truth false) ∧ ∃ e, callConvert s x a b = .ok (.error e)) := by
  have hinted := (hinted_of_not_needsHint own readA).trans readB
  rw [← hs] at readA readB hinted
  rw [callCompatible_eq readA readB, Scale.isCompatible]
  by_cases same : u.dimension = v.dimension
  · exact .inl ⟨by rw [decide_eq_true same], callConvert_of_eq exact readA hinted same.symm⟩
  · exact .inr ⟨by rw [decide_eq_false same],
      callConvert_of_ne exact readA hinted (Ne.symm same)⟩

/-- In the standard catalog, `compatible` says of two unit texts whether `convert` carries a number
from one to the other. Only for a text that needs a hint it says no, and `convert` yields a number.
What is no finite number is converted nowhere. -/
theorem callCompatible_predicts (x : Numeral) :
    (∀ q, x.exact = .ok q →
      (¬ NeedsHint a b →
        (callCompatible s a b = .ok (.truth true) ∧ ∃ y, callConvert s x a b = .ok (.number y)) ∨
        (callCompatible s a b = .ok (.truth false) ∧
          ∃ e, callConvert s x a b = .ok (.error e))) ∧
      (NeedsHint a b → callCompatible s a b = .ok (.truth false) ∧
        ∃ y, callConvert s x a b = .ok (.number y))) ∧
    ∀ f, x.exact = .error f → ∃ e, callConvert s x a b = .ok (.error e) :=
  ⟨fun _ exact => ⟨fun own => callCompatible_of_not_needsHint hs readA readB own exact,
    fun needs => callCompatible_of_needsHint hs readA readB needs exact⟩,
    fun _ inexact => callConvert_of_not_exact inexact⟩

end Standard

/-- Degrees Celsius are compatible with degrees Fahrenheit and converted to them. -/
theorem callCompatible_celsius :
    callCompatible {} "C" "F" = .ok (.truth true) ∧
      ∃ y, callConvert {} (.integer 100) "C" "F" = .ok (.number y) := by
  obtain ⟨u, readC, dimension, -, -⟩ := unit_of_listing (l := celsius) (by simp) (by decide)
  obtain ⟨v, readF, dimension', -, -⟩ := unit_of_listing (l := fahrenheit) (by simp) (by decide)
  have own : ¬ NeedsHint "C" "F" := fun needs => (needs.own readC).1 dimension
  have same : u.isCompatible v = true := decide_eq_true (dimension.trans dimension'.symm)
  rcases ((callCompatible_predicts (s := {}) rfl readC readF (.integer 100)).1 100 rfl).1 own with
    yes | ⟨no, -⟩
  · exact yes
  · rw [callCompatible_eq (s := {}) readC readF, same] at no
    cases no

/-- Ampere seconds are converted to `C`, but on its own this is no unit of charge. -/
theorem not_callCompatible_predicts :
    ¬ ∀ (a b : String) (u v : Scale) (x : Numeral), Catalog.standard.unit a = .ok u →
      Catalog.standard.unit b = .ok v →
        (callCompatible {} a b = .ok (.truth true) ↔
          ∃ y, callConvert {} x a b = .ok (.number y)) := by
  intro predicts
  obtain ⟨u, read, dimension, -, -⟩ := standard_unit_ampere_second
  have needs : NeedsHint "A*s" "C" := ⟨u, "C", read, by decide, .inl ⟨by decide, dimension⟩⟩
  obtain ⟨-, v, own, -⟩ := needs.own read
  obtain ⟨denied, converted⟩ :=
    callCompatible_of_needsHint (s := {}) rfl read own needs (x := .integer 1) rfl
  have allowed := (predicts _ _ _ _ (.integer 1) read own).2 converted
  rw [denied] at allowed
  cases allowed

end FunctionTable

end Metrology
