import Mathlib.Data.List.Induction
import Metrology.Proofs.Catalog.Registration

/-!
# Who comes first

Units of different dimensions may share a key. With the dimension as a hint each of them is found;
without a hint the key finds the unit that was bound to it first in the whole run
(`get?_eq_some_iff`). `tables_of_run` puts together what holds of the tables after every run.
-/

namespace Metrology

namespace Builder

open Catalog

variable {b : Builder} {step : BuildStep} {r : Record} {k : String}

/-- A step of the run binds the key to the unit, and before it no unit of any dimension was bound to
the key. -/
def BoundFirst (steps : List BuildStep) (k : String) (r : Record) : Prop :=
  ∃ early step late, steps = early ++ step :: late ∧
    (∀ d, (run {} early).catalog.bindings.lookup (d, k) = none) ∧
    ((run {} early).perform step).1.catalog.bindings.lookup (r.entry.dimension, k) = some r

/-- A step that binds a key for the first time puts it into the global table for the same unit. -/
theorem symbols_of_bound (hc : b.catalog.Consistent)
    (free : ∀ d, b.catalog.bindings.lookup (d, k) = none)
    (bound : (b.perform step).1.catalog.bindings.lookup (r.entry.dimension, k) = some r) :
    (b.perform step).1.catalog.symbols.lookup k = some r := by
  rcases bindings_perform_cases bound with old | ⟨spellings, asked, s, accepted, here⟩
  · rw [free] at old
    cases old
  · have key : Symbol.normalize s = k := (Prod.mk.inj here).2
    have mem : k ∈ (b.catalog.accepted r spellings).map Symbol.normalize :=
      List.mem_map.2 ⟨s, accepted, key⟩
    rw [symbols_perform asked, hc.symbols_eq_none_iff.2 free, Option.none_or, if_pos mem]

/-- The global table holds the unit that was bound to a key first. -/
theorem symbols_run_iff {steps : List BuildStep} :
    (run {} steps).catalog.symbols.lookup k = some r ↔ BoundFirst steps k r := by
  have agree (steps : List BuildStep) : (run {} steps).catalog.Consistent :=
    consistent_run consistent_empty steps
  constructor
  · intro found
    induction steps using List.reverseRecOn with
    | nil => cases found
    | append_singleton steps step ih =>
      have before := extends_run (run {} steps) [step]
      rw [run_append] at found
      cases known : (run {} steps).catalog.symbols.lookup k with
      | some first =>
        -- the key has its owner already, and it stays
        rw [before.symbols known] at found
        cases found
        obtain ⟨early, step', late, rfl, free, bound⟩ := ih known
        exact ⟨early, step', late ++ [step], by simp, free, bound⟩
      | none =>
        refine ⟨steps, step, [], rfl, (agree steps).symbols_eq_none_iff.1 known, ?_⟩
        exact (consistent_run (agree steps) [step]).bound found
  · rintro ⟨early, step, late, rfl, free, bound⟩
    rw [run_append, run_cons]
    exact (extends_run _ late).symbols (symbols_of_bound (agree early) free bound)

/-- Without a hint, a spelling finds the unit that was bound to its key first. -/
theorem get?_eq_some_iff {steps : List BuildStep} {s : String} :
    (run {} steps).catalog.get? s = some r ↔ BoundFirst steps (Symbol.normalize s) r :=
  symbols_run_iff

/-- After every run of building steps, failed ones included, the global table and the namespaces
agree, and later steps take no binding away. So a unit that was registered is found under each of its
spellings where its dimension is given as a hint; without one, the unit is found that was bound to
the spelling first. -/
theorem tables_of_run (steps : List BuildStep) :
    (run {} steps).catalog.Consistent ∧
      (∀ later, Extends (run {} steps).catalog (run {} (steps ++ later)).catalog) ∧
      ∀ front step back r, steps = front ++ step :: back →
        ((run {} front).perform step).2 = .ok (some r) → ∀ s ∈ r.entry.spellings,
          (run {} steps).catalog.get? s (some r.entry.dimension) = some r ∧
            ∃ first, BoundFirst steps (Symbol.normalize s) first ∧
              (run {} steps).catalog.get? s = some first := by
  refine ⟨consistent_run consistent_empty steps, fun later => ?_, ?_⟩
  · rw [run_append]
    exact extends_run _ later
  · rintro front step back r rfl ok s mem
    have owned : (run {} (front ++ step :: back)).catalog.Owns r s := by
      rw [run_append, run_cons]
      exact (owns_of_perform ok mem).of_extends (extends_run _ back)
    have known := (consistent_run consistent_empty (front ++ step :: back)).known owned
    obtain ⟨first, found⟩ := Option.isSome_iff_exists.1 known
    exact ⟨owner?_of_binding owned, first, get?_eq_some_iff.1 found, found⟩

/-- The hour and the hand have their symbol in common. -/
def hourAndHand : List BuildStep :=
  [.define (.plain "time" .ofTime "h" "hour" 3600 ["hr"]),
    .define (.plain "length" .ofLength "h" "hand" (127 / 1250))]

/-- The hand is found as a length, and without a hint the hour, which was there first. -/
theorem hourAndHand_symbols :
    ∃ hour hand : Record, hour.entry.name = "hour" ∧ hand.entry.name = "hand" ∧
      (run {} hourAndHand).catalog.get? "h" (some .ofLength) = some hand ∧
      BoundFirst hourAndHand "h" hour ∧ (run {} hourAndHand).catalog.get? "h" = some hour := by
  obtain ⟨hand, registered, name, dimension, symbol⟩ :
      ∃ r, ((run {} (hourAndHand.take 1)).perform
          (.define (.plain "length" .ofLength "h" "hand" (127 / 1250)))).2 = .ok (some r) ∧
        r.entry.name = "hand" ∧ r.entry.dimension = .ofLength ∧ "h" ∈ r.entry.spellings :=
    ⟨⟨1, .plain "length" .ofLength "h" "hand" (127 / 1250), by decide +kernel, by decide⟩,
      by decide +kernel, rfl, rfl, by decide⟩
  obtain ⟨hinted, hour, first, plain⟩ :=
    (tables_of_run hourAndHand).2.2 _ _ [] hand rfl registered "h" symbol
  have normal : Symbol.normalize "h" = "h" := by decide
  rw [normal] at first
  refine ⟨hour, hand, ?_, name, ?_, first, plain⟩
  · have found : ((run {} hourAndHand).catalog.get? "h").map (fun r => r.entry.name) =
        some "hour" := by
      decide +kernel
    rw [plain, Option.map_some, Option.some.injEq] at found
    exact found
  · rw [← dimension]
    exact hinted

end Builder

end Metrology
