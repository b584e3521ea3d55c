import Metrology.Proofs.Catalog.Precedence
import Metrology.Proofs.UnitExpr.NetExponents

/-!
# Meanings that stay

What a unit text means depends only on the owners of its names. Building steps take no owner away,
so a text whose names have owners keeps its meaning in whatever a catalog grows into
(`unit_of_later_steps`). A name that is read as a power of what stands in front of its last digit
has no owner, and may get one later.
-/

namespace Metrology

namespace Catalog

open UnitExpr

variable {c c' : Catalog} {name : String} {e : UnitExpr} {text : String}

theorem named_of_extends (keeps : Extends c c') (known : c.contains name = true) :
    c'.named name = c.named name := by
  obtain ⟨r, found⟩ := Option.isSome_iff_exists.1 known
  rw [named_of_symbol found, named_of_symbol (keeps.symbols found)]

theorem named_hint_of_extends (keeps : Extends c c') {d : Dimension}
    (bound : (c.bindings.lookup (d, Symbol.normalize name)).isSome = true) :
    c'.named name (some d) = c.named name (some d) := by
  obtain ⟨r, found⟩ := Option.isSome_iff_exists.1 bound
  rw [named_of_binding found, named_of_binding (keeps.bindings found)]

/-- A text whose names have owners names the same unit, or fails alike, wherever these owners
stay. -/
theorem unit_of_extends (keeps : Extends c c') (read : ofUnitText text = .ok e)
    (known : ∀ s ∈ e.names, c.contains s = true) : c'.unit text = c.unit text := by
  unfold ofUnitText at read
  split at read
  · next empty => simp only [unit, empty, if_true]
  · exact unit_congr read fun s mem => named_of_extends keeps (known s mem)

theorem unit_hint_of_extends (keeps : Extends c c') (read : ofUnitText text = .ok (.name name))
    {d : Dimension} (bound : (c.bindings.lookup (d, Symbol.normalize name)).isSome = true) :
    c'.unit text (some d) = c.unit text (some d) := by
  unfold ofUnitText at read
  split at read
  · cases read
  · rw [unit_of_name read, unit_of_name read, named_hint_of_extends keeps bound]

end Catalog

namespace Builder

open Catalog UnitExpr

/-- Whatever steps follow, and whether or not they fail, a text means what it meant before if all
its names had owners then. The same goes for a single name behind a hint, if it was bound in the
namespace of the hint. -/
theorem unit_of_later_steps (steps later : List BuildStep) {text : String} {e : UnitExpr}
    (read : ofUnitText text = .ok e) :
    ((∀ name ∈ e.names, (run {} steps).catalog.contains name = true) →
      (run {} (steps ++ later)).catalog.unit text = (run {} steps).catalog.unit text) ∧
    ∀ name d, e = .name name →
      ((run {} steps).catalog.bindings.lookup (d, Symbol.normalize name)).isSome = true →
      (run {} (steps ++ later)).catalog.unit text (some d) =
        (run {} steps).catalog.unit text (some d) := by
  have keeps : Extends (run {} steps).catalog (run {} (steps ++ later)).catalog := by
    rw [run_append]
    exact extends_run _ later
  refine ⟨unit_of_extends keeps read, ?_⟩
  rintro name d rfl bound
  exact unit_hint_of_extends keeps read bound

/-- Masses under the symbols of the hour, a second hour, which is refused, and a spelling more for
the hand. -/
def furtherSteps : List BuildStep :=
  [.define (.plain "mass" .ofMass "hr" "hundredweight" 50 ["h"]),
    .define (.plain "time" .ofTime "h" "sidereal hour" 3590),
    .addAlias "hh" "h" (some .ofLength)]

/-- Hours to the power -2 are still hours, and the hand is still found as a length. -/
theorem hour_after_furtherSteps :
    (run {} (hourAndHand ++ furtherSteps)).catalog.unit "1/hr^2" =
        .ok (.linear (Dimension.ofTime.pow (-2)) (1 / 12960000)) ∧
      (run {} (hourAndHand ++ furtherSteps)).catalog.unit "h" (some .ofLength) =
        .ok (.linear .ofLength (127 / 1250)) := by
  have readHour : ofUnitText "1/hr^2" = .ok (.div .one (.pow (.name "hr") 2)) := by decide
  have readHand : ofUnitText "h" = .ok (.name "h") := by decide
  have known : ∀ name ∈ (UnitExpr.one.div ((UnitExpr.name "hr").pow 2)).names,
      (run {} hourAndHand).catalog.contains name = true := by
    decide +kernel
  have bound : ((run {} hourAndHand).catalog.bindings.lookup
      (.ofLength, Symbol.normalize "h")).isSome = true := by
    decide +kernel
  rw [(unit_of_later_steps hourAndHand furtherSteps readHour).1 known,
    (unit_of_later_steps hourAndHand furtherSteps readHand).2 "h" .ofLength rfl bound]
  decide +kernel

end Builder

end Metrology
