import Mathlib.Algebra.Order.Field.Rat
import Mathlib.Algebra.Order.Field.Basic
import Metrology.Proofs.Catalog.Building
import Metrology.Proofs.Measure
import Metrology.Proofs.Scale

/-!
# Units that a catalog reads

Every unit text names a unit with a positive factor (`factor_pos_of_unit`), so that conversion
between such units can be undone (`Scale.convert_back`). A dimension given as a hint counts only
for single names; the own dimension of a text changes nothing about it (`unit_hint_self`), and
another one can change it only for a symbol of several namespaces (`unit_hint_cases`).
-/

namespace Metrology

namespace Scale

theorem factor_pos_of_pow {s t : Scale} {n : Int} (hs : 0 < s.factor) (h : s.pow n = .ok t) :
    0 < t.factor := by
  rcases pow_cases h with ⟨-, rfl⟩ | rfl
  · exact hs
  · exact zpow_pos hs n

theorem factor_pos_of_div {s t u : Scale} (hs : 0 < s.factor) (ht : 0 < t.factor)
    (h : s.div t = .ok u) : 0 < u.factor := by
  rw [div, if_neg ht.ne'] at h
  cases h
  exact div_pos hs ht

end Scale

namespace Catalog

variable {c : Catalog}

/-! ## Positive factors -/

theorem factor_pos_of_named {name : String} {hint : Option Dimension} {s : Scale}
    (h : c.named name hint = .ok s) : 0 < s.factor := by
  unfold named at h
  split at h
  · next r _ =>
    cases h
    exact r.entry.factor_pos
  · split at h
    · split at h
      · next r _ => exact Scale.factor_pos_of_pow r.entry.factor_pos h
      · cases h
    · cases h

theorem factor_pos_of_scaleOf {e : UnitExpr} {s : Scale} (h : c.scaleOf e = .ok s) :
    0 < s.factor := by
  induction e generalizing s with
  | name symbol =>
    obtain ⟨t, named, rfl⟩ := map_eq_ok_iff.1 h
    exact factor_pos_of_named (s := t) named
  | one =>
    cases h
    decide
  | pow base n ih =>
    obtain ⟨t, first, power⟩ := bind_eq_ok_iff.1 h
    exact Scale.factor_pos_of_pow (ih first) power
  | mul left right ihLeft ihRight =>
    obtain ⟨t, first, h⟩ := bind_eq_ok_iff.1 h
    obtain ⟨u, last, h⟩ := bind_eq_ok_iff.1 h
    cases h
    exact mul_pos (ihLeft first) (ihRight last)
  | div left right ihLeft ihRight =>
    obtain ⟨t, first, h⟩ := bind_eq_ok_iff.1 h
    obtain ⟨u, last, h⟩ := bind_eq_ok_iff.1 h
    exact Scale.factor_pos_of_div (ihLeft first) (ihRight last) h

/-- Every unit text names a unit with a positive factor. -/
theorem factor_pos_of_unit {text : String} {hint : Option Dimension} {s : Scale}
    (h : c.unit text hint = .ok s) : 0 < s.factor := by
  unfold unit at h
  dsimp only at h
  split at h
  · cases h
    decide
  · split at h
    · exact factor_pos_of_named h
    · exact factor_pos_of_scaleOf h
    · cases h

/-! ## Hints -/

/-- What a text that spells an expression names: what the name does, with the hint, or what the
expression does, without it. -/
theorem unit_of_expr {text : String} {e : UnitExpr} (read : UnitExpr.ofText text = .ok e)
    (hint : Option Dimension) :
    c.unit text hint = match e with
      | .name name => c.named name hint
      | e => c.scaleOf e := by
  rw [UnitExpr.ofText] at read
  unfold unit
  dsimp only
  split
  · next empty =>
    rw [empty] at read
    cases read
  · rw [read]
    cases e with
    | name | one | pow | mul | div => rfl

theorem unit_of_name {text name : String} (read : UnitExpr.ofText text = .ok (.name name))
    (hint : Option Dimension) : c.unit text hint = c.named name hint :=
  unit_of_expr read hint

/-- The scale of an expression depends on what its names stand for, and on nothing else. -/
theorem scaleOf_congr {c c' : Catalog} {e : UnitExpr}
    (alike : ∀ name ∈ e.names, c'.named name = c.named name) : c'.scaleOf e = c.scaleOf e := by
  induction e with
  | name s => rw [scaleOf, scaleOf, alike s List.mem_cons_self]
  | one => rfl
  | pow base n ih => rw [scaleOf, scaleOf, ih alike]
  | mul left right ihLeft ihRight =>
    obtain ⟨inLeft, inRight⟩ := List.forall_mem_append.1 alike
    rw [scaleOf, scaleOf, ihLeft inLeft, ihRight inRight]
  | div left right ihLeft ihRight =>
    obtain ⟨inLeft, inRight⟩ := List.forall_mem_append.1 alike
    rw [scaleOf, scaleOf, ihLeft inLeft, ihRight inRight]

theorem unit_congr {c c' : Catalog} {text : String} {e : UnitExpr}
    (read : UnitExpr.ofText text = .ok e)
    (alike : ∀ name ∈ e.names, c'.named name = c.named name) : c'.unit text = c.unit text := by
  rw [unit_of_expr read, unit_of_expr read]
  -- only a name on its own is not looked up through its expression
  cases e with
  | name s => exact alike s List.mem_cons_self
  | one | pow | mul | div => exact scaleOf_congr alike

/-- A hint counts only for a text that is a single name. -/
theorem unit_cases (c : Catalog) (text : String) :
    (∃ name, UnitExpr.ofText text = .ok (.name name)) ∨
      ∀ hint, c.unit text hint = c.unit text := by
  cases read : UnitExpr.ofText text with
  | error f =>
    rw [UnitExpr.ofText] at read
    exact .inr fun hint => by simp only [unit, read]
  | ok e =>
    cases e with
    | name symbol => exact .inl ⟨symbol, rfl⟩
    | one | pow | mul | div => exact .inr fun hint => by rw [unit_of_expr read, unit_of_expr read]

/-- A name that no namespace holds is read without regard to hints. -/
theorem named_of_unbound {name : String} {d : Dimension}
    (free : c.bindings.lookup (d, Symbol.normalize name) = none) :
    c.named name (some d) = c.named name := by
  simp only [named, get?, owner?_of_no_binding free, owner?_none]

theorem named_of_binding {name : String} {d : Dimension} {r : Record}
    (found : c.bindings.lookup (d, Symbol.normalize name) = some r) :
    c.named name (some d) = .ok r.entry.scale := by
  simp only [named, get?, owner?_of_binding found]

theorem named_of_symbol {name : String} {r : Record}
    (found : c.symbols.lookup (Symbol.normalize name) = some r) :
    c.named name = .ok r.entry.scale := by
  simp only [named, get?, owner?_none, found]

/-- A symbol that a hint gives another unit than it has on its own: `r` with the hint `d`, and
`r'` of another dimension without. -/
def Shadows (c : Catalog) (name : String) (d : Dimension) (r r' : Record) : Prop :=
  c.bindings.lookup (d, Symbol.normalize name) = some r ∧
    c.symbols.lookup (Symbol.normalize name) = some r' ∧ r'.entry.dimension ≠ d

/-- A hint changes what a name means only where it gives a symbol of several namespaces another
unit. -/
theorem named_hint_cases (hc : c.Consistent) (name : String) (d : Dimension) :
    c.named name (some d) = c.named name ∨ ∃ r r', c.Shadows name d r r' := by
  cases found : c.bindings.lookup (d, Symbol.normalize name) with
  | none => exact .inl (named_of_unbound found)
  | some r =>
    obtain ⟨r', known⟩ := Option.isSome_iff_exists.1 (hc.known found)
    by_cases same : r'.entry.dimension = d
    · -- the owner of the symbol has it in its own namespace, which is the hinted one
      have bound := hc.bound known
      rw [same, found] at bound
      cases bound
      rw [named_of_binding found, named_of_symbol known]
      exact .inl rfl
    · exact .inr ⟨r, r', found, known, same⟩

theorem unit_hint_cases (hc : c.Consistent) (text : String) (d : Dimension) :
    c.unit text (some d) = c.unit text ∨
      ∃ name r r', UnitExpr.ofText text = .ok (.name name) ∧ c.Shadows name d r r' ∧
        c.unit text (some d) = .ok r.entry.scale ∧ c.unit text = .ok r'.entry.scale := by
  rcases unit_cases c text with ⟨name, read⟩ | plain
  · rcases named_hint_cases hc name d with same | ⟨r, r', shadows⟩
    · exact .inl (by rw [unit_of_name read, unit_of_name read, same])
    · refine .inr ⟨name, r, r', read, shadows, ?_, ?_⟩
      · rw [unit_of_name read, named_of_binding shadows.1]
      · rw [unit_of_name read, named_of_symbol shadows.2.1]
  · exact .inl (plain _)

/-- The own dimension of a text as a hint changes nothing about it. -/
theorem unit_hint_self (hc : c.Consistent) {text : String} {s : Scale}
    (h : c.unit text = .ok s) : c.unit text (some s.dimension) = .ok s := by
  rcases unit_hint_cases hc text s.dimension with same | ⟨name, r, r', -, shadows, -, own⟩
  · rw [same, h]
  · rw [h] at own
    cases own
    exact absurd rfl shadows.2.2

end Catalog

end Metrology
