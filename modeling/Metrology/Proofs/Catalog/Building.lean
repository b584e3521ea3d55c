import Metrology.Catalog.Builder

/-!
# Catalogs under construction

What a run of building steps keeps, whether or not its steps succeed: owners stay
(`extends_run`), and the global table and the namespaces agree with each other
(`consistent_run`). Both follow from what binding one key does (`bindKey_cases`), and so does
every other property of the tables (`Builder.run_preserves`).
-/

namespace Metrology

namespace Catalog

/-! ## Tables -/

section Tables

variable {κ β : Type} [BEq κ]

theorem lookup_append_single (table : List (κ × β)) (key k : κ) (r : β) :
    (table ++ [(key, r)]).lookup k = (table.lookup k).or (if k == key then some r else none) := by
  rw [List.lookup_append, List.lookup_cons]
  cases k == key with
  | true => rfl
  | false => rfl

/-- A key gets an owner only where it has none. -/
theorem lookup_addIfAbsent [LawfulBEq κ] (table : List (κ × Record)) (key k : κ) (r : Record) :
    (addIfAbsent key r table).lookup k =
      (table.lookup k).or (if k == key then some r else none) := by
  unfold addIfAbsent
  split
  · next owner found =>
    by_cases same : k = key
    · rw [same, found, Option.some_or]
    · simp [same]
  · exact lookup_append_single table key k r

theorem addIfAbsent_of_isSome {table : List (κ × Record)} {key : κ} (r : Record)
    (taken : (table.lookup key).isSome = true) : addIfAbsent key r table = table := by
  obtain ⟨owner, found⟩ := Option.isSome_iff_exists.1 taken
  simp only [addIfAbsent, found]

end Tables

/-! ## Owners stay -/

/-- Every owner in one catalog is the owner in another. -/
structure Extends (c c' : Catalog) : Prop where
  symbols : ∀ ⦃k r⦄, c.symbols.lookup k = some r → c'.symbols.lookup k = some r
  bindings : ∀ ⦃k r⦄, c.bindings.lookup k = some r → c'.bindings.lookup k = some r

theorem Extends.refl (c : Catalog) : Extends c c := ⟨fun _ _ h => h, fun _ _ h => h⟩

theorem Extends.trans {a b c : Catalog} (first : Extends a b) (second : Extends b c) :
    Extends a c :=
  ⟨fun _ _ h => second.symbols (first.symbols h), fun _ _ h => second.bindings (first.bindings h)⟩

/-- What binding a spelling does: it claims the key in the namespace of the unit unless the unit
has it already, and in the global table unless some unit has it. -/
theorem bindKey_cases {c c' : Catalog} {s : String} {r : Record} (h : c.bindKey s r = .ok c') :
    (c.bindings.lookup (r.entry.dimension, Symbol.normalize s) = some r ∧
      c' = { c with symbols := addIfAbsent (Symbol.normalize s) r c.symbols }) ∨
    (c.bindings.lookup (r.entry.dimension, Symbol.normalize s) = none ∧
      c' = { c with
              symbols := addIfAbsent (Symbol.normalize s) r c.symbols
              bindings := c.bindings ++ [((r.entry.dimension, Symbol.normalize s), r)] }) := by
  unfold bindKey at h
  dsimp only at h
  split at h
  · next owner found =>
    split at h
    · next same =>
      cases h
      exact .inl ⟨same ▸ found, rfl⟩
    · cases h
  · next free =>
    cases h
    exact .inr ⟨free, rfl⟩

theorem symbols_of_bindKey {c c' : Catalog} {s : String} {r : Record}
    (h : c.bindKey s r = .ok c') (k : String) :
    c'.symbols.lookup k =
      (c.symbols.lookup k).or (if k == Symbol.normalize s then some r else none) := by
  rcases bindKey_cases h with ⟨-, rfl⟩ | ⟨-, rfl⟩
  · exact lookup_addIfAbsent c.symbols (Symbol.normalize s) k r
  · exact lookup_addIfAbsent c.symbols (Symbol.normalize s) k r

theorem extends_bindKey {c c' : Catalog} {s : String} {r : Record} (h : c.bindKey s r = .ok c') :
    Extends c c' := by
  refine ⟨fun k owner found => ?_, fun k owner found => ?_⟩
  · rw [symbols_of_bindKey h, found, Option.some_or]
  · rcases bindKey_cases h with ⟨-, rfl⟩ | ⟨-, rfl⟩
    · exact found
    · rw [lookup_append_single, found, Option.some_or]

/-! ## Tables that agree -/

/-- The global table and the namespaces agree: the owner of a symbol has it in its own namespace,
every key of a namespace is a symbol, and a namespace holds units of its dimension. -/
structure Consistent (c : Catalog) : Prop where
  bound : ∀ ⦃k r⦄, c.symbols.lookup k = some r → c.bindings.lookup (r.entry.dimension, k) = some r
  known : ∀ ⦃d k r⦄, c.bindings.lookup (d, k) = some r → (c.symbols.lookup k).isSome = true
  housed : ∀ ⦃d k r⦄, c.bindings.lookup (d, k) = some r → r.entry.dimension = d

theorem consistent_empty : Consistent {} where
  bound := by
    intro k r h
    cases h
  known := by
    intro d k r h
    cases h
  housed := by
    intro d k r h
    cases h

/-- A key is not in the global table exactly if it is in no namespace. -/
theorem Consistent.symbols_eq_none_iff {c : Catalog} (hc : c.Consistent) {k : String} :
    c.symbols.lookup k = none ↔ ∀ d, c.bindings.lookup (d, k) = none := by
  constructor
  · intro unknown d
    refine Option.eq_none_iff_forall_ne_some.2 fun r found => ?_
    have known := hc.known found
    rw [unknown] at known
    cases known
  · intro free
    refine Option.eq_none_iff_forall_ne_some.2 fun r found => ?_
    have bound := hc.bound found
    rw [free] at bound
    cases bound

theorem Consistent.bindKey {c c' : Catalog} {s : String} {r : Record} (hc : c.Consistent)
    (h : c.bindKey s r = .ok c') : c'.Consistent := by
  rcases bindKey_cases h with ⟨found, rfl⟩ | ⟨free, rfl⟩
  · rw [addIfAbsent_of_isSome r (hc.known found)]
    exact hc
  · have symbols := symbols_of_bindKey h
    dsimp only at symbols
    have bindings := lookup_append_single c.bindings (r.entry.dimension, Symbol.normalize s)
    refine ⟨fun k owner found => ?_, fun d k owner found => ?_, fun d k owner found => ?_⟩
    · -- an owner of a symbol is an old one, or the unit that claims a free key
      dsimp only at found ⊢
      rw [symbols, Option.or_eq_some_iff] at found
      rcases found with found | ⟨-, fresh⟩
      · rw [bindings, hc.bound found, Option.some_or]
      · obtain ⟨same, owned⟩ := Option.ite_none_right_eq_some.1 fresh
        rw [beq_iff_eq] at same
        cases same
        cases owned
        rw [bindings, free, Option.none_or, if_pos BEq.rfl]
    · -- a key of a namespace is an old one, or it has just been put into the global table
      dsimp only at found ⊢
      rw [bindings, Option.or_eq_some_iff] at found
      rw [symbols, Option.isSome_or]
      rcases found with found | ⟨-, fresh⟩
      · rw [hc.known found, Bool.true_or]
      · obtain ⟨same, -⟩ := Option.ite_none_right_eq_some.1 fresh
        have key := (Prod.mk.inj (beq_iff_eq.1 same)).2
        simp [key]
    · dsimp only at found
      rw [bindings, Option.or_eq_some_iff] at found
      rcases found with found | ⟨-, fresh⟩
      · exact hc.housed found
      · obtain ⟨same, owned⟩ := Option.ite_none_right_eq_some.1 fresh
        cases owned
        exact (Prod.mk.inj (beq_iff_eq.1 same)).1.symm

/-! ## Runs -/

/-- What binding a key keeps is kept by binding several, up to the first that is taken. -/
theorem bindAll_preserves {P : Catalog → Prop} {r : Record} {spellings : List String}
    (key : ∀ ⦃c c' s⦄, s ∈ spellings → P c → c.bindKey s r = .ok c' → P c') {c : Catalog}
    (h : P c) : P (c.bindAll r spellings).1 := by
  induction spellings generalizing c with
  | nil => exact h
  | cons s rest ih =>
    unfold bindAll
    split
    · next c' bound =>
      exact ih (fun _ _ _ mem => key (List.mem_cons_of_mem s mem)) (key List.mem_cons_self h bound)
    · exact h

end Catalog

namespace Builder

open Catalog

/-- Registration binds the spellings of an entry; the rest of it is about the records. -/
theorem catalog_register (b : Builder) (r : Record) :
    ∃ records, (b.register r).1.catalog =
      { (b.catalog.bindAll r r.entry.spellings).1 with records := records } := by
  unfold register
  dsimp only
  split
  · next c bound => exact ⟨_, by rw [bound]⟩
  · next c f bound => exact ⟨c.records, by rw [bound]⟩

/-- What binding a key keeps is kept by every step of building. -/
theorem perform_preserves {P : Catalog → Prop}
    (key : ∀ ⦃c c' s r⦄, P c → c.bindKey s r = .ok c' → P c')
    (list : ∀ ⦃c⦄ records, P c → P { c with records := records }) {b : Builder}
    (h : P b.catalog) (step : BuildStep) : P (b.perform step).1.catalog := by
  have registration (r : Record) : P (b.register r).1.catalog := by
    obtain ⟨records, same⟩ := catalog_register b r
    rw [same]
    exact list records (bindAll_preserves (fun _ _ _ _ hc bound => key hc bound) h)
  cases step with
  | define l =>
    unfold perform define
    dsimp only
    cases l.entry with
    | error f => exact h
    | ok e => exact registration _
  | register r => exact registration r
  | addAlias spelling symbol hint =>
    unfold perform addAlias
    dsimp only
    split
    · exact h
    · split
      · next c bound => exact key h bound
      · exact h

/-- What every step keeps is kept by every run. -/
theorem run_invariant {P : Builder → Prop} (one : ∀ ⦃b⦄ step, P b → P (b.perform step).1)
    {b : Builder} (h : P b) (steps : List BuildStep) : P (b.run steps) := by
  induction steps generalizing b with
  | nil => exact h
  | cons step steps ih =>
    rw [run_cons]
    exact ih (one step h)

/-- What binding a key keeps is kept by every run of building steps. -/
theorem run_preserves {P : Catalog → Prop}
    (key : ∀ ⦃c c' s r⦄, P c → c.bindKey s r = .ok c' → P c')
    (list : ∀ ⦃c⦄ records, P c → P { c with records := records }) {b : Builder}
    (h : P b.catalog) (steps : List BuildStep) : P (b.run steps).catalog :=
  run_invariant (P := fun b => P b.catalog) (fun _ step h => perform_preserves key list h step) h
    steps

/-- No step of building takes a symbol from its owner. -/
theorem extends_run (b : Builder) (steps : List BuildStep) :
    Extends b.catalog (b.run steps).catalog :=
  run_preserves (P := Extends b.catalog) (fun _ _ _ _ h bound => h.trans (extends_bindKey bound))
    (fun _ _ h => ⟨h.symbols, h.bindings⟩) (.refl b.catalog) steps

theorem extends_perform (b : Builder) (step : BuildStep) :
    Extends b.catalog (b.perform step).1.catalog :=
  extends_run b [step]

/-- The tables of every catalog under construction agree. -/
theorem consistent_run {b : Builder} (h : b.catalog.Consistent) (steps : List BuildStep) :
    (b.run steps).catalog.Consistent :=
  run_preserves (fun _ _ _ _ h bound => h.bindKey bound)
    (fun _ _ h => ⟨h.bound, h.known, h.housed⟩) h steps

/-- A builder that a run of steps can lead to. -/
def Reachable (b : Builder) : Prop := ∃ steps, run {} steps = b

theorem Reachable.consistent {b : Builder} (h : b.Reachable) : b.catalog.Consistent := by
  obtain ⟨steps, rfl⟩ := h
  exact consistent_run consistent_empty steps

end Builder

end Metrology
