import Metrology.Proofs.Catalog.Registration

/-!
# Who owns a symbol

In a catalog that listings define, every owner of a key is a listing that claims it
(`claimed_run`), and the first listing to claim a key as its symbol owns it: in the global table
(`symbols_of_find?`) and, among those of its dimension, in its namespace (`bindings_of_find?`).
-/

namespace Metrology

/-- The keys that a listing claims. -/
def Listing.keys (l : Listing) : List String := (l.symbol :: l.aliases).map Symbol.normalize

theorem Listing.toListing_of_entry {l : Listing} {e : Entry} (h : l.entry = .ok e) :
    e.toListing = l := by
  unfold entry at h
  split at h
  · split at h
    · cases h
      rfl
    · cases h
  · cases h

namespace Catalog

/-- Every owner of a key is one of the listings, claims the key, and has the dimension. -/
def Claimed (ls : List Listing) (c : Catalog) : Prop :=
  ∀ ⦃d k r⦄, c.bindings.lookup (d, k) = some r →
    r.entry.toListing ∈ ls ∧ r.entry.dimension = d ∧ k ∈ r.entry.toListing.keys

theorem Claimed.bindKey {ls : List Listing} {c c' : Catalog} {s : String} {r : Record}
    (hc : Claimed ls c) (listed : r.entry.toListing ∈ ls) (mem : s ∈ r.entry.spellings)
    (h : c.bindKey s r = .ok c') : Claimed ls c' := by
  intro d k owner found
  rcases bindKey_cases h with ⟨-, rfl⟩ | ⟨-, rfl⟩
  · exact hc found
  · rw [lookup_append_single, Option.or_eq_some_iff] at found
    rcases found with found | ⟨-, fresh⟩
    · exact hc found
    · obtain ⟨same, owned⟩ := Option.ite_none_right_eq_some.1 fresh
      cases owned
      obtain ⟨rfl, rfl⟩ := Prod.mk.inj (beq_iff_eq.1 same)
      exact ⟨listed, rfl, List.mem_map.2 ⟨s, mem, rfl⟩⟩

/-- A spelling that is free in the namespace of a unit is bound to it there, and in the global
table if it is free there too. -/
theorem bindAll_of_free {c : Catalog} {s : String} {r : Record} {rest : List String}
    (free : c.bindings.lookup (place r s) = none) :
    (c.bindAll r (s :: rest)).1.Owns r s ∧
      (c.symbols.lookup (Symbol.normalize s) = none →
        (c.bindAll r (s :: rest)).1.symbols.lookup (Symbol.normalize s) = some r) := by
  -- a free key is never refused
  have first : s ∈ c.accepted r (s :: rest) := mem_accepted_cons (admits_of_free free) rest
  constructor
  · rw [Owns, bindings_bindAll, free, Option.none_or, if_pos (List.mem_map_of_mem first)]
  · intro fresh
    rw [symbols_bindAll, fresh, Option.none_or, if_pos (List.mem_map_of_mem first)]

end Catalog

namespace Builder

open Catalog

theorem claimed_define {ls : List Listing} {b : Builder} {l : Listing}
    (h : Claimed ls b.catalog) (listed : l ∈ ls) : Claimed ls (b.define l).1.catalog := by
  unfold define
  cases valid : l.entry with
  | error f => exact h
  | ok e =>
    obtain ⟨records, same⟩ := catalog_register b ⟨b.nextSerial, e⟩
    have own := Listing.toListing_of_entry valid
    dsimp only
    rw [same]
    exact bindAll_preserves (P := Claimed ls)
      (fun _ _ _ mem hc bound => hc.bindKey (own ▸ listed) mem bound) h

/-- A listing whose symbol is free gets it. -/
theorem owner_of_define {b : Builder} {l : Listing} {e : Entry} (valid : l.entry = .ok e)
    (free : b.catalog.bindings.lookup (l.dimension, Symbol.normalize l.symbol) = none) :
    (b.define l).1.catalog.bindings.lookup (l.dimension, Symbol.normalize l.symbol) =
        some ⟨b.nextSerial, e⟩ ∧
      (b.catalog.symbols.lookup (Symbol.normalize l.symbol) = none →
        (b.define l).1.catalog.symbols.lookup (Symbol.normalize l.symbol) = some ⟨b.nextSerial, e⟩) := by
  obtain ⟨records, same⟩ := catalog_register b ⟨b.nextSerial, e⟩
  have own := Listing.toListing_of_entry valid
  subst own
  have defined : b.define e.toListing = b.register ⟨b.nextSerial, e⟩ := by
    simp only [define, valid]
  rw [defined, same]
  exact bindAll_of_free (r := ⟨b.nextSerial, e⟩) free

/-- In a catalog that listings define, every owner of a key claims it. -/
theorem claimed_run {ls : List Listing} {b : Builder} (h : Claimed ls b.catalog)
    {steps : List Listing} (listed : steps ⊆ ls) :
    Claimed ls (b.run (steps.map .define)).catalog := by
  induction steps generalizing b with
  | nil => exact h
  | cons l steps ih =>
    rw [List.map_cons, run_cons]
    exact ih (claimed_define h (listed List.mem_cons_self))
      fun _ mem => listed (List.mem_cons_of_mem l mem)

/-- The catalog that listings define. -/
def catalogOf (ls : List Listing) : Catalog := (run {} (ls.map .define)).catalog

theorem claimed_catalogOf (ls : List Listing) : Claimed ls (catalogOf ls) :=
  claimed_run (fun _ _ _ found => by cases found) (List.Subset.refl ls)

theorem consistent_catalogOf (ls : List Listing) : (catalogOf ls).Consistent :=
  consistent_run consistent_empty _

/-- What a listing binds stays bound when others follow it. -/
theorem extends_catalogOf (front : List Listing) (l : Listing) (back : List Listing) :
    Extends ((run {} (front.map .define)).define l).1.catalog (catalogOf (front ++ l :: back)) := by
  rw [catalogOf, List.map_append, run_append, List.map_cons, run_cons]
  exact extends_run _ _

section Owners

variable {ls : List Listing} {l : Listing} {e : Entry}

/-- The first of the listings of a dimension to claim a key, if the key is its symbol, owns it in
the namespace of the dimension. -/
theorem bindings_of_find? (valid : l.entry = .ok e)
    (first : ls.find? (fun l' => l'.dimension = l.dimension ∧ Symbol.normalize l.symbol ∈ l'.keys) =
      some l) :
    ∃ r, (catalogOf ls).bindings.lookup (l.dimension, Symbol.normalize l.symbol) = some r ∧
      r.entry.toListing = l := by
  obtain ⟨-, front, back, rfl, others⟩ := List.find?_eq_some_iff_append.1 first
  have free :
      (catalogOf front).bindings.lookup (l.dimension, Symbol.normalize l.symbol) = none := by
    refine Option.eq_none_iff_forall_ne_some.2 fun r found => ?_
    obtain ⟨listed, dimension, claims⟩ := claimed_catalogOf front found
    have other := others _ listed
    rw [decide_eq_true (And.intro dimension claims)] at other
    cases other
  exact ⟨_, (extends_catalogOf front l back).bindings (owner_of_define valid free).1,
    Listing.toListing_of_entry valid⟩

/-- The first listing to claim a key, if the key is its symbol, owns it globally. -/
theorem symbols_of_find? (valid : l.entry = .ok e)
    (first : ls.find? (fun l' => Symbol.normalize l.symbol ∈ l'.keys) = some l) :
    ∃ r, (catalogOf ls).symbols.lookup (Symbol.normalize l.symbol) = some r ∧
      r.entry.toListing = l := by
  obtain ⟨-, front, back, rfl, others⟩ := List.find?_eq_some_iff_append.1 first
  -- no listing in front claims the key, so none owns it, globally or in a namespace
  have unknown : (catalogOf front).symbols.lookup (Symbol.normalize l.symbol) = none := by
    refine Option.eq_none_iff_forall_ne_some.2 fun r found => ?_
    obtain ⟨listed, -, claims⟩ :=
      claimed_catalogOf front ((consistent_catalogOf front).bound found)
    exact absurd claims (by simpa using others _ listed)
  have free := (consistent_catalogOf front).symbols_eq_none_iff.1 unknown l.dimension
  exact ⟨_, (extends_catalogOf front l back).symbols ((owner_of_define valid free).2 unknown),
    Listing.toListing_of_entry valid⟩

end Owners

end Builder

end Metrology
