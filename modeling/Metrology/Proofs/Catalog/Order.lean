import Mathlib.Data.List.Find
import Mathlib.Data.List.Pairwise
import Metrology.Proofs.Catalog.Ownership

/-!
# The order of registration

Units that have no key of a dimension in common can be registered in any order (`holds_of_apart`).
The namespaces come out the same, since each of their keys has one claimant; a key of several
namespaces goes globally to the first to claim it. So the order decides nothing but who owns the
latter (`order_of_registration`).
-/

namespace Metrology

namespace Catalog

/-- The places that a unit claims in the namespace of its dimension. -/
def places (r : Record) : List (Dimension × String) := r.entry.spellings.map (place r)

theorem mem_places_iff {r : Record} {d : Dimension} {k : String} :
    (d, k) ∈ places r ↔ r.entry.dimension = d ∧ k ∈ r.entry.toListing.keys := by
  simp only [places, place, List.mem_map, Prod.mk.injEq, Listing.keys, Entry.spellings]
  constructor
  · rintro ⟨s, mem, dimension, key⟩
    exact ⟨dimension, s, mem, key⟩
  · rintro ⟨dimension, s, mem, key⟩
    exact ⟨s, mem, dimension, key⟩

/-- The units claim no place in common: they are of different dimensions, or have no key in common.
No unit is apart from itself. -/
def Apart (r r' : Record) : Prop := ∀ p ∈ places r, p ∉ places r'

theorem Apart.symm {r r' : Record} (h : Apart r r') : Apart r' r :=
  fun p claims' claims => h p claims claims'

instance : Std.Symm Apart := ⟨fun _ _ => Apart.symm⟩

/-- A place has one claimant. -/
theorem eq_of_mem_places {rs : List Record} (apart : rs.Pairwise Apart) {r r' : Record}
    (mem : r ∈ rs) (mem' : r' ∈ rs) {p : Dimension × String} (claims : p ∈ places r)
    (claims' : p ∈ places r') : r = r' := by
  by_contra differ
  exact apart.forall mem mem' differ p claims claims'

end Catalog

namespace Builder

open Catalog

variable {b : Builder} {r : Record} {rs rs' : List Record}

/-! ## One unit -/

/-- A unit whose places are free is registered under all of its keys. -/
theorem register_of_free (free : ∀ p ∈ places r, b.catalog.bindings.lookup p = none) :
    (b.perform (.register r)).2 = .ok (some r) ∧
      (∀ p, (b.perform (.register r)).1.catalog.bindings.lookup p =
        (b.catalog.bindings.lookup p).or (if p ∈ places r then some r else none)) ∧
      ∀ k, (b.perform (.register r)).1.catalog.symbols.lookup k =
        (b.catalog.symbols.lookup k).or (if k ∈ r.entry.toListing.keys then some r else none) := by
  have asked : b.request (.register r) = some (r, r.entry.spellings) := rfl
  have all : b.catalog.accepted r r.entry.spellings = r.entry.spellings :=
    accepted_eq_self_iff.2 fun s mem => admits_of_free (free _ (List.mem_map_of_mem mem))
  refine ⟨(perform_of_accepted asked all).1, fun p => ?_, fun k => ?_⟩
  · rw [bindings_perform asked, all]
    rfl
  · rw [symbols_perform asked, all]
    rfl

/-! ## Several units -/

/-- The units registered one after the other, up to the first that is refused. -/
def registered (rs : List Record) : Except Failure Builder := runStrict {} (rs.map .register)

/-- Units that are apart from each other and from those that are there are registered one after the
other, each under all of its keys. -/
theorem runStrict_of_apart (free : ∀ r ∈ rs, ∀ p ∈ places r, b.catalog.bindings.lookup p = none)
    (apart : rs.Pairwise Apart) :
    ∃ b', b.runStrict (rs.map .register) = .ok b' ∧
      (∀ p, b'.catalog.bindings.lookup p =
        (b.catalog.bindings.lookup p).or (rs.find? fun r => p ∈ places r)) ∧
      ∀ k, b'.catalog.symbols.lookup k =
        (b.catalog.symbols.lookup k).or (rs.find? fun r => k ∈ r.entry.toListing.keys) := by
  induction rs generalizing b with
  | nil => exact ⟨b, rfl, by simp, by simp⟩
  | cons r rs ih =>
    obtain ⟨disjoint, apart⟩ := List.pairwise_cons.1 apart
    obtain ⟨freeR, freeRs⟩ := List.forall_mem_cons.1 free
    obtain ⟨ok, bindings, symbols⟩ := register_of_free freeR
    -- the first unit claims no place of the others, so these are still free behind it
    have still : ∀ r' ∈ rs, ∀ p ∈ places r',
        (b.perform (.register r)).1.catalog.bindings.lookup p = none := by
      intro r' mem p claims
      rw [bindings, freeRs r' mem p claims, Option.none_or,
        if_neg fun own => disjoint r' mem p own claims]
    obtain ⟨b', run, bindings', symbols'⟩ := ih still apart
    refine ⟨b', ?_, fun p => ?_, fun k => ?_⟩
    · rw [List.map_cons, runStrict]
      rcases done : b.perform (.register r) with ⟨next, outcome⟩
      rw [done] at ok run
      dsimp only at ok
      rw [ok]
      exact run
    · rw [bindings', bindings, Option.or_assoc, List.find?_cons]
      by_cases claims : p ∈ places r
      · simp [claims]
      · simp [claims]
    · rw [symbols', symbols, Option.or_assoc, List.find?_cons]
      by_cases claims : k ∈ r.entry.toListing.keys
      · simp [claims]
      · simp [claims]

/-- In the namespaces each place belongs to the unit that claims it, and globally each key to the
first unit that claims it. -/
structure Holds (c : Catalog) (rs : List Record) : Prop where
  apart : rs.Pairwise Apart
  bindings : ∀ p, c.bindings.lookup p = rs.find? fun r => p ∈ places r
  symbols : ∀ k, c.symbols.lookup k = rs.find? fun r => k ∈ r.entry.toListing.keys

/-- Units that are apart are all registered. -/
theorem holds_of_apart (apart : rs.Pairwise Apart) :
    ∃ b, registered rs = .ok b ∧ Holds b.catalog rs := by
  obtain ⟨b, run, bindings, symbols⟩ := runStrict_of_apart (b := {}) (fun _ _ _ _ => rfl) apart
  exact ⟨b, run, apart, fun p => by rw [bindings]; rfl, fun k => by rw [symbols]; rfl⟩

section Holds

variable {c c' : Catalog} {k s : String}

/-- The owner of a place is the one unit that claims it. -/
theorem Holds.bindings_eq_some_iff (h : Holds c rs) {p : Dimension × String} :
    c.bindings.lookup p = some r ↔ r ∈ rs ∧ p ∈ places r := by
  rw [h.bindings]
  constructor
  · intro first
    exact ⟨List.mem_of_find?_eq_some first, by simpa using List.find?_some first⟩
  · rintro ⟨mem, claims⟩
    have found : (rs.find? fun r => p ∈ places r).isSome = true :=
      List.find?_isSome.2 ⟨r, mem, by simpa using claims⟩
    obtain ⟨owner, first⟩ := Option.isSome_iff_exists.1 found
    have claimed : p ∈ places owner := by simpa using List.find?_some first
    rw [first, eq_of_mem_places h.apart (List.mem_of_find?_eq_some first) mem claimed claims]

theorem Holds.mem_keys_iff (h : Holds c rs) :
    k ∈ c.keys ↔ ∃ r ∈ rs, k ∈ r.entry.toListing.keys := by
  have known : k ∈ c.keys ↔ (c.symbols.lookup k).isSome = true := by
    rw [List.lookup_isSome_iff, keys, List.mem_map]
    simp
  rw [known, h.symbols, List.find?_isSome]
  simp only [decide_eq_true_eq]

/-- A key finds the first of the units that are bound to it. -/
theorem Holds.get?_eq (h : Holds c rs) (s : String) : c.get? s = rs.find? fun r =>
    c.bindings.lookup (r.entry.dimension, Symbol.normalize s) = some r := by
  rw [get?, owner?_none, h.symbols]
  refine List.find?_congr fun r mem => ?_
  rw [decide_eq_decide, h.bindings_eq_some_iff, mem_places_iff]
  exact ⟨fun claims => ⟨mem, rfl, claims⟩, fun bound => bound.2.2⟩

end Holds

/-- Units that no two of which have a key of a dimension in common are registered in any order, and
every order makes the same global keys and the same namespaces. What is found with a hint in the
namespace of the hint is the same, and so is what is found without one, unless the key is bound in
several namespaces: then it is the first of the units bound to it, in the order of registration. -/
theorem order_of_registration (perm : rs.Perm rs') (apart : rs.Pairwise Apart) :
    ∃ b b', registered rs = .ok b ∧ registered rs' = .ok b' ∧
      (∀ k, k ∈ b.catalog.keys ↔ k ∈ b'.catalog.keys) ∧
      (∀ p, b.catalog.bindings.lookup p = b'.catalog.bindings.lookup p) ∧
      ∀ s,
        (∀ d, (b.catalog.bindings.lookup (d, Symbol.normalize s)).isSome = true →
          b.catalog.get? s (some d) = b'.catalog.get? s (some d)) ∧
        ((∀ d d', (b.catalog.bindings.lookup (d, Symbol.normalize s)).isSome = true →
            (b.catalog.bindings.lookup (d', Symbol.normalize s)).isSome = true → d = d') →
          b.catalog.get? s = b'.catalog.get? s) ∧
        b.catalog.get? s = rs.find? (fun r =>
          b.catalog.bindings.lookup (r.entry.dimension, Symbol.normalize s) = some r) ∧
        b'.catalog.get? s = rs'.find? (fun r =>
          b'.catalog.bindings.lookup (r.entry.dimension, Symbol.normalize s) = some r) := by
  obtain ⟨b, run, h⟩ := holds_of_apart apart
  obtain ⟨b', run', h'⟩ := holds_of_apart (perm.pairwise apart Apart.symm)
  have bindings (p : Dimension × String) :
      b.catalog.bindings.lookup p = b'.catalog.bindings.lookup p := by
    refine Option.ext fun r => ?_
    rw [h.bindings_eq_some_iff, h'.bindings_eq_some_iff, perm.mem_iff]
  refine ⟨b, b', run, run', fun k => ?_, bindings, fun s => ⟨fun d bound => ?_, fun single => ?_,
    h.get?_eq s, h'.get?_eq s⟩⟩
  · simp only [h.mem_keys_iff, h'.mem_keys_iff, perm.mem_iff]
  · obtain ⟨r, found⟩ := Option.isSome_iff_exists.1 bound
    rw [get?, get?, owner?_of_binding found, owner?_of_binding (bindings _ ▸ found)]
  · -- two units that are bound to the key are of one dimension, so they own the same place
    rw [h.get?_eq, h'.get?_eq, ← List.find?_eq_find?_of_perm perm]
    · simp only [bindings]
    · intro r bound r' bound'
      have owned := of_decide_eq_true bound.2
      have owned' := of_decide_eq_true bound'.2
      rw [← bindings] at owned owned'
      have same := single _ _ (Option.isSome_of_eq_some owned) (Option.isSome_of_eq_some owned')
      rw [same, owned'] at owned
      exact (Option.some.inj owned).symm

/-- The hour and the hand, which have their symbol in common. -/
def hour : Record := ⟨0, .plain "time" .ofTime "h" "hour" 3600 ["hr"], by decide, by decide⟩

def hand : Record := ⟨1, .plain "length" .ofLength "h" "hand" (127 / 1250), by decide +kernel,
  by decide⟩

/-- In either order the symbol names the same length, and the other spelling the same unit; without
a hint the symbol names the unit that comes first. -/
theorem hour_and_hand_in_either_order :
    ∃ b b', registered [hour, hand] = .ok b ∧ registered [hand, hour] = .ok b' ∧
      b.catalog.get? "h" (some .ofLength) = b'.catalog.get? "h" (some .ofLength) ∧
      b.catalog.get? "hr" = b'.catalog.get? "hr" ∧
      b.catalog.get? "h" = some hour ∧ b'.catalog.get? "h" = some hand := by
  have apart : [hour, hand].Pairwise Apart := by
    unfold Apart
    decide
  obtain ⟨b, b', run, run', -, same, found⟩ := order_of_registration (.swap hand hour []) apart
  have namespaces : b.catalog.bindings =
      [((.ofTime, "h"), hour), ((.ofTime, "hr"), hour), ((.ofLength, "h"), hand)] := by
    have computed : (registered [hour, hand]).toOption.map (fun b => b.catalog.bindings) =
        some [((.ofTime, "h"), hour), ((.ofTime, "hr"), hour), ((.ofLength, "h"), hand)] := by
      decide +kernel
    rw [run] at computed
    exact Option.some.inj computed
  have normal : Symbol.normalize "h" = "h" ∧ Symbol.normalize "hr" = "hr" := by decide
  obtain ⟨hinted, -, first, first'⟩ := found "h"
  obtain ⟨-, single, -⟩ := found "hr"
  rw [normal.1, namespaces] at hinted first
  simp only [normal.1, ← same, namespaces] at first'
  rw [normal.2] at single
  have time {d : Dimension} (bound : (b.catalog.bindings.lookup (d, "hr")).isSome = true) :
      d = .ofTime := by
    rw [namespaces] at bound
    simpa using bound
  exact ⟨b, b', run, run', hinted .ofLength (by decide),
    single fun _ _ bound bound' => (time bound).trans (time bound').symm,
    first.trans (by decide +kernel), first'.trans (by decide +kernel)⟩

end Builder

end Metrology
