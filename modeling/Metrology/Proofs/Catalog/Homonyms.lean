import Mathlib.Data.List.Find
import Metrology.Catalog.Standard
import Metrology.Proofs.Catalog.Ownership
import Metrology.Proofs.Catalog.Units
import Metrology.Proofs.Symbol.Normal

/-!
# Homonyms of the standard catalog

The symbols and aliases of the catalog are in normal form (`normalize_of_spelled`), so its listings
are searched as they are written (`find?_key`). Two units of different dimension have a key in
common only where the key is `C` or `F` (`homonyms_of_bindings`), and these keys belong to the
temperatures (`owner_of_homonym`). So a hint changes the reading of no other name
(`cases_of_shadows`).
-/

namespace Metrology.Catalog

open Builder Dimension Text

/-! ## Keys of the standard catalog -/

/-- The symbols and aliases of the standard catalog are in normal form. -/
theorem normalize_of_spelled : ∀ l ∈ standardListings, ∀ s ∈ l.symbol :: l.aliases,
    Symbol.normalize s = s := by
  have unchanged : ∀ l ∈ standardListings, ∀ s ∈ l.symbol :: l.aliases,
      Symbol.isUnchanged s.toList = true := by
    decide +kernel
  exact fun l listed s mem => Symbol.normalize_of_isUnchanged (unchanged l listed s mem)

theorem keys_of_mem {l : Listing} (listed : l ∈ standardListings) :
    l.keys = l.symbol :: l.aliases :=
  (List.map_congr_left (normalize_of_spelled l listed)).trans (List.map_id _)

/-- The first listing to claim a key is searched for among the symbols and aliases themselves. -/
theorem find?_key {s : String} (normal : Symbol.normalize s = s) :
    standardListings.find? (fun l => Symbol.normalize s ∈ l.keys) =
      standardListings.find? fun l => s ∈ l.symbol :: l.aliases := by
  apply List.find?_congr
  intro l listed
  rw [normal, keys_of_mem listed]

/-- So is the first listing of a dimension. -/
theorem find?_key_of_dimension {s : String} (normal : Symbol.normalize s = s) (d : Dimension) :
    standardListings.find? (fun l => l.dimension = d ∧ Symbol.normalize s ∈ l.keys) =
      standardListings.find? fun l => l.dimension = d ∧ s ∈ l.symbol :: l.aliases := by
  apply List.find?_congr
  intro l listed
  rw [normal, keys_of_mem listed]

/-! ## Keys of several dimensions -/

/-- A number for a text. Numbers are compared in place of texts, which takes longer. -/
def textCode (cs : List Char) : Nat := cs.foldl (fun n c => n * 0x110000 + c.toNat) 0

/-- The symbols and aliases of listings, each behind its number and in front of its dimension. -/
def claims (ls : List Listing) : List (Nat × String × Dimension) :=
  ls.flatMap fun l => (l.symbol :: l.aliases).map fun s => (textCode s.toList, s, l.dimension)

theorem mem_claims {l : Listing} (listed : l ∈ standardListings) {k : String} (mem : k ∈ l.keys) :
    (textCode k.toList, k, l.dimension) ∈ claims standardListings := by
  rw [keys_of_mem listed] at mem
  exact List.mem_flatMap.2 ⟨l, listed, List.mem_map.2 ⟨k, mem, rfl⟩⟩

/-- Whether any two claims of one key are for one dimension, exceptions apart. -/
def agree (exceptions : List (String × Dimension)) : List (Nat × String × Dimension) → Bool
  | [] => true
  | p :: rest =>
    rest.all (fun q => !Nat.beq p.1 q.1 || decide (p.2.2 = q.2.2) ||
      (exceptions.contains p.2 && exceptions.contains q.2)) && agree exceptions rest

theorem agree_sound {exceptions : List (String × Dimension)} {ps : List (Nat × String × Dimension)}
    (h : agree exceptions ps = true) {p q : Nat × String × Dimension} (hp : p ∈ ps) (hq : q ∈ ps)
    (same : p.1 = q.1) :
    p.2.2 = q.2.2 ∨ (p.2 ∈ exceptions ∧ q.2 ∈ exceptions) := by
  induction ps with
  | nil => cases hp
  | cons r rest ih =>
    simp only [agree, Bool.and_eq_true, List.all_eq_true, Bool.or_eq_true, Bool.not_eq_true',
      decide_eq_true_eq, List.contains_iff_mem] at h
    have first {q : Nat × String × Dimension} (mem : q ∈ rest) (same : r.1 = q.1) :
        r.2.2 = q.2.2 ∨ (r.2 ∈ exceptions ∧ q.2 ∈ exceptions) := by
      rcases h.1 q mem with (differ | dimension) | listed
      · rw [same, Nat.beq_refl] at differ
        cases differ
      · exact .inl dimension
      · exact .inr listed
    -- the check is on pairs in order, so the later of the two may be either
    rcases List.mem_cons.1 hp with rfl | behindP
    · rcases List.mem_cons.1 hq with rfl | behindQ
      · exact .inl rfl
      · exact first behindQ same
    · rcases List.mem_cons.1 hq with rfl | behindQ
      · exact (first behindP same.symm).imp Eq.symm And.symm
      · exact ih h.2 behindP behindQ

/-- The claims of the keys that the standard catalog has for several dimensions. -/
def homonyms : List (String × Dimension) :=
  [("C", ofTemperature), ("C", charge), ("F", ofTemperature), ("F", capacitance)]

/-- Claims of one key have one number, so they are found among those with the same remainder. -/
theorem standard_agree : ∀ r < 16,
    agree homonyms ((claims standardListings).filter fun p => p.1 % 16 == r) = true := by
  decide +kernel

theorem claims_agree {n : Nat} {k : String} {d d' : Dimension}
    (h : (n, k, d) ∈ claims standardListings) (h' : (n, k, d') ∈ claims standardListings) :
    d = d' ∨ ((k, d) ∈ homonyms ∧ (k, d') ∈ homonyms) := by
  have agreed := standard_agree (n % 16) (Nat.mod_lt n (by decide))
  exact agree_sound agreed (List.mem_filter.2 ⟨h, beq_self_eq_true _⟩)
    (List.mem_filter.2 ⟨h', beq_self_eq_true _⟩) rfl

/-! ## The standard catalog -/

theorem consistent_standard : standard.Consistent := consistent_catalogOf standardListings

/-- A key of two namespaces of the standard catalog is `C` or `F`. -/
theorem homonyms_of_bindings {d d' : Dimension} {k : String} {r r' : Record}
    (h : standard.bindings.lookup (d, k) = some r)
    (h' : standard.bindings.lookup (d', k) = some r') (differ : d ≠ d') :
    (k, d) ∈ homonyms ∧ (k, d') ∈ homonyms := by
  obtain ⟨listed, rfl, claimed⟩ := claimed_catalogOf standardListings h
  obtain ⟨listed', rfl, claimed'⟩ := claimed_catalogOf standardListings h'
  exact (claims_agree (mem_claims listed claimed) (mem_claims listed' claimed')).resolve_left differ

/-- The listings of the units whose symbols are looked up below. -/
def celsius : Listing :=
  { Listing.plain "temperature" ofTemperature "C" "celsius" 1 ["degC", "°C", "℃", "celsius"] with
    offset := 273.15 }

def fahrenheit : Listing :=
  { Listing.plain "temperature" ofTemperature "F" "fahrenheit" (5 / 9)
      ["degF", "°F", "℉", "fahrenheit"] with
    offset := 459.67 }

def ampere : Listing :=
  .plain "current" ofCurrent "A" "ampere" 1 ["ampere", "amperes", "amp", "amps"]

def second : Listing := .plain "time" ofTime "s" "second" 1 ["second", "seconds", "sec"]

def coulomb : Listing :=
  .named "electrical" charge "C" "coulomb" 1 ["coulomb", "coulombs", "Coul"]

def farad : Listing := .named "electrical" capacitance "F" "farad" 1 ["farad", "farads"]

/-- Every listing of the standard catalog makes sense. -/
theorem valid_of_mem {l : Listing} (listed : l ∈ standardListings) : ∃ e, l.entry = .ok e := by
  have valid : ∀ l ∈ standardListings, l.entry.isOk = true := by decide +kernel
  have ok := valid l listed
  cases entry : l.entry with
  | ok e => exact ⟨e, rfl⟩
  | error f =>
    rw [entry] at ok
    cases ok

/-- The first listing to claim the symbol of each of them, in all namespaces or in its own, is the
unit itself. -/
theorem first_claims :
    (∀ l ∈ [celsius, fahrenheit, ampere, second],
      standardListings.find? (fun l' => Symbol.normalize l.symbol ∈ l'.keys) = some l) ∧
    ∀ l ∈ [celsius, fahrenheit, coulomb, farad], standardListings.find? (fun l' =>
      l'.dimension = l.dimension ∧ Symbol.normalize l.symbol ∈ l'.keys) = some l := by
  have first : ∀ l ∈ [celsius, fahrenheit, ampere, second],
      standardListings.find? (fun l' => l.symbol ∈ l'.symbol :: l'.aliases) = some l := by
    decide +kernel
  have own : ∀ l ∈ [celsius, fahrenheit, coulomb, farad], standardListings.find? (fun l' =>
      l'.dimension = l.dimension ∧ l.symbol ∈ l'.symbol :: l'.aliases) = some l := by
    decide +kernel
  have normal {l : Listing} (listed : l ∈ standardListings) :
      Symbol.normalize l.symbol = l.symbol :=
    normalize_of_spelled l listed l.symbol List.mem_cons_self
  constructor
  · intro l mem
    rw [find?_key (normal (List.mem_of_find?_eq_some (first l mem)))]
    exact first l mem
  · intro l mem
    rw [find?_key_of_dimension (normal (List.mem_of_find?_eq_some (own l mem)))]
    exact own l mem

/-- The owner of a symbol in the standard catalog is the first listing to claim it. -/
theorem standard_symbol {l : Listing} (mem : l ∈ [celsius, fahrenheit, ampere, second]) :
    ∃ r, standard.symbols.lookup (Symbol.normalize l.symbol) = some r ∧
      r.entry.toListing = l := by
  have first := first_claims.1 l mem
  obtain ⟨e, valid⟩ := valid_of_mem (List.mem_of_find?_eq_some first)
  exact symbols_of_find? valid first

/-- The owner of a symbol in its namespace is the first listing there to claim it. -/
theorem standard_binding {l : Listing} (mem : l ∈ [celsius, fahrenheit, coulomb, farad]) :
    ∃ r, standard.bindings.lookup (l.dimension, Symbol.normalize l.symbol) = some r ∧
      r.entry.toListing = l := by
  have first := first_claims.2 l mem
  obtain ⟨e, valid⟩ := valid_of_mem (List.mem_of_find?_eq_some first)
  exact bindings_of_find? valid first

theorem standard_coulomb :
    ∃ r, standard.bindings.lookup (charge, Symbol.normalize "C") = some r ∧
      r.entry.toListing = coulomb :=
  standard_binding (l := coulomb) (by simp)

/-- The homonyms belong to the temperatures. -/
theorem owner_of_homonym {k : String} {d : Dimension} (h : (k, d) ∈ homonyms) :
    ∃ r, standard.symbols.lookup k = some r ∧ r.entry.dimension = ofTemperature := by
  have key : ∃ l ∈ [celsius, fahrenheit], Symbol.normalize l.symbol = k := by
    have keys : ∀ p ∈ homonyms, ∃ l ∈ [celsius, fahrenheit], Symbol.normalize l.symbol = p.1 := by
      decide
    exact keys (k, d) h
  obtain ⟨l, mem, rfl⟩ := key
  obtain ⟨r, found, listing⟩ := standard_symbol (List.mem_append_left [ampere, second] mem)
  have temperatures : ∀ l ∈ [celsius, fahrenheit], l.dimension = ofTemperature := by decide
  refine ⟨r, found, ?_⟩
  rw [← temperatures l mem, ← listing]

/-- The homonyms name a unit in each of their namespaces. -/
theorem binding_of_homonym {k : String} {d : Dimension} (h : (k, d) ∈ homonyms) :
    ∃ r, standard.bindings.lookup (d, k) = some r ∧ r.entry.dimension = d := by
  have listed : ∀ p ∈ homonyms, ∃ l ∈ [celsius, fahrenheit, coulomb, farad],
      l.dimension = p.2 ∧ Symbol.normalize l.symbol = p.1 := by
    decide
  obtain ⟨l, mem, rfl, rfl⟩ := listed (k, d) h
  obtain ⟨r, found, listing⟩ := standard_binding mem
  exact ⟨r, found, congrArg Listing.dimension listing⟩

/-- In the standard catalog a hint gives only `C` and `F` another unit: the coulomb or the farad in
place of a temperature. -/
theorem cases_of_shadows {name : String} {d : Dimension} {r r' : Record}
    (h : standard.Shadows name d r r') :
    r'.entry.dimension = ofTemperature ∧
      ((Symbol.normalize name = "C" ∧ d = charge) ∨
        (Symbol.normalize name = "F" ∧ d = capacitance)) := by
  obtain ⟨bound, known, differ⟩ := h
  obtain ⟨listed, -⟩ := homonyms_of_bindings bound (consistent_standard.bound known) differ.symm
  obtain ⟨owner, found, temperature⟩ := owner_of_homonym listed
  rw [known] at found
  cases found
  refine ⟨temperature, ?_⟩
  rw [temperature] at differ
  simp only [homonyms, List.mem_cons, Prod.mk.injEq, List.not_mem_nil, or_false] at listed
  rcases listed with ⟨-, same⟩ | coulomb | ⟨-, same⟩ | farad
  · exact absurd same.symm differ
  · exact .inl coulomb
  · exact absurd same.symm differ
  · exact .inr farad

/-! ## Units by name -/

/-- A symbol that a listing owns names the unit of the listing. -/
theorem unit_of_listing {l : Listing} (mem : l ∈ [celsius, fahrenheit, ampere, second])
    (spelled : UnitExpr.ofText l.symbol = .ok (.name l.symbol)) :
    ∃ u, standard.unit l.symbol = .ok u ∧ u.dimension = l.dimension ∧
      u.factor = l.factor ∧ u.offset = l.offset := by
  obtain ⟨r, found, rfl⟩ := standard_symbol mem
  refine ⟨r.entry.scale, ?_, rfl, rfl, rfl⟩
  rw [unit_of_name spelled]
  exact named_of_symbol found

theorem standard_unit_ampere_second : ∃ u, standard.unit "A*s" = .ok u ∧
    u.dimension = Dimension.charge ∧ u.factor = 1 ∧ u.offset = 0 := by
  obtain ⟨r, foundA, listingA⟩ := standard_symbol (l := ampere) (by simp)
  obtain ⟨r', foundS, listingS⟩ := standard_symbol (l := second) (by simp)
  have spelled : UnitExpr.ofText "A*s" = .ok (.mul (.name "A") (.name "s")) := by decide
  have namedA : standard.named "A" = .ok r.entry.scale := named_of_symbol foundA
  have namedS : standard.named "s" = .ok r'.entry.scale := named_of_symbol foundS
  refine ⟨r.entry.scale.dropOffset.mul r'.entry.scale.dropOffset, ?_, ?_, ?_, rfl⟩
  · rw [unit_of_expr spelled]
    simp only [scaleOf, namedA, namedS]
    rfl
  · have dimensionA := congrArg Listing.dimension listingA
    have dimensionS := congrArg Listing.dimension listingS
    simp only [Scale.mul, Scale.dropOffset, Scale.dimension_linear, Entry.scale, dimensionA,
      dimensionS]
    decide
  · have factorA := congrArg Listing.factor listingA
    have factorS := congrArg Listing.factor listingS
    simp only [Scale.mul, Scale.dropOffset, Scale.factor_linear, Entry.scale, factorA, factorS]
    exact one_mul 1

end Metrology.Catalog
