import Metrology.Proofs.Catalog.Registration

/-!
# Registrations that fail

A registration that fails lists no unit, but the spellings in front of the one that is taken stay
bound to it. So the catalog is the one before exactly if the symbol had an owner in the dimension
already; if it was free, it now finds a unit that is not listed (`failed_perform`). A unit that a
catalog finds is listed exactly if it owns all its spellings (`mem_records_iff`).
-/

namespace Metrology

namespace Catalog

variable {c c' : Catalog} {r : Record} {s : String}

/-- What another unit owns it keeps, so a unit may get less and less. -/
theorem admits_of_extends (keeps : Extends c c') (h : c'.admits r s = true) :
    c.admits r s = true := by
  cases admitted : c.admits r s with
  | true => rfl
  | false =>
    obtain ⟨owner, found, other⟩ := admits_eq_false_iff.1 admitted
    rw [admits_eq_false_iff.2 ⟨owner, keeps.bindings found, other⟩] at h
    cases h

theorem mem_accepted_of_extends (keeps : Extends c c') {spellings : List String}
    (mem : s ∈ c'.accepted r spellings) : s ∈ c.accepted r spellings := by
  induction spellings with
  | nil => exact mem
  | cons t rest ih =>
    cases admitted : c'.admits r t with
    | false =>
      rw [accepted_cons_of_refused admitted] at mem
      cases mem
    | true =>
      rw [accepted, List.takeWhile_cons_of_pos admitted] at mem
      rw [accepted, List.takeWhile_cons_of_pos (admits_of_extends keeps admitted)]
      rcases List.mem_cons.1 mem with rfl | behind
      · exact List.mem_cons_self
      · exact List.mem_cons_of_mem t (ih behind)

/-- A unit gets nothing if its symbol is refused, and else it gets its symbol first. -/
theorem accepted_spellings_of_refused (h : c.admits r r.entry.symbol = false) :
    c.accepted r r.entry.spellings = [] :=
  accepted_cons_of_refused h r.entry.aliases

theorem symbol_mem_accepted (h : c.admits r r.entry.symbol = true) :
    r.entry.symbol ∈ c.accepted r r.entry.spellings :=
  mem_accepted_cons h r.entry.aliases

/-- Spellings that a unit owns already are bound to it without any change. -/
theorem bindAll_of_owns (hc : c.Consistent) {spellings : List String}
    (owned : ∀ s ∈ c.accepted r spellings, c.Owns r s) : (c.bindAll r spellings).1 = c := by
  induction spellings with
  | nil => rfl
  | cons s rest ih =>
    rcases bindAll_cons_cases c r s rest with ⟨next, bound, same⟩ | ⟨_, -, -, same⟩
    · have front := accepted_cons_of_bindKey bound rest
      have unchanged : next = c := by
        have here : c.Owns r s := owned s (by rw [front]; exact List.mem_cons_self)
        rcases bindKey_cases bound with ⟨-, rfl⟩ | ⟨free, -⟩
        · rw [addIfAbsent_of_isSome r (hc.known here)]
        · rw [Owns, place, free] at here
          cases here
      rw [same, unchanged]
      rw [unchanged] at front
      exact ih fun t mem => owned t (by rw [front]; exact List.mem_cons_of_mem s mem)
    · rw [same]

/-! ## Listed units -/

/-- Every unit that is listed owns all its spellings. Every unit that is bound owns its symbol and
what it could get of its spellings, and is listed if that is all of them. -/
structure Settled (c : Catalog) : Prop where
  listed : ∀ ⦃r⦄, r ∈ c.records → ∀ s ∈ r.entry.spellings, c.Owns r s
  symbol : ∀ ⦃p r⦄, c.bindings.lookup p = some r → c.Owns r r.entry.symbol
  obtained : ∀ ⦃p r⦄, c.bindings.lookup p = some r →
    ∀ s ∈ c.accepted r r.entry.spellings, c.Owns r s
  complete : ∀ ⦃p r⦄, c.bindings.lookup p = some r →
    (∀ s ∈ r.entry.spellings, c.Owns r s) → r ∈ c.records

theorem settled_empty : Settled {} where
  listed := by
    intro r mem
    cases mem
  symbol := by
    intro p r found
    cases found
  obtained := by
    intro p r found
    cases found
  complete := by
    intro p r found
    cases found

end Catalog

namespace Builder

open Catalog

variable {b : Builder} {step : BuildStep} {r : Record} {s : String}

/-- A unit that a symbol is bound to is the owner of a key in its namespace. -/
theorem exists_bindings_of_bound? {c : Catalog} (hc : c.Consistent) {symbol : String}
    {hint : Option Dimension} (h : c.bound? symbol hint = some r) :
    ∃ p, c.bindings.lookup p = some r := by
  cases hint with
  | none => exact ⟨_, hc.bound h⟩
  | some d => exact ⟨_, h⟩

/-- A unit that is bound after a step was bound before, or the step registers it and its symbol is
free or its own. -/
theorem bound_cases (hc : b.catalog.Consistent) {p : Dimension × String}
    (found : (b.perform step).1.catalog.bindings.lookup p = some r) :
    (∃ p, b.catalog.bindings.lookup p = some r) ∨
      (b.candidate? step = some r ∧ b.catalog.admits r r.entry.symbol = true) := by
  rcases bindings_perform_cases found with old | ⟨spellings, asked, s, accepted, -⟩
  · exact .inl ⟨p, old⟩
  · rcases request_cases asked with ⟨candidate, rfl⟩ | ⟨-, symbol, hint, bound⟩
    · refine .inr ⟨candidate, ?_⟩
      cases admitted : b.catalog.admits r r.entry.symbol with
      | true => rfl
      | false =>
        rw [accepted_spellings_of_refused admitted] at accepted
        cases accepted
    · exact .inl (exists_bindings_of_bound? hc bound)

/-- The units that are listed after a step are those listed before, and the one that it returned. -/
theorem mem_records_perform :
    r ∈ (b.perform step).1.catalog.records ↔
      r ∈ b.catalog.records ∨ (b.perform step).2 = .ok (some r) := by
  cases asked : b.request step with
  | none =>
    obtain ⟨same, f, failed⟩ := perform_of_request_eq_none asked
    simp [same, failed]
  | some request =>
    obtain ⟨r', spellings⟩ := request
    by_cases all : b.catalog.accepted r' spellings = spellings
    · obtain ⟨ok, records⟩ := perform_of_accepted asked all
      simp [ok, records]
    · obtain ⟨same, s, rest, owner, -, -, -, failed⟩ := perform_of_refused asked all
      simp [same, failed, records_bindAll]

theorem settled_perform (hc : b.catalog.Consistent) (h : b.catalog.Settled) (step : BuildStep) :
    (b.perform step).1.catalog.Settled := by
  have keeps := extends_perform b step
  -- what held of a unit that was bound before goes on to hold, since bindings stay; the one unit
  -- that may be new is the one that the step registers
  refine ⟨?_, ?_, ?_, ?_⟩
  · intro r mem s spelled
    rcases mem_records_perform.1 mem with old | new
    · exact (h.listed old s spelled).of_extends keeps
    · exact owns_of_perform new spelled
  · intro p r found
    rcases bound_cases hc found with ⟨_, old⟩ | ⟨candidate, admitted⟩
    · exact (h.symbol old).of_extends keeps
    · exact owns_of_accepted (request_of_candidate? candidate) (symbol_mem_accepted admitted)
  · intro p r found s mem
    -- a spelling that the unit could get after the step it could get before
    have before := mem_accepted_of_extends keeps mem
    rcases bound_cases hc found with ⟨_, old⟩ | ⟨candidate, -⟩
    · exact (h.obtained old s before).of_extends keeps
    · exact owns_of_accepted (request_of_candidate? candidate) before
  · intro p r found all
    -- what the unit owns after the step was admitted before it
    have accepted : b.catalog.accepted r r.entry.spellings = r.entry.spellings :=
      accepted_eq_self_iff.2 fun s mem => admits_of_extends keeps (all s mem).admits
    rw [mem_records_perform]
    rcases bound_cases hc found with ⟨_, old⟩ | ⟨candidate, -⟩
    · exact .inl (h.complete old fun s mem => h.obtained old s (accepted.symm ▸ mem))
    · right
      rw [(perform_of_accepted (request_of_candidate? candidate) accepted).1, candidate]

theorem Reachable.settled (h : b.Reachable) : b.catalog.Settled := by
  obtain ⟨steps, rfl⟩ := h
  -- what a step finds bound for a further spelling is a unit only where the tables agree
  have invariant : (run {} steps).catalog.Consistent ∧ (run {} steps).catalog.Settled :=
    run_invariant (P := fun b => b.catalog.Consistent ∧ b.catalog.Settled)
      (fun _ step h => ⟨consistent_run h.1 [step], settled_perform h.1 h.2 step⟩)
      ⟨consistent_empty, settled_empty⟩ steps
  exact invariant.2

/-- A unit that a catalog finds is listed exactly if it owns all its spellings. -/
theorem mem_records_iff (h : b.Reachable) {p : Dimension × String}
    (found : b.catalog.bindings.lookup p = some r) :
    r ∈ b.catalog.records ↔ ∀ s ∈ r.entry.spellings, b.catalog.Owns r s :=
  ⟨fun mem => h.settled.listed mem, h.settled.complete found⟩

/-! ## Steps that fail -/

/-- A step that fails and registers no unit changes nothing. -/
theorem perform_of_no_candidate (unasked : b.candidate? step = none) {f : Failure}
    (failed : (b.perform step).2 = .error f) : (b.perform step).1 = b := by
  cases step with
  | define l =>
    have none : b.request (.define l) = none := Option.map_eq_none_iff.2 unasked
    exact (perform_of_request_eq_none none).1
  | register r => cases unasked
  | addAlias spelling symbol hint =>
    unfold perform addAlias at failed ⊢
    dsimp only at failed ⊢
    split
    · rfl
    · next r bound =>
      rw [bound] at failed
      dsimp only at failed
      split
      · next c ok =>
        rw [ok] at failed
        cases failed
      · rfl

/-- What a registration that fails accepts is not all of the spellings. -/
theorem accepted_ne_of_failed (candidate : b.candidate? step = some r) {f : Failure}
    (failed : (b.perform step).2 = .error f) :
    b.catalog.accepted r r.entry.spellings ≠ r.entry.spellings := by
  intro all
  rw [(perform_of_accepted (request_of_candidate? candidate) all).1] at failed
  cases failed

/-- A registration that fails changes nothing if the symbol has an owner. -/
theorem perform_of_owned_symbol (h : b.Reachable) (candidate : b.candidate? step = some r)
    {f : Failure} (failed : (b.perform step).2 = .error f) {owner : Record}
    (owned : b.catalog.bindings.lookup (place r r.entry.symbol) = some owner) :
    (b.perform step).1.catalog = b.catalog := by
  have part := accepted_ne_of_failed candidate failed
  rw [(perform_of_refused (request_of_candidate? candidate) part).1]
  refine bindAll_of_owns h.consistent fun s mem => ?_
  by_cases own : owner = r
  · -- the unit was registered before, and got then what it could get
    rw [own] at owned
    exact h.settled.obtained owned s mem
  · rw [accepted_spellings_of_refused (admits_eq_false_iff.2 ⟨owner, owned, own⟩)] at mem
    cases mem

/-- A registration that fails leaves the unit bound to its symbol if the symbol was free. -/
theorem owns_symbol_of_failed (candidate : b.candidate? step = some r)
    (free : b.catalog.bindings.lookup (place r r.entry.symbol) = none) :
    (b.perform step).1.catalog.Owns r r.entry.symbol :=
  owns_of_accepted (request_of_candidate? candidate) (symbol_mem_accepted (admits_of_free free))

theorem not_mem_records_of_failed (h : b.Reachable) (candidate : b.candidate? step = some r)
    {f : Failure} (failed : (b.perform step).2 = .error f) :
    r ∉ (b.perform step).1.catalog.records := by
  intro mem
  rcases mem_records_perform.1 mem with old | new
  · -- a listed unit has all its spellings, and they cannot be refused
    refine accepted_ne_of_failed candidate failed (accepted_eq_self_iff.2 fun s spelled => ?_)
    exact (h.settled.listed old s spelled).admits
  · rw [failed] at new
    cases new

/-- A step that fails lists no unit. It leaves the catalog as it was exactly if it registers no unit,
or one whose symbol has an owner in the dimension already. Otherwise the unit is found under its
symbol afterwards, although it is not listed. -/
theorem failed_perform (h : b.Reachable) {f : Failure} (failed : (b.perform step).2 = .error f) :
    (b.perform step).1.catalog.records = b.catalog.records ∧
      ((b.perform step).1.catalog = b.catalog ↔ ∀ r, b.candidate? step = some r →
        (b.catalog.bindings.lookup (place r r.entry.symbol)).isSome = true) ∧
      ∀ r, b.candidate? step = some r →
        r ∉ (b.perform step).1.catalog.records ∧
          ((b.perform step).1.catalog = b.catalog ∨
            (b.perform step).1.catalog.get? r.entry.symbol (some r.entry.dimension) = some r) := by
  cases candidate : b.candidate? step with
  | none =>
    rw [perform_of_no_candidate candidate failed]
    simp
  | some r =>
    have part := accepted_ne_of_failed candidate failed
    have records : (b.perform step).1.catalog.records = b.catalog.records := by
      rw [(perform_of_refused (request_of_candidate? candidate) part).1, records_bindAll]
    have unlisted := not_mem_records_of_failed h candidate failed
    cases owned : b.catalog.bindings.lookup (place r r.entry.symbol) with
    | some owner =>
      -- nothing is bound, or only what the unit has
      have same := perform_of_owned_symbol h candidate failed owned
      refine ⟨records, ⟨?_, fun _ => same⟩, ?_⟩
      · rintro - _ ⟨⟩
        simp [owned]
      · rintro _ ⟨⟩
        exact ⟨unlisted, .inl same⟩
    | none =>
      -- the symbol is bound before the alias that is taken is reached
      have found := owns_symbol_of_failed candidate owned
      refine ⟨records, ⟨fun same => ?_, fun taken => ?_⟩, ?_⟩
      · rw [Owns, same, owned] at found
        cases found
      · have isSome := taken r rfl
        rw [owned] at isSome
        cases isSome
      · rintro _ ⟨⟩
        exact ⟨unlisted, .inr (owner?_of_binding found)⟩

/-- The metre has its symbol as its only spelling. -/
def metre : BuildStep := .define (.plain "length" .ofLength "m" "metre" 1)

/-- The yard asks for the symbol of the metre as an alias. -/
def yard : BuildStep := .define (.plain "length" .ofLength "yd" "yard" (1143 / 1250) ["m"])

theorem yard_refused :
    ((run {} [metre]).perform yard).2 = .error (.symbolTaken "m" "yard" "metre") := by
  decide +kernel

/-- The yard is refused for its alias, but its symbol finds it. -/
theorem yard_found :
    ∃ r, r.entry.name = "yard" ∧ r ∉ ((run {} [metre]).perform yard).1.catalog.records ∧
      ((run {} [metre]).perform yard).1.catalog.get? "yd" (some .ofLength) = some r := by
  obtain ⟨r, candidate, name, symbol, dimension⟩ :
      ∃ r, (run {} [metre]).candidate? yard = some r ∧ r.entry.name = "yard" ∧
        r.entry.symbol = "yd" ∧ r.entry.dimension = .ofLength :=
    ⟨⟨1, .plain "length" .ofLength "yd" "yard" (1143 / 1250) ["m"], by decide +kernel, by decide⟩,
      by decide +kernel, rfl, rfl, rfl⟩
  obtain ⟨-, unchanged, half⟩ := failed_perform ⟨[metre], rfl⟩ yard_refused
  obtain ⟨unlisted, same | found⟩ := half r candidate
  · -- the symbol of the yard was free
    have owned := unchanged.1 same r candidate
    have free : (run {} [metre]).catalog.bindings.lookup (.ofLength, Symbol.normalize "yd") =
        none := by
      decide
    rw [place, symbol, dimension, free] at owned
    cases owned
  · rw [symbol, dimension] at found
    exact ⟨r, name, unlisted, found⟩

/-- A registration that fails may change the catalog. -/
theorem not_unchanged_of_failed :
    ¬ ∀ (b : Builder) (step : BuildStep) (f : Failure), b.Reachable →
      (b.perform step).2 = .error f → (b.perform step).1.catalog = b.catalog := by
  intro unchanged
  have same := unchanged _ yard _ ⟨[metre], rfl⟩ yard_refused
  have symbols := congrArg Catalog.keys same
  have differ : ((run {} [metre]).perform yard).1.catalog.keys ≠ (run {} [metre]).catalog.keys := by
    decide +kernel
  exact differ symbols

end Builder

end Metrology
