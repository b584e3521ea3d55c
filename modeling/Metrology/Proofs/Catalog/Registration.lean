import Mathlib.Data.List.TakeWhile
import Metrology.Proofs.Catalog.Building
import Metrology.Proofs.Success

/-!
# Registration

What one step of building does to the tables, and when it fails. A step names a unit and spellings
for it (`Builder.request`). The unit gets the spellings in front of the first that another unit of
its dimension owns (`Catalog.accepted`), and the step succeeds if these are all of them
(`Builder.perform_eq_ok_iff`). The tables after the step are those before it with these
spellings added where they were free (`bindings_perform`, `symbols_perform`).
-/

namespace Metrology

namespace Catalog

variable {c c' : Catalog} {r : Record} {s : String} {f : Failure}

/-- The place of a spelling in the namespace of a unit. -/
def place (r : Record) (s : String) : Dimension × String :=
  (r.entry.dimension, Symbol.normalize s)

/-- The unit is bound to the spelling in the namespace of its dimension. -/
def Owns (c : Catalog) (r : Record) (s : String) : Prop :=
  c.bindings.lookup (place r s) = some r

/-- Whether no other unit of the dimension owns the spelling. -/
def admits (c : Catalog) (r : Record) (s : String) : Bool :=
  (c.bindings.lookup (place r s)).all (· = r)

/-- The spellings that a unit gets of those it asks for. -/
def accepted (c : Catalog) (r : Record) (spellings : List String) : List String :=
  spellings.takeWhile (c.admits r)

/-! ## One spelling -/

theorem admits_eq_false_iff :
    c.admits r s = false ↔ ∃ owner, c.bindings.lookup (place r s) = some owner ∧ owner ≠ r := by
  unfold admits
  cases c.bindings.lookup (place r s) with
  | none => simp
  | some owner => simp

/-- A spelling that nobody owns is refused to nobody. -/
theorem admits_of_free (free : c.bindings.lookup (place r s) = none) : c.admits r s = true := by
  rw [admits, free, Option.all_none]

theorem Owns.admits (h : c.Owns r s) : c.admits r s = true := by
  unfold Catalog.admits
  rw [h]
  simp

/-- What a unit owns it owns in every catalog that extends this one. -/
theorem Owns.of_extends (keeps : Extends c c') (h : c.Owns r s) : c'.Owns r s :=
  keeps.bindings h

theorem bindKey_of_refused {owner : Record} (found : c.bindings.lookup (place r s) = some owner)
    (other : owner ≠ r) :
    c.bindKey s r =
      .error (.symbolTaken (Symbol.normalize s) r.entry.name owner.entry.name) := by
  unfold place at found
  simp only [bindKey, found, if_neg other]

theorem exists_bindKey (h : c.admits r s = true) : ∃ c', c.bindKey s r = .ok c' := by
  cases bound : c.bindKey s r with
  | ok c' => exact ⟨c', rfl⟩
  | error f =>
    exfalso
    unfold bindKey at bound
    unfold Catalog.admits place at h
    dsimp only at bound
    split at bound
    · next owner found =>
      simp only [found, Option.all_some, decide_eq_true_eq] at h
      rw [if_pos h] at bound
      cases bound
    · cases bound

theorem admits_of_bindKey (h : c.bindKey s r = .ok c') : c.admits r s = true := by
  cases admitted : c.admits r s with
  | true => rfl
  | false =>
    obtain ⟨owner, found, other⟩ := admits_eq_false_iff.1 admitted
    rw [bindKey_of_refused found other] at h
    cases h

theorem bindings_of_bindKey (h : c.bindKey s r = .ok c') (p : Dimension × String) :
    c'.bindings.lookup p =
      (c.bindings.lookup p).or (if p == place r s then some r else none) := by
  rcases bindKey_cases h with ⟨found, rfl⟩ | ⟨-, rfl⟩
  · -- the unit has the key, so the table stays as it is
    by_cases same : p = place r s
    · rw [same, place, found, Option.some_or]
    · simp [same]
  · exact lookup_append_single c.bindings (place r s) p r

/-- Who owns a key beside the unit that has just got one owned it before. -/
theorem owner_of_bindKey (h : c.bindKey s r = .ok c') {p : Dimension × String} {owner : Record}
    (found : c'.bindings.lookup p = some owner) (other : owner ≠ r) :
    c.bindings.lookup p = some owner := by
  rw [bindings_of_bindKey h, Option.or_eq_some_iff] at found
  rcases found with found | ⟨-, fresh⟩
  · exact found
  · exact absurd (Option.ite_none_right_eq_some.1 fresh).2.symm (by simpa using other)

/-- A spelling that one unit gets changes nothing about which others it may get. -/
theorem admits_bindKey (h : c.bindKey s r = .ok c') : c'.admits r = c.admits r := by
  funext t
  unfold admits
  rw [bindings_of_bindKey h]
  cases c.bindings.lookup (place r t) with
  | some owner => rfl
  | none =>
    rw [Option.none_or]
    split
    · simp
    · rfl

/-! ## Several spellings -/

theorem accepted_cons_of_bindKey (h : c.bindKey s r = .ok c') (rest : List String) :
    c.accepted r (s :: rest) = s :: c'.accepted r rest := by
  rw [accepted, List.takeWhile_cons_of_pos (admits_of_bindKey h), accepted, admits_bindKey h]

theorem accepted_cons_of_refused (h : c.admits r s = false) (rest : List String) :
    c.accepted r (s :: rest) = [] := by
  rw [accepted, List.takeWhile_cons_of_neg (by simp [h])]

theorem mem_accepted_cons (h : c.admits r s = true) (rest : List String) :
    s ∈ c.accepted r (s :: rest) := by
  rw [accepted, List.takeWhile_cons_of_pos h]
  exact List.mem_cons_self

theorem accepted_eq_self_iff {spellings : List String} :
    c.accepted r spellings = spellings ↔ ∀ s ∈ spellings, c.admits r s = true :=
  List.takeWhile_eq_self_iff

/-- The first of several spellings is bound and the others after it, or it is refused. -/
theorem bindAll_cons_cases (c : Catalog) (r : Record) (s : String) (rest : List String) :
    (∃ next, c.bindKey s r = .ok next ∧ c.bindAll r (s :: rest) = next.bindAll r rest) ∨
    (∃ owner, c.bindings.lookup (place r s) = some owner ∧ owner ≠ r ∧
      c.bindAll r (s :: rest) =
        (c, some (.symbolTaken (Symbol.normalize s) r.entry.name owner.entry.name))) := by
  cases admitted : c.admits r s with
  | true =>
    obtain ⟨next, bound⟩ := exists_bindKey admitted
    exact .inl ⟨next, bound, by rw [bindAll, bound]⟩
  | false =>
    obtain ⟨owner, found, other⟩ := admits_eq_false_iff.1 admitted
    exact .inr ⟨owner, found, other, by rw [bindAll, bindKey_of_refused found other]⟩

theorem records_bindAll (c : Catalog) (r : Record) (spellings : List String) :
    (c.bindAll r spellings).1.records = c.records := by
  refine bindAll_preserves (P := fun c' => c'.records = c.records) ?_ rfl
  intro c₁ c₂ s _ same bound
  rcases bindKey_cases bound with ⟨-, rfl⟩ | ⟨-, rfl⟩
  · exact same
  · exact same

/-- What binding one key does to a table, binding several does for the accepted ones. -/
theorem lookup_bindAll {κ : Type} [BEq κ] [LawfulBEq κ] [DecidableEq κ]
    (table : Catalog → κ → Option Record) (key : String → κ)
    (one : ∀ ⦃c c' s⦄, c.bindKey s r = .ok c' →
      ∀ k, table c' k = (table c k).or (if k == key s then some r else none))
    (c : Catalog) (spellings : List String) (k : κ) :
    table (c.bindAll r spellings).1 k =
      (table c k).or (if k ∈ (c.accepted r spellings).map key then some r else none) := by
  induction spellings generalizing c with
  | nil => simp [bindAll, accepted]
  | cons s rest ih =>
    rcases bindAll_cons_cases c r s rest with ⟨next, bound, same⟩ | ⟨owner, found, other, same⟩
    · -- the first spelling is bound, then the others that are accepted
      rw [same, ih, one bound, accepted_cons_of_bindKey bound, Option.or_assoc]
      refine congrArg _ ?_
      by_cases first : k = key s
      · simp [first]
      · simp [first]
    · rw [same, accepted_cons_of_refused (admits_eq_false_iff.2 ⟨owner, found, other⟩)]
      simp

/-- The namespaces get the accepted spellings. -/
theorem bindings_bindAll (c : Catalog) (r : Record) (spellings : List String)
    (p : Dimension × String) :
    (c.bindAll r spellings).1.bindings.lookup p =
      (c.bindings.lookup p).or
        (if p ∈ (c.accepted r spellings).map (place r) then some r else none) :=
  lookup_bindAll (fun c p => c.bindings.lookup p) (place r) (fun _ _ _ => bindings_of_bindKey) c
    spellings p

/-- The global table gets the accepted spellings where they are free. -/
theorem symbols_bindAll (c : Catalog) (r : Record) (spellings : List String) (k : String) :
    (c.bindAll r spellings).1.symbols.lookup k =
      (c.symbols.lookup k).or
        (if k ∈ (c.accepted r spellings).map Symbol.normalize then some r else none) :=
  lookup_bindAll (fun c k => c.symbols.lookup k) Symbol.normalize (fun _ _ _ => symbols_of_bindKey)
    c spellings k

/-- Binding succeeds if no spelling is refused, and else fails for the first that is. -/
theorem outcome_bindAll (c : Catalog) (r : Record) (spellings : List String) :
    ((c.bindAll r spellings).2 = none ∧ c.accepted r spellings = spellings) ∨
    (∃ s rest owner, spellings = c.accepted r spellings ++ s :: rest ∧
      c.bindings.lookup (place r s) = some owner ∧ owner ≠ r ∧
      (c.bindAll r spellings).2 =
        some (.symbolTaken (Symbol.normalize s) r.entry.name owner.entry.name)) := by
  induction spellings generalizing c with
  | nil => exact .inl ⟨rfl, rfl⟩
  | cons s rest ih =>
    rcases bindAll_cons_cases c r s rest with ⟨next, bound, same⟩ | ⟨owner, found, other, same⟩
    · rw [same, accepted_cons_of_bindKey bound]
      rcases ih next with ⟨done, all⟩ | ⟨t, behind, owner, split, found, other, failed⟩
      · exact .inl ⟨done, by rw [all]⟩
      · -- the first spelling went to the unit itself, so the refusing owner was there before
        exact .inr ⟨t, behind, owner, by rw [List.cons_append, ← split],
          owner_of_bindKey bound found other, other, failed⟩
    · rw [same, accepted_cons_of_refused (admits_eq_false_iff.2 ⟨owner, found, other⟩)]
      exact .inr ⟨s, rest, owner, rfl, found, other, rfl⟩

end Catalog

namespace Builder

open Catalog

variable {b : Builder} {step : BuildStep} {r : Record} {s : String} {spellings : List String}

/-- The unit that a step registers: a new one for a listing that makes sense. -/
def candidate? (b : Builder) : BuildStep → Option Record
  | .define l => l.entry.toOption.map fun e => ⟨b.nextSerial, e⟩
  | .register r => some r
  | .addAlias _ _ _ => none

/-- The unit that a step names, if there is one, and the spellings that the unit is to get. -/
def request (b : Builder) : BuildStep → Option (Record × List String)
  | .define l => (b.candidate? (.define l)).map fun r => (r, r.entry.spellings)
  | .register r => some (r, r.entry.spellings)
  | .addAlias spelling symbol hint =>
    (b.catalog.bound? symbol hint).map fun r => (r, [spelling])

theorem request_of_candidate? (h : b.candidate? step = some r) :
    b.request step = some (r, r.entry.spellings) := by
  cases step with
  | define l => exact Option.map_eq_some_iff.2 ⟨r, h, rfl⟩
  | register r' =>
    cases h
    rfl
  | addAlias spelling symbol hint => cases h

/-- A step that names a unit registers it, or gives a unit that is bound a further spelling. -/
theorem request_cases (h : b.request step = some (r, spellings)) :
    (b.candidate? step = some r ∧ spellings = r.entry.spellings) ∨
    (b.candidate? step = none ∧ ∃ symbol hint, b.catalog.bound? symbol hint = some r) := by
  cases step with
  | define l =>
    obtain ⟨r', asked, same⟩ := Option.map_eq_some_iff.1 h
    cases same
    exact .inl ⟨asked, rfl⟩
  | register r' =>
    cases h
    exact .inl ⟨rfl, rfl⟩
  | addAlias spelling symbol hint =>
    obtain ⟨r', bound, same⟩ := Option.map_eq_some_iff.1 h
    cases same
    exact .inr ⟨rfl, symbol, hint, bound⟩

/-- A step that names no unit fails and changes nothing. -/
theorem perform_of_request_eq_none (h : b.request step = none) :
    (b.perform step).1 = b ∧ ∃ f, (b.perform step).2 = .error f := by
  cases step with
  | define l =>
    cases valid : l.entry with
    | error f => simp [perform, define, valid, Except.map]
    | ok e => simp [request, candidate?, valid, Except.toOption] at h
  | register r => cases h
  | addAlias spelling symbol hint =>
    have unbound := Option.map_eq_none_iff.1 h
    simp [perform, addAlias, unbound, Except.map]

/-- A step that names a unit binds its spellings as far as they are accepted. If all of them are, it
succeeds, and lists the unit if it registers it. -/
theorem perform_of_request (h : b.request step = some (r, spellings)) :
    ((b.perform step).1.catalog, (b.perform step).2) =
      match b.catalog.bindAll r spellings with
      | (c, none) =>
        ({ c with records := c.records ++ (b.candidate? step).toList }, .ok (b.candidate? step))
      | (c, some f) => (c, .error f) := by
  -- an entry that has just been made is registered like any other
  have registration (r : Record) :
      ((b.register r).1.catalog, (b.register r).2.map some) =
        match b.catalog.bindAll r r.entry.spellings with
        | (c, none) => ({ c with records := c.records ++ [r] }, .ok (some r))
        | (c, some f) => (c, .error f) := by
    unfold register
    rcases b.catalog.bindAll r r.entry.spellings with ⟨c, _ | f⟩
    · rfl
    · rfl
  cases step with
  | define l =>
    cases valid : l.entry with
    | error f => simp [request, candidate?, valid, Except.toOption] at h
    | ok e =>
      have asked : b.candidate? (.define l) = some ⟨b.nextSerial, e⟩ := by
        simp [candidate?, valid, Except.toOption]
      rw [request_of_candidate? asked] at h
      cases h
      rw [asked, perform, define, valid]
      exact registration _
  | register r' =>
    cases h
    exact registration r
  | addAlias spelling symbol hint =>
    -- a further spelling is a list of one, and no unit is listed for it
    obtain ⟨r', bound, same⟩ := Option.map_eq_some_iff.1 h
    cases same
    unfold perform addAlias
    dsimp only
    rw [bound]
    dsimp only
    unfold bindAll
    cases b.catalog.bindKey spelling r with
    | ok c => simp [bindAll, candidate?, Except.map]
    | error f => rfl

/-! ## The tables after a step -/

theorem tables_perform (h : b.request step = some (r, spellings)) :
    (b.perform step).1.catalog.bindings = (b.catalog.bindAll r spellings).1.bindings ∧
      (b.perform step).1.catalog.symbols = (b.catalog.bindAll r spellings).1.symbols := by
  have same := congrArg Prod.fst (perform_of_request h)
  dsimp only at same
  rw [same]
  rcases bound : b.catalog.bindAll r spellings with ⟨c, _ | f⟩
  · exact ⟨rfl, rfl⟩
  · exact ⟨rfl, rfl⟩

/-- The namespaces after a step are those before it with the accepted spellings. -/
theorem bindings_perform (h : b.request step = some (r, spellings)) (p : Dimension × String) :
    (b.perform step).1.catalog.bindings.lookup p =
      (b.catalog.bindings.lookup p).or
        (if p ∈ (b.catalog.accepted r spellings).map (place r) then some r else none) := by
  rw [(tables_perform h).1, bindings_bindAll]

/-- The global table after a step is that before it with the accepted spellings where they are
free. -/
theorem symbols_perform (h : b.request step = some (r, spellings)) (k : String) :
    (b.perform step).1.catalog.symbols.lookup k =
      (b.catalog.symbols.lookup k).or
        (if k ∈ (b.catalog.accepted r spellings).map Symbol.normalize then some r else none) := by
  rw [(tables_perform h).2, symbols_bindAll]

/-- A unit owns the spellings that are accepted for it. -/
theorem owns_of_accepted (h : b.request step = some (r, spellings))
    (mem : s ∈ b.catalog.accepted r spellings) : (b.perform step).1.catalog.Owns r s := by
  have admitted : b.catalog.admits r s = true := List.mem_takeWhile_imp mem
  unfold Owns
  rw [bindings_perform h, if_pos (List.mem_map_of_mem mem)]
  cases found : b.catalog.bindings.lookup (place r s) with
  | none => rfl
  | some owner =>
    -- an owner that admits the unit is the unit
    unfold admits at admitted
    rw [found, Option.all_some, decide_eq_true_eq] at admitted
    rw [admitted, Option.some_or]

/-- A unit that is bound after a step was bound before, or the step names it and a spelling was
accepted. -/
theorem bindings_perform_cases {p : Dimension × String}
    (found : (b.perform step).1.catalog.bindings.lookup p = some r) :
    b.catalog.bindings.lookup p = some r ∨
      ∃ spellings, b.request step = some (r, spellings) ∧
        ∃ s ∈ b.catalog.accepted r spellings, place r s = p := by
  cases asked : b.request step with
  | none =>
    rw [(perform_of_request_eq_none asked).1] at found
    exact .inl found
  | some request =>
    obtain ⟨r', spellings⟩ := request
    rw [bindings_perform asked, Option.or_eq_some_iff] at found
    rcases found with old | ⟨-, new⟩
    · exact .inl old
    · obtain ⟨mem, same⟩ := Option.ite_none_right_eq_some.1 new
      cases same
      exact .inr ⟨spellings, rfl, List.mem_map.1 mem⟩

/-- If a step names a unit and every spelling is accepted, it succeeds, and lists the unit if it
registers it. -/
theorem perform_of_accepted (h : b.request step = some (r, spellings))
    (all : b.catalog.accepted r spellings = spellings) :
    (b.perform step).2 = .ok (b.candidate? step) ∧
      (b.perform step).1.catalog.records = b.catalog.records ++ (b.candidate? step).toList := by
  have same := perform_of_request h
  have kept := records_bindAll b.catalog r spellings
  rcases outcome_bindAll b.catalog r spellings with ⟨done, -⟩ | ⟨s, rest, owner, split, -⟩
  · rcases bound : b.catalog.bindAll r spellings with ⟨c, _ | f⟩
    · rw [bound] at same kept
      obtain ⟨tables, outcome⟩ := Prod.mk.inj same
      dsimp only at kept
      exact ⟨outcome, by rw [tables, kept]⟩
    · rw [bound] at done
      cases done
  · -- all spellings are accepted, so none is behind them
    rw [all] at split
    exact absurd split (by simp)

/-- If a step names a unit and a spelling is refused, it fails for the first such spelling, and
changes only the tables. -/
theorem perform_of_refused (h : b.request step = some (r, spellings))
    (part : b.catalog.accepted r spellings ≠ spellings) :
    (b.perform step).1.catalog = (b.catalog.bindAll r spellings).1 ∧
      ∃ s rest owner, spellings = b.catalog.accepted r spellings ++ s :: rest ∧
        b.catalog.bindings.lookup (place r s) = some owner ∧ owner ≠ r ∧
        (b.perform step).2 =
          .error (.symbolTaken (Symbol.normalize s) r.entry.name owner.entry.name) := by
  have same := perform_of_request h
  rcases outcome_bindAll b.catalog r spellings with
    ⟨-, all⟩ | ⟨s, rest, owner, split, found, other, failed⟩
  · exact absurd all part
  · rcases bound : b.catalog.bindAll r spellings with ⟨c, _ | f⟩
    · rw [bound] at failed
      cases failed
    · rw [bound] at same failed
      obtain ⟨tables, outcome⟩ := Prod.mk.inj same
      cases failed
      exact ⟨tables, s, rest, owner, split, found, other, outcome⟩

/-- A step succeeds exactly if it names a unit and every spelling is accepted. -/
theorem perform_eq_ok_iff {outcome : Option Record} :
    (b.perform step).2 = .ok outcome ↔
      outcome = b.candidate? step ∧
        ∃ r spellings, b.request step = some (r, spellings) ∧
          b.catalog.accepted r spellings = spellings := by
  constructor
  · intro ok
    cases asked : b.request step with
    | none =>
      obtain ⟨-, f, failed⟩ := perform_of_request_eq_none asked
      rw [failed] at ok
      cases ok
    | some request =>
      obtain ⟨r, spellings⟩ := request
      by_cases all : b.catalog.accepted r spellings = spellings
      · rw [(perform_of_accepted asked all).1] at ok
        cases ok
        exact ⟨rfl, r, spellings, rfl, all⟩
      · obtain ⟨-, s, rest, owner, -, -, -, failed⟩ := perform_of_refused asked all
        rw [failed] at ok
        cases ok
  · rintro ⟨rfl, r, spellings, asked, all⟩
    exact (perform_of_accepted asked all).1

/-- A unit whose registration succeeds owns all its spellings. -/
theorem owns_of_perform (ok : (b.perform step).2 = .ok (some r)) (mem : s ∈ r.entry.spellings) :
    (b.perform step).1.catalog.Owns r s := by
  obtain ⟨candidate, r', spellings, asked, all⟩ := perform_eq_ok_iff.1 ok
  -- the unit that is returned is the one that the step names
  have request := request_of_candidate? candidate.symm
  rw [asked] at request
  cases request
  exact owns_of_accepted asked (all.symm ▸ mem)

end Builder

end Metrology
