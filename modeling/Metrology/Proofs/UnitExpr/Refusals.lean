import Metrology.Proofs.Catalog.Homonyms
import Metrology.Proofs.UnitExpr.Recovery
import Metrology.Proofs.UnitExpr.SingleName

/-!
# How unit texts are refused

Every text gets an answer, whatever the catalog: reading goes no deeper than the parentheses that
may be nested, and what is read is an expression of bounded height (`height_le_of_ofChars`), so that
its scale is found in as many steps. A text that names no unit is malformed, or spells an expression
with an unknown name or with a power beyond the limit of exponents; only a digit sign without a
value in an exponent is blamed in another way. Main statement: `Catalog.refused_unit`.
-/

namespace Metrology

namespace UnitExpr

open Text Reader

/-- How deep an expression is nested. -/
def height : UnitExpr → Nat
  | name _ => 1
  | one => 1
  | pow base _ => base.height + 1
  | mul left right => max left.height right.height + 1
  | div left right => max left.height right.height + 1

theorem height_toPower_le (e : UnitExpr) (n : Int) : (e.toPower n).height ≤ e.height + 1 :=
  toPower_cases e n (fun _ => Nat.le_succ _) (fun _ => Nat.succ_le_succ (Nat.zero_le _))
    fun _ _ => Nat.le_refl _

theorem height_apply (joint : Joint) (e f : UnitExpr) :
    (joint.apply e f).height = max e.height f.height + 1 := by
  cases joint with
  | times => rfl
  | per => rfl

/-- What a part has left for the power that may stand behind it. -/
def Part.headroom : Part → Nat
  | factor => 1
  | term => 2
  | expression => 2

/-- Operators and parentheses bound the height of what a part spells. -/
theorem Derives.height_le {part : Part} {text after : List Char} {e : UnitExpr} {k d : Nat}
    (h : Derives part text after e k d) : e.height ≤ k + d + part.headroom := by
  induction h with
  | name => exact Nat.le_refl _
  | one => exact Nat.le_refl _
  | group inner hclosing ih =>
    simp only [Part.headroom] at ih ⊢
    omega
  | bare factor ih =>
    simp only [Part.headroom] at ih ⊢
    omega
  | @power base blanks sign exponent after e n k d l factor hblanks hsign hexponent ih =>
    have raised := height_toPower_le e n
    simp only [Part.headroom] at ih ⊢
    omega
  | @superscript base blanks raised after e n k d factor hblanks nonempty run maximal value bounded
      ih =>
    have raised := height_toPower_le e n
    simp only [Part.headroom] at ih ⊢
    omega
  | single hblanks term ih => exact ih
  | joined first hbefore hsign hbehind last ihFirst ihLast =>
    rw [height_apply]
    simp only [Part.headroom] at ihFirst ihLast ⊢
    omega
  | juxtaposed first hbetween nonempty begins last ihFirst ihLast =>
    simp only [Part.headroom, height] at ihFirst ihLast ⊢
    omega

theorem height_le_of_ofChars {cs : List Char} {e : UnitExpr} (read : ofChars cs = .ok e) :
    e.height ≤ operatorLimit + nestingLimit + 2 := by
  obtain ⟨-, k, d, ⟨text, blanks, -, -, derived⟩, few, flat⟩ := spells_of_ofChars read
  have low := derived.height_le
  simp only [Part.headroom] at low
  omega

/-! ## Powers that are written -/

theorem forall_powers_toPower {p : UnitExpr × Int → Prop} {e : UnitExpr} {n : Int}
    (inside : ∀ power ∈ e.powers, p power) (outside : p (e, n)) :
    ∀ power ∈ (e.toPower n).powers, p power :=
  toPower_cases e n (fun _ => inside) (fun _ => List.forall_mem_nil _)
    fun _ _ => List.forall_mem_append.2 ⟨inside, List.forall_mem_singleton.2 outside⟩

theorem powers_apply (joint : Joint) (e f : UnitExpr) :
    (joint.apply e f).powers = e.powers ++ f.powers := by
  cases joint with
  | times => rfl
  | per => rfl

theorem natAbs_le_of_trailingPower? {name base : String} {n : Int}
    (h : Catalog.trailingPower? name = some (base, n)) : n.natAbs ≤ exponentLimit := by
  unfold Catalog.trailingPower? at h
  split at h
  · next d c front _ =>
    dsimp only at h
    split at h
    · cases h
    · obtain ⟨m, digit, same⟩ := Option.map_eq_some_iff.1 h
      cases same
      split at digit
      · cases digit
        decide
      · split at digit
        · cases digit
          decide
        · cases digit
  · cases h

/-- No power is written with an exponent beyond the limit. -/
theorem Derives.natAbs_le {part : Part} {text after : List Char} {e : UnitExpr} {k d : Nat}
    (h : Derives part text after e k d) : ∀ power ∈ e.powers, power.2.natAbs ≤ exponentLimit := by
  induction h with
  | @name c rest after start run maximal =>
    intro power mem
    obtain ⟨⟨base, n⟩, trailing, rfl⟩ := List.mem_map.1 mem
    exact natAbs_le_of_trailingPower? (Option.mem_toList.1 trailing)
  | one => exact List.forall_mem_nil _
  | group inner hclosing ih => exact ih
  | bare factor ih => exact ih
  | power factor hblanks hsign hexponent ih => exact forall_powers_toPower ih hexponent.bounded
  | superscript factor hblanks nonempty run maximal value bounded ih =>
    exact forall_powers_toPower ih bounded
  | single hblanks term ih => exact ih
  | joined first hbefore hsign hbehind last ihFirst ihLast =>
    rw [powers_apply]
    exact List.forall_mem_append.2 ⟨ihFirst, ihLast⟩
  | juxtaposed first hbetween nonempty begins last ihFirst ihLast =>
    exact List.forall_mem_append.2 ⟨ihFirst, ihLast⟩

end UnitExpr

namespace Catalog

open UnitExpr

/-- A power in what a text spells is refused only because its result is beyond the limit. -/
theorem RefusesPower.maxExponent {c : Catalog} {cs : List Char} {e : UnitExpr} {n : Int}
    (read : ofChars cs = .ok e) (h : c.RefusesPower e n) :
    ∃ base s, (base, n) ∈ e.powers ∧ c.scaleOf base = .ok s ∧
      exponentLimit < (s.dimension.pow n).maxExponent := by
  obtain ⟨base, s, mem, scale, refused⟩ := h
  obtain ⟨-, k, d, ⟨text, blanks, -, -, derived⟩, -, -⟩ := spells_of_ofChars read
  have low := derived.natAbs_le _ mem
  obtain ⟨-, high, -⟩ := (Scale.pow_eq_error_iff (factor_pos_of_scaleOf scale).ne').1 refused
  exact ⟨base, s, mem, scale, high.resolve_left (Nat.not_lt.2 low)⟩

/-- A unit text names a unit, or is malformed, or what it spells has an unknown name or a power
beyond the limit of exponents. There is one exception: behind a power sign the text has a digit sign
without a value. And no text spells more than an expression of bounded height. -/
theorem refused_unit (c : Catalog) (text : String) (hint : Option Dimension) :
    (∀ e, ofText text = .ok e → e.height ≤ operatorLimit + nestingLimit + 2) ∧
    ∀ f, c.unit text hint = .error f →
      (∃ cause, f = .malformed cause) ∨
      (∃ e, ofText text = .ok e ∧
        ((∃ name ∈ e.names, c.Misspelled name ∧ f = c.unknown name) ∨
          ∃ base n s, (base, n) ∈ e.powers ∧ c.scaleOf base = .ok s ∧
            exponentLimit < (s.dimension.pow n).maxExponent ∧ f = .powerTooHigh (toString n))) ∨
      ∃ shown, HoldsUnvalued (Symbol.normalize text).toList shown ∧ f = .notAnInteger shown := by
  refine ⟨fun e read => height_le_of_ofChars read, fun f failed => ?_⟩
  cases refusal_of_unit failed with
  | malformed cause => exact .inl ⟨cause, rfl⟩
  | notAnInteger unvalued => exact .inr (.inr ⟨_, unvalued, rfl⟩)
  | unknown read mem misspelled =>
    exact .inr (.inl ⟨_, read, .inl ⟨_, mem, misspelled, rfl⟩⟩)
  | powerTooHigh read power =>
    obtain ⟨base, s, mem, scale, high⟩ := power.maxExponent read
    exact .inr (.inl ⟨_, read, .inr ⟨base, _, s, mem, scale, high, rfl⟩⟩)

/-- The caret is followed by a superscript, which has no value as a digit. -/
theorem unit_caret_superscript (c : Catalog) (hint : Option Dimension) :
    c.unit "m^²" hint = .error (.notAnInteger "²") ∧
      ofText "m^²" = .error (.notAnInteger "²") := by
  have read : ofText "m^²" = .error (.notAnInteger "²") := by decide
  have filled : Symbol.normalize "m^²" ≠ "" := by decide
  refine ⟨?_, read⟩
  rw [ofText] at read
  rw [unit, if_neg filled, read]

/-- What is refused there stands behind the caret. -/
theorem refused_unit_caret :
    standard.unit "m^²" = .error (.notAnInteger "²") ∧
      HoldsUnvalued (Symbol.normalize "m^²").toList "²" := by
  obtain ⟨failed, unread⟩ := unit_caret_superscript standard none
  refine ⟨failed, ?_⟩
  obtain ⟨cause, same⟩ | ⟨e, read, -⟩ | ⟨shown, unvalued, same⟩ :=
    (refused_unit standard "m^²" none).2 _ failed
  · cases same
  · rw [unread] at read
    cases read
  · cases same
    exact unvalued

/-- Not every text that names no unit is refused as malformed, unknown or beyond the limit. -/
theorem not_kind_of_refused_unit :
    ¬ ∀ (c : Catalog) (text : String) (hint : Option Dimension) (f : Failure),
      c.unit text hint = .error f →
        f.kind = .malformed ∨ f.kind = .unknownUnit ∨ f.kind = .domain := by
  intro always
  have refused := (unit_caret_superscript standard none).1
  rcases always standard "m^²" none _ refused with kind | kind | kind
  · cases kind
  · cases kind
  · cases kind

end Catalog

end Metrology
