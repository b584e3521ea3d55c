import Metrology.Proofs.UnitExpr.Reading

/-!
# One reading

The grammar leaves no choice: what a text begins with is one factor (`Derives.factor_unique`), and
what a whole text spells is one expression with one number of operators (`Spells.unique`), whether
it keeps to the limits or not. Both follow from the reader, to which a derivation says what it
reads, once joints and levels enough for two derivations are left to it. A factor has one power at
most: behind a power no further power sign is read (`Derives.not_ofChars_of_raised`).
-/

namespace Metrology.UnitExpr

open Text Reader

variable {text after text' after' : List Char} {e e' : UnitExpr} {k d k' d' : Nat}

/-- At the beginning of a text only one factor can be read. -/
theorem Derives.factor_unique (h : Derives .factor text after e k d)
    (h' : Derives .factor text' after' e' k' d') (same : text ++ after = text' ++ after') :
    text = text' ∧ after = after' ∧ e = e' ∧ k = k' := by
  -- each derivation leaves as many joints as the other one has operators
  have read := complete_of_derives 0 h k' (Nat.le_max_left d d') .nil
  have read' := complete_of_derives 0 h' k (Nat.le_max_right d d') .nil
  rw [List.nil_append] at read read'
  rw [same, Nat.add_comm k k', read'] at read
  cases read
  exact ⟨List.append_cancel_right same, rfl, rfl, rfl⟩

/-- A text spells one expression only. -/
theorem Spells.unique {cs : List Char} (h : Spells cs e k d) (h' : Spells cs e' k' d') :
    e = e' ∧ k = k' := by
  obtain ⟨text, blanks, shape, hblanks, derived⟩ := h
  obtain ⟨text', blanks', shape', hblanks', derived'⟩ := h'
  obtain ⟨fuel, -, read⟩ := complete_of_derives 0 derived k' (Nat.le_max_left d d')
    (endsTerm_of_blanks hblanks)
  obtain ⟨fuel', -, read'⟩ := complete_of_derives 0 derived' k (Nat.le_max_right d d')
    (endsTerm_of_blanks hblanks')
  rw [products_of_none (joint?_blanks hblanks)] at read
  rw [products_of_none (joint?_blanks hblanks')] at read'
  rw [← shape, shape', Nat.add_comm k k', read'] at read
  cases read
  exact ⟨rfl, rfl⟩

/-! ## First factors -/

/-- A factor at the beginning of a text, blanks in front of it allowed, with no more operators and
parentheses than the whole text has. -/
def BeginsWith (text after base rest : List Char) (f : UnitExpr) (k d : Nat) : Prop :=
  ∃ blanks l m, text = blanks ++ base ++ rest ∧ Blanks blanks ∧
    Derives .factor base (rest ++ after) f l m ∧ l ≤ k ∧ m ≤ d

theorem BeginsWith.append {base rest more : List Char} {f : UnitExpr}
    (h : BeginsWith text (more ++ after) base rest f k d) (hk : k ≤ k') (hd : d ≤ d') :
    BeginsWith (text ++ more) after base (rest ++ more) f k' d' := by
  obtain ⟨blanks, l, m, rfl, hblanks, factor, few, flat⟩ := h
  refine ⟨blanks, l, m, by simp, hblanks, ?_, Nat.le_trans few hk, Nat.le_trans flat hd⟩
  rw [List.append_assoc]
  exact factor

/-- Terms and expressions begin with a factor. -/
theorem Derives.exists_beginsWith {part : Part} (h : Derives part text after e k d) :
    ∃ base rest f, BeginsWith text after base rest f k d := by
  have whole {text after : List Char} {e : UnitExpr} {k d : Nat}
      (factor : Derives .factor text after e k d) : BeginsWith text after text [] e k d :=
    ⟨[], k, d, by simp, .nil, factor, Nat.le_refl k, Nat.le_refl d⟩
  induction h with
  | name start run maximal => exact ⟨_, [], _, whole (.name start run maximal)⟩
  | one maximal => exact ⟨_, [], _, whole (.one maximal)⟩
  | group inner hclosing => exact ⟨_, [], _, whole (.group inner hclosing)⟩
  | bare factor => exact ⟨_, [], _, whole factor⟩
  | @power base blanks sign exponent after e n k d l factor hblanks hsign hexponent ih =>
    refine ⟨base, blanks ++ sign ++ exponent, e, ?_⟩
    have first := (whole factor).append (Nat.le_refl k) (Nat.le_max_left d l)
    simpa using first
  | @superscript base blanks raised after e n k d factor hblanks nonempty run maximal value bound
      ih =>
    refine ⟨base, blanks ++ raised, e, ?_⟩
    have first := (whole factor).append (Nat.le_refl k) (Nat.le_refl d)
    simpa using first
  | @single gap text after e k d hgap term ih =>
    obtain ⟨base, rest, f, blanks, l, m, rfl, hblanks, factor, few, flat⟩ := ih
    exact ⟨base, rest, f, gap ++ blanks, l, m, by simp, hgap.append hblanks, factor, few, flat⟩
  | @joined left before behind right after sign joint e f k l d m first hbefore hsign hbehind last
      ih =>
    -- what joins the last term stands behind the factor as well
    obtain ⟨base, rest, g, front⟩ := ih
    have more : before ++ sign :: behind ++ right ++ after =
        (before ++ sign :: behind ++ right) ++ after := by simp
    refine ⟨base, rest ++ (before ++ sign :: behind ++ right), g, ?_⟩
    have first := (more ▸ front).append (show k ≤ k + 1 + l by omega) (Nat.le_max_left d m)
    simpa using first
  | @juxtaposed left between right after e f k l d m first hbetween nonempty begins last ih =>
    obtain ⟨base, rest, g, front⟩ := ih
    refine ⟨base, rest ++ (between ++ right), g, ?_⟩
    have first := front.append (show k ≤ k + 1 + l by omega) (Nat.le_max_left d m)
    simpa using first

/-- The factor at the beginning of a text that is read keeps to the limits. -/
theorem Derives.within_of_ofChars {g : UnitExpr} (h : Derives .factor text after e k d)
    (read : ofChars (text ++ after) = .ok g) :
    ∃ m, Derives .factor text after e k m ∧ k ≤ operatorLimit ∧ m ≤ nestingLimit := by
  obtain ⟨-, l, m, ⟨whole, closing, shape, hclosing, derived⟩, few, flat⟩ := spells_of_ofChars read
  obtain ⟨base, rest, f, blanks, l', m', rfl, hblanks, factor, below, low⟩ :=
    derived.exists_beginsWith
  -- a factor does not begin with a blank
  obtain ⟨c, tail, rfl, start⟩ := h.begins_factor
  obtain rfl : blanks = [] := by
    cases blanks with
    | nil => rfl
    | cons b blanks =>
      obtain ⟨rfl, -⟩ := List.cons.inj shape
      have solid := (solid_of_isTermStart start).1
      rw [hblanks.of_cons.1] at solid
      cases solid
  obtain ⟨same, rfl, rfl, rfl⟩ := h.factor_unique factor (by simpa using shape)
  rw [← same] at factor
  exact ⟨m', factor, Nat.le_trans below few, Nat.le_trans low flat⟩

/-! ## Powers of powers -/

/-- A power sign behind a power is not read. -/
theorem not_ofChars_of_power {tail : List Char} {f g : UnitExpr}
    (factor : Derives .factor text after e k d)
    (powered : ∀ size, power size nestingLimit e after = .ok (f, '^' :: tail)) :
    ofChars (text ++ after) ≠ .ok g := by
  intro read
  obtain ⟨m, factor, few, flat⟩ := factor.within_of_ofChars read
  obtain ⟨joints, count⟩ : ∃ joints, operatorLimit = k + joints := Nat.exists_eq_add_of_le few
  have first := complete_of_derives (text ++ after).length factor joints flat .nil
  rw [List.nil_append] at first
  have term := term_of_factor first (powered _)
  have solid : skipBlanks ('^' :: tail) = '^' :: tail := skipBlanks_cons_of_not _ (by decide)
  have apart : joint? ('^' :: tail) = none := by
    have start : isNameStart '^' = false := by decide
    simp [joint?, solid, start]
  have whole : expression (text ++ after).length nestingLimit ⟨text ++ after, operatorLimit⟩ =
      .ok (f, ⟨'^' :: tail, joints⟩) := by
    rw [expression, terms, count]
    simp only [term]
    exact products_of_none apart
  -- so something is left of the text
  unfold ofChars at read
  split at read
  · simp only [whole, solid] at read
    cases read
  · cases read

/-- A term that is no factor has its power, and no second one is read behind it. -/
theorem Derives.not_ofChars_of_raised {tail : List Char} {g : UnitExpr}
    (h : Derives .term text [] e k d) (flat : d ≤ nestingLimit)
    (raised : ¬ ∃ f l m, Derives .factor text [] f l m) :
    ofChars (text ++ '^' :: tail) ≠ .ok g := by
  cases h with
  | bare factor => exact absurd ⟨_, _, _, factor⟩ raised
  | @power base blanks sign exponent after f n k d l factor hblanks hsign hexponent =>
    have front : Derives .factor base (blanks ++ sign ++ exponent ++ '^' :: tail) f k d := by
      refine factor.congr_after fun p _ stop => stop.congr_append ?_ _
      rcases hsign with rfl | rfl
      · simp
      · simp
    have powered (size : Nat) : Reader.power size nestingLimit f
        (blanks ++ sign ++ exponent ++ '^' :: tail) = .ok (f.toPower n, '^' :: tail) :=
      power_append hblanks hsign hexponent (Nat.le_trans (Nat.le_max_right d l) flat)
        (stopsAt_cons.2 (by decide))
    simpa using not_ofChars_of_power front powered
  | @superscript base blanks high after f n k d factor hblanks nonempty run maximal value bound =>
    have front : Derives .factor base (blanks ++ high ++ '^' :: tail) f k d := by
      refine factor.congr_after fun p _ stop => stop.congr_append ?_ _
      simp [nonempty]
    have powered (size : Nat) : Reader.power size nestingLimit f (blanks ++ high ++ '^' :: tail) =
        .ok (f.toPower n, '^' :: tail) :=
      power_superscript_append hblanks nonempty run (stopsAt_cons.2 (by decide)) value bound
    simpa using not_ofChars_of_power front powered

end Metrology.UnitExpr
