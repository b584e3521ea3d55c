import Metrology.Proofs.Measure
import Metrology.Proofs.UnitExpr.SingleTerm

/-!
# Joined unit texts

What a text means in a catalog is the scale of the expression that it spells. Joining two texts
by a sign joins their meanings, whatever terms they consist of: the terms of the right text are
read one by one behind the left text, which divides and multiplies by the same scales as they did
behind the first of them (`Derives.regrafts`). A divisor that is put in parentheses, or that is a
single term, stays one divisor (`Denotes.quotient`).
-/

namespace Metrology

namespace Scale

theorem mul_one (s : Scale) : s.mul one = s.dropOffset :=
  eq_of_parts (Dimension.mul_one _) (Rat.mul_one _) rfl

theorem one_mul (s : Scale) : one.mul s = s.dropOffset :=
  eq_of_parts (Dimension.one_mul _) (Rat.one_mul _) rfl

theorem mul_assoc (s t u : Scale) : (s.mul t).mul u = s.mul (t.mul u) :=
  eq_of_parts (Dimension.mul_assoc _ _ _) (Rat.mul_assoc _ _ _) rfl

/-- Neither a product nor a quotient knows of an offset. -/
theorem dropOffset_mul (s t : Scale) :
    s.dropOffset.mul t.dropOffset = (s.mul t).dropOffset := rfl

theorem dropOffset_div (s t : Scale) : s.dropOffset.div t.dropOffset = s.div t := rfl

theorem mul_dropOffset (s t : Scale) : s.mul t.dropOffset = s.mul t := rfl

/-- A factor may be taken out of what is divided. -/
theorem div_mul (s t u : Scale) : (s.mul t).div u = (t.div u).map s.mul := by
  unfold Scale.div
  split
  · rfl
  · refine congrArg Except.ok (eq_of_parts ?_ ?_ rfl)
    · simp only [mul, dimension_linear, Dimension.div_eq_mul_pow, Dimension.mul_assoc]
    · simp only [mul, factor_linear, mul_div_assoc]

/-- The scale of a power of a scale without offset has none either. -/
theorem dropOffset_of_pow {s t : Scale} {n : Int} (hs : s.dropOffset = s) (h : s.pow n = .ok t) :
    t.dropOffset = t := by
  rcases pow_cases h with ⟨-, rfl⟩ | rfl
  · exact hs
  · rfl

/-- The reciprocal of a scale is the scale of the unit one divided by it. -/
theorem one_div_of_inverse {s t : Scale} (h : s.inverse = .ok t) :
    one.div s.dropOffset = .ok t.dropOffset := by
  obtain ⟨-, -, defined, rfl⟩ := (pow_eq_ok_iff (by decide)).1 h
  have nonzero : s.factor ≠ 0 := defined.resolve_right (by decide)
  rw [Scale.div, dropOffset, factor_linear, if_neg nonzero]
  refine congrArg Except.ok (eq_of_parts ?_ ?_ rfl)
  · simp [one, dropOffset, Dimension.div_eq_mul_pow, Dimension.one_mul]
  · simp [one, dropOffset]

theorem eq_of_div {s t u : Scale} (h : s.div t = .ok u) :
    t.factor ≠ 0 ∧ u = linear (s.dimension.div t.dimension) (s.factor / t.factor) := by
  unfold Scale.div at h
  split at h
  · cases h
  · next nonzero =>
    cases h
    exact ⟨nonzero, rfl⟩

theorem dropOffset_of_div {s t u : Scale} (h : s.div t = .ok u) : u.dropOffset = u := by
  rw [(eq_of_div h).2]
  rfl

theorem div_self {s : Scale} (nonzero : s.factor ≠ 0) : s.div s = .ok one := by
  rw [Scale.div, if_neg nonzero, Dimension.div_self, Rat.div_def,
    Rat.mul_inv_cancel _ nonzero]
  rfl

end Scale

/-- What a joint does to scales. -/
def UnitExpr.Reader.Joint.onScales : UnitExpr.Reader.Joint → Scale → Scale → Except Failure Scale
  | times, s, t => .ok (s.mul t)
  | per, s, t => s.div t

namespace UnitExpr

open Text Reader

/-- What joins behind a product joins behind its right factor. -/
theorem onScales_mul (joint : Joint) (s t u : Scale) :
    joint.onScales (s.mul t) u = (joint.onScales t u).map s.mul := by
  cases joint with
  | times => exact congrArg Except.ok (Scale.mul_assoc s t u)
  | per => exact Scale.div_mul s t u

/-- The scale of joined expressions is that of their scales joined. -/
theorem scaleOf_apply_eq_ok_iff {c : Catalog} {joint : Joint} {e f : UnitExpr} {t : Scale} :
    c.scaleOf (joint.apply e f) = .ok t ↔
      ∃ s u, c.scaleOf e = .ok s ∧ c.scaleOf f = .ok u ∧ joint.onScales s u = .ok t := by
  cases joint with
  | times =>
    simp only [Joint.apply, Catalog.scaleOf, bind_eq_ok_iff, Joint.onScales, exists_and_left]
  | per => simp only [Joint.apply, Catalog.scaleOf, bind_eq_ok_iff, Joint.onScales, exists_and_left]

/-- Within an expression no unit has an offset. -/
theorem dropOffset_of_scaleOf {c : Catalog} {e : UnitExpr} {s : Scale}
    (h : c.scaleOf e = .ok s) : s.dropOffset = s := by
  induction e generalizing s with
  | name symbol =>
    obtain ⟨t, -, rfl⟩ := map_eq_ok_iff.1 h
    rfl
  | one =>
    cases h
    rfl
  | pow base n ih =>
    obtain ⟨t, base, power⟩ := bind_eq_ok_iff.1 h
    exact Scale.dropOffset_of_pow (ih base) power
  | mul left right ihLeft ihRight =>
    obtain ⟨t, -, h⟩ := bind_eq_ok_iff.1 h
    obtain ⟨u, -, h⟩ := bind_eq_ok_iff.1 h
    cases h
    rfl
  | div left right ihLeft ihRight =>
    obtain ⟨t, -, h⟩ := bind_eq_ok_iff.1 h
    obtain ⟨u, -, h⟩ := bind_eq_ok_iff.1 h
    exact Scale.dropOffset_of_div h

/-- Only a single name keeps an offset. -/
theorem name_of_offset_ne_zero {c : Catalog} {text : String} {hint : Option Dimension} {s : Scale}
    (h : c.unit text hint = .ok s) (offset : s.offset ≠ 0) :
    Symbol.normalize text ≠ "" ∧ ∃ name, ofText text = .ok (.name name) := by
  unfold Catalog.unit at h
  dsimp only at h
  split at h
  · cases h
    exact absurd rfl offset
  · next filled =>
    split at h
    · next name read => exact ⟨filled, name, read⟩
    · exact absurd (congrArg Scale.offset (dropOffset_of_scaleOf h).symm) offset
    · cases h

/-- In front of `after`, a text spells an expression with a scale in a catalog. -/
def Denotes (c : Catalog) (text after : List Char) (s : Scale) : Prop :=
  ∃ e k d, Derives .expression text after e k d ∧ c.scaleOf e = .ok s

/-- What stands between two texts joins the expression in front of it to the term behind it. -/
def Joins (joint : Joint) (gap right after : List Char) (f : UnitExpr) : Prop :=
  ∀ ⦃text e k d⦄, Derives .expression text (gap ++ right ++ after) e k d →
    ∃ k' d', Derives .expression (text ++ gap ++ right) after (joint.apply e f) k' d'

theorem joins_sign {before behind right after : List Char} {sign : Char} {joint : Joint}
    {f : UnitExpr} {l m : Nat} (hbefore : Blanks before) (hsign : jointOf? sign = some joint)
    (hbehind : Blanks behind) (last : Derives .term right after f l m) :
    Joins joint (before ++ sign :: behind) right after f := by
  intro text e k d first
  refine ⟨k + 1 + l, max d m, ?_⟩
  rw [← List.append_assoc text]
  exact first.joined hbefore hsign hbehind last

theorem joins_blanks {between right after : List Char} {f : UnitExpr} {l m : Nat}
    (hbetween : Blanks between) (nonempty : between ≠ []) (begins : BeginsFactor right)
    (last : Derives .term right after f l m) : Joins .times between right after f := by
  intro text e k d first
  exact ⟨k + 1 + l, max d m, first.juxtaposed hbetween nonempty begins last⟩

theorem Denotes.of_joins {c : Catalog} {text gap right after : List Char} {joint : Joint}
    {f : UnitExpr} {s t u : Scale} (joins : Joins joint gap right after f)
    (left : Denotes c text (gap ++ right ++ after) s) (scale : c.scaleOf f = .ok t)
    (acts : joint.onScales s t = .ok u) : Denotes c (text ++ gap ++ right) after u := by
  obtain ⟨e, k, d, derived, first⟩ := left
  obtain ⟨k', d', derived⟩ := joins derived
  exact ⟨_, k', d', derived, scaleOf_apply_eq_ok_iff.2 ⟨s, t, first, scale, acts⟩⟩

/-- How an expression goes on behind its first term: `text` is `head` and `rest`, and behind any
other text `rest` multiplies by some scale `r` as it does behind `head`. -/
def Regrafts (c : Catalog) (text after : List Char) (t : Scale) : Prop :=
  ∃ blanks head rest e k d t₀ r, text = blanks ++ head ++ rest ∧ Blanks blanks ∧
    Derives .term head (rest ++ after) e k d ∧ c.scaleOf e = .ok t₀ ∧ t = t₀.mul r ∧
    ∀ left s, Denotes c left (rest ++ after) s → Denotes c (left ++ rest) after (s.mul r)

theorem Regrafts.of_joins {c : Catalog} {text gap right after : List Char} {joint : Joint}
    {f : UnitExpr} {t u v : Scale} (joins : Joins joint gap right after f)
    (first : Regrafts c text (gap ++ right ++ after) t) (scale : c.scaleOf f = .ok u)
    (acts : joint.onScales t u = .ok v) : Regrafts c (text ++ gap ++ right) after v := by
  obtain ⟨blanks, head, rest, e, k, d, t₀, r, rfl, hblanks, term, scale₀, rfl, goes⟩ := first
  rw [onScales_mul] at acts
  obtain ⟨r', factor, rfl⟩ := map_eq_ok_iff.1 acts
  have whole : rest ++ gap ++ right ++ after = rest ++ (gap ++ right ++ after) := by simp
  refine ⟨blanks, head, rest ++ gap ++ right, e, k, d, t₀, r', by simp, hblanks, whole ▸ term,
    scale₀, rfl, fun left s denotes => ?_⟩
  have left := goes left s (whole ▸ denotes)
  -- what joins behind the product joins behind its right factor, whatever the left one is
  have acts : joint.onScales (s.mul r) u = .ok (s.mul r') := by
    rw [onScales_mul, factor]
    rfl
  have joined := left.of_joins joins scale acts
  simpa using joined

/-- Every expression goes on behind its first term in a way that does not depend on that term. -/
theorem Derives.regrafts {c : Catalog} {text after : List Char} {f : UnitExpr} {l m : Nat}
    {t : Scale} (h : Derives .expression text after f l m) (scale : c.scaleOf f = .ok t) :
    Regrafts c text after t := by
  generalize hpart : Part.expression = part at h
  induction h generalizing t with
  | name | one | group | bare | power | superscript => cases hpart
  | @single blanks text after e k d hblanks term =>
    -- nothing behind the first term multiplies by one
    refine ⟨blanks, text, [], e, k, d, t, Scale.one, by simp, hblanks, term, scale, ?_, ?_⟩
    · rw [Scale.mul_one, dropOffset_of_scaleOf scale]
    · rintro left s ⟨e', k', d', derived, scale'⟩
      refine ⟨e', k', d', ?_, ?_⟩
      · rw [List.append_nil]
        exact derived
      · rw [Scale.mul_one, dropOffset_of_scaleOf scale', scale']
  | @joined left before behind right after sign joint e f k l d m first hbefore hsign hbehind last
      ih =>
    obtain ⟨s, u, scaleE, scaleF, acts⟩ := scaleOf_apply_eq_ok_iff.1 scale
    have goes := (ih scaleE rfl).of_joins (joins_sign hbefore hsign hbehind last) scaleF acts
    rwa [← List.append_assoc left] at goes
  | @juxtaposed left between right after e f k l d m first hbetween nonempty begins last ih =>
    have scale : c.scaleOf (Joint.times.apply e f) = .ok t := scale
    obtain ⟨s, u, scaleE, scaleF, acts⟩ := scaleOf_apply_eq_ok_iff.1 scale
    exact (ih scaleE rfl).of_joins (joins_blanks hbetween nonempty begins last) scaleF acts

/-! ## Products -/

/-- In front of a boundary a text means what it means at the end of a text. -/
theorem Denotes.of_isBoundary {c : Catalog} {text : List Char} {s : Scale}
    (h : Denotes c text [] s) {b : Char} (boundary : isBoundary b = true) (rest : List Char) :
    Denotes c text (b :: rest) s := by
  obtain ⟨e, k, d, derived, scale⟩ := h
  refine ⟨e, k, d, derived.congr_after fun p mem _ => ?_, scale⟩
  exact stopsAt_cons.2 (runClasses_of_isBoundary boundary mem)

/-- A text joined by a star multiplies, however many terms it has. -/
theorem Denotes.product {c : Catalog} {left right : List Char} {s t : Scale}
    (hleft : Denotes c left [] s) (hright : Denotes c right [] t) :
    Denotes c (left ++ '*' :: right) [] (s.mul t) := by
  obtain ⟨e, k, d, derived, scale⟩ := hright
  obtain ⟨blanks, head, rest, f, l, m, t₀, r, rfl, hblanks, term, first, rfl, goes⟩ :=
    derived.regrafts scale
  -- the star joins the first term of the right text, and the rest of it goes on behind
  have joins : Joins .times ([] ++ '*' :: blanks) head (rest ++ []) f :=
    joins_sign .nil rfl hblanks term
  have product := (hleft.of_isBoundary (b := '*') (by decide)
    (blanks ++ head ++ (rest ++ []))).of_joins joins first rfl
  have whole := goes _ _ product
  rw [Scale.mul_assoc] at whole
  simpa using whole

/-- The unit one is the only term of which just its digit stands in front of a slash. -/
theorem Derives.eq_one_of_slash {text after rest : List Char} {e : UnitExpr} {k d : Nat}
    (h : Derives .term text after e k d) (front : text ++ after = '1' :: '/' :: rest) :
    text = ['1'] ∧ e = .one := by
  -- the factor in front of any power is the digit itself
  have digit {text after : List Char} {e : UnitExpr} {k d : Nat}
      (h : Derives .factor text after e k d) (front : text ++ after = '1' :: '/' :: rest) :
      text = ['1'] ∧ after = '/' :: rest ∧ e = .one := by
    cases h with
    | name start =>
      obtain ⟨rfl, -⟩ := List.cons.inj front
      exact absurd start (by decide)
    | one =>
      cases front
      exact ⟨rfl, rfl, rfl⟩
    | group =>
      obtain ⟨paren, -⟩ := List.cons.inj front
      exact absurd paren (by decide)
  have slash {blanks sign after : List Char} (hblanks : Blanks blanks)
      (shape : blanks ++ sign ++ after = '/' :: rest) : blanks = [] := by
    cases blanks with
    | nil => rfl
    | cons b blanks =>
      obtain ⟨rfl, -⟩ := List.cons.inj shape
      exact absurd hblanks.of_cons.1 (by decide)
  cases h with
  | bare factor =>
    obtain ⟨text, -, one⟩ := digit factor front
    exact ⟨text, one⟩
  | @power base blanks sign exponent after e n k d l factor hblanks hsign hexponent =>
    obtain ⟨-, behind, -⟩ := digit factor (by simpa using front)
    obtain rfl := slash hblanks (List.append_assoc _ _ _ ▸ behind)
    rcases hsign with rfl | rfl
    · cases behind
    · cases behind
  | @superscript base blanks raised after e n k d factor hblanks nonempty run maximal value bound =>
    obtain ⟨-, behind, -⟩ := digit factor (by simpa using front)
    obtain rfl := slash hblanks behind
    cases raised with
    | nil => exact absurd rfl nonempty
    | cons c raised =>
      obtain ⟨rfl, -⟩ := List.cons.inj behind
      exact absurd (run _ List.mem_cons_self) (by decide)

/-- A quotient of one by a text multiplies by taking its slash, without the one. -/
theorem Denotes.product_of_slash {c : Catalog} {left rest : List Char} {s t : Scale}
    (hleft : Denotes c left [] s) (hright : Denotes c ('1' :: '/' :: rest) [] t) :
    Denotes c (left ++ '/' :: rest) [] (s.mul t) := by
  obtain ⟨e, k, d, derived, scale⟩ := hright
  obtain ⟨blanks, head, tail, f, l, m, t₀, r, front, hblanks, term, first, rfl, goes⟩ :=
    derived.regrafts scale
  have none : blanks = [] := by
    cases blanks with
    | nil => rfl
    | cons b blanks =>
      obtain ⟨rfl, -⟩ := List.cons.inj front
      exact absurd hblanks.of_cons.1 (by decide)
  subst none
  rw [List.nil_append] at front
  have whole : head ++ (tail ++ []) = '1' :: '/' :: rest := by simp [← front]
  -- the first term is the one that is left out, so only the rest is grafted on
  obtain ⟨rfl, rfl⟩ := term.eq_one_of_slash whole
  cases first
  obtain rfl := (List.cons.inj front).2
  have whole := goes left s (by simpa using hleft.of_isBoundary (b := '/') (by decide) rest)
  rw [Scale.one_mul, Scale.mul_dropOffset]
  exact whole

/-! ## Quotients -/

/-- A single term divides what stands in front of its slash. -/
theorem Denotes.quotient_of_term {c : Catalog} {left right : List Char} {e : UnitExpr} {k d : Nat}
    {s t u : Scale} (hleft : Denotes c left [] s) (term : Derives .term right [] e k d)
    (scale : c.scaleOf e = .ok t) (quotient : s.div t = .ok u) :
    Denotes c (left ++ '/' :: right) [] u := by
  have joins : Joins .per ([] ++ '/' :: []) right [] e := joins_sign .nil rfl .nil term
  have left := hleft.of_isBoundary (b := '/') (by decide) right
  have whole := Denotes.of_joins (s := s) joins (by simpa using left) scale quotient
  simpa using whole

/-- The divisor as a label writes it. -/
def divisorText (right : List Char) : List Char :=
  if Label.isSingleTermAt 0 right then right else '(' :: right ++ [')']

/-- A text divides by another one, which is put in parentheses unless it is a single term. -/
theorem Denotes.quotient {c : Catalog} {left right : List Char} {s t u : Scale}
    (hleft : Denotes c left [] s) (hright : Denotes c right [] t) (quotient : s.div t = .ok u) :
    Denotes c (left ++ '/' :: divisorText right) [] u := by
  unfold divisorText
  split
  · next single =>
    obtain ⟨e, k, d, derived, scale⟩ := hright
    exact hleft.quotient_of_term (derived.term_of_isSingleTermAt single) scale quotient
  · -- in parentheses any expression is a factor
    obtain ⟨e, k, d, derived, scale⟩ := hright.of_isBoundary (b := ')') (by decide) []
    have group : Derives .factor ('(' :: right ++ [] ++ [')']) [] e k (d + 1) :=
      .group derived .nil
    rw [List.append_nil] at group
    exact hleft.quotient_of_term (.bare group) scale quotient

/-- The unit one in front of a slash. -/
theorem denotes_one (c : Catalog) : Denotes c ['1'] [] Scale.one :=
  ⟨.one, 0, 0, .single .nil (.bare (.one (.nil _))), rfl⟩

end UnitExpr

end Metrology
