import Metrology.Proofs.UnitExpr.Terms

/-!
# Reading unit expressions

The reader of unit texts accepts exactly the texts of the grammar that keep to its two bounds,
each with the expression that it spells. Soundness is shown step by step, from a factor with
fewer levels of parentheses to an expression (`sound_expression`); completeness by induction on
the derivation (`complete_of_derives`). Main statement: `ofChars_eq_ok_iff_spells`.
-/

namespace Metrology.UnitExpr

open Text Reader

/-! ## Soundness -/

/-- What a step reads is a part of the grammar behind blanks, with no more parentheses than
`levels`, and the step gives up one joint for each operator. -/
def Sound (part : Part) (levels : Nat) (step : Step) : Prop :=
  ∀ ⦃c e c'⦄, step c = .ok (e, c') →
    ∃ blanks text k d, c.rest = blanks ++ text ++ c'.rest ∧ Blanks blanks ∧
      Derives part text c'.rest e k d ∧ d ≤ levels ∧ c.joints = k + c'.joints

theorem derives_of_atom {size : Nat} {cs rest : List Char} {e : UnitExpr}
    (h : atom size cs = .ok (e, rest)) :
    ∃ text, cs = text ++ rest ∧ Derives .factor text rest e 0 0 := by
  unfold atom at h
  split at h
  · next c tail =>
    split at h
    · simp only at h
      split at h
      · next run =>
        cases h
        refine ⟨['1'], ?_, .one (stopsAt_dropWhile _ _)⟩
        rw [← run]
        exact List.takeWhile_append_dropWhile.symm
      · cases h
    · next noDigit =>
      split at h
      · next isName =>
        cases h
        refine ⟨(c :: tail).takeWhile isNameChar, List.takeWhile_append_dropWhile.symm, ?_⟩
        have all := forall_takeWhile isNameChar tail
        rw [List.takeWhile_cons_of_pos isName]
        refine .name ?_ all (stopsAt_dropWhile _ _)
        simp [isNameStart, isName, noDigit]
      · cases h
  · cases h

theorem sound_term {size levels : Nat} {factor : Step} (h : Sound .factor levels factor) :
    Sound .term levels (term size levels factor) := by
  intro c e c' read
  unfold term at read
  split at read
  · next base after first =>
    obtain ⟨⟨f, rest⟩, raised, same⟩ := map_eq_ok_iff.1 read
    cases same
    obtain ⟨blanks, text, k, d, front, hblanks, derived, deep, joints⟩ := h first
    obtain ⟨more, l, behind, derived, low⟩ := derived.of_power deep raised
    refine ⟨blanks, text ++ more, k, l, ?_, hblanks, derived, low, joints⟩
    rw [front, behind]
    simp
  · cases read

/-- What joins a term: a sign, blanks around it allowed, or blanks alone. -/
theorem joint?_eq_some {cs rest : List Char} {joint : Joint} (h : joint? cs = some (joint, rest)) :
    ∃ blanks, Blanks blanks ∧
      ((∃ sign, jointOf? sign = some joint ∧ cs = blanks ++ sign :: rest) ∨
        (joint = .times ∧ blanks ≠ [] ∧ cs = blanks ++ rest ∧ BeginsFactor rest)) := by
  obtain ⟨blanks, hblanks, front⟩ := exists_blanks cs
  refine ⟨blanks, hblanks, ?_⟩
  unfold joint? at h
  split at h
  · cases h
  · next c tail skipped =>
    rw [skipped] at front
    split at h
    · next star =>
      split at h
      · cases h
      · cases h
        exact .inl ⟨'*', rfl, star ▸ front⟩
    · split at h
      · next dot =>
        cases h
        exact .inl ⟨'·', rfl, dot ▸ front⟩
      · split at h
        · next slash =>
          cases h
          exact .inl ⟨'/', rfl, slash ▸ front⟩
        · split at h
          · next blank =>
            cases h
            -- the first character is a blank, and the next term begins with none
            refine .inr ⟨rfl, ?_, front, c, rfl, blank.2⟩
            rintro rfl
            rw [List.nil_append] at front
            rw [front] at blank
            simp [isBlank_of_skipBlanks_eq_cons skipped] at blank
          · cases h

/-- A term that is joined goes on with the derivation in front of it. -/
theorem Derives.of_joint? {left cs rest blanks right after : List Char} {joint : Joint}
    {e f : UnitExpr} {k l d m : Nat} (first : Derives .expression left cs e k d)
    (h : joint? cs = some (joint, rest)) (front : rest = blanks ++ right ++ after)
    (hblanks : Blanks blanks) (last : Derives .term right after f l m) :
    ∃ more, cs = more ++ after ∧
      Derives .expression (left ++ more) after (joint.apply e f) (k + 1 + l) (max d m) := by
  subst front
  obtain ⟨before, hbefore, ⟨sign, hsign, rfl⟩ | ⟨rfl, nonempty, rfl, begins⟩⟩ := joint?_eq_some h
  · refine ⟨before ++ sign :: blanks ++ right, by simp, ?_⟩
    have first : Derives .expression left (before ++ sign :: blanks ++ right ++ after) e k d := by
      simpa using first
    simpa using first.joined hbefore hsign hblanks last
  · -- where blanks alone join, none is left in front of the term
    obtain ⟨c, tail, rfl, start⟩ := last.begins_term
    obtain ⟨b, mem, begins⟩ := begins
    cases blanks with
    | nil =>
      cases mem
      refine ⟨before ++ c :: tail, by simp, ?_⟩
      have first : Derives .expression left (before ++ c :: tail ++ after) e k d := by
        simpa using first
      simpa [Joint.apply] using first.juxtaposed hbefore nonempty ⟨c, rfl, begins⟩ last
    | cons b' blanks =>
      cases mem
      have solid : isTermStart b = true := by
        rcases begins with paren | name
        · exact isTermStart_iff.2 (.inl paren)
        · exact isTermStart_iff.2 (.inr (.inr name))
      exact absurd hblanks.of_cons.1 (by simp [(solid_of_isTermStart solid).1])

/-- The terms that are joined to an expression in front of them go on with its derivation. -/
theorem derives_of_products {levels : Nat} {term : Step} (h : Sound .term levels term)
    {fuel : Nat} {left e : UnitExpr} {c c' : Cursor}
    (read : products term fuel left c = .ok (e, c'))
    {text : List Char} {k d : Nat} (derived : Derives .expression text c.rest left k d)
    (deep : d ≤ levels) :
    ∃ more l m, c.rest = more ++ c'.rest ∧
      Derives .expression (text ++ more) c'.rest e (k + l) m ∧ m ≤ levels ∧
      c.joints = l + c'.joints := by
  induction fuel generalizing left c text k d with
  | zero =>
    unfold products at read
    split at read
    · cases read
      exact ⟨[], 0, d, rfl, by rwa [List.append_nil], deep, (Nat.zero_add _).symm⟩
    · cases read
  | succ fuel ih =>
    unfold products at read
    split at read
    · cases read
      exact ⟨[], 0, d, rfl, by rwa [List.append_nil], deep, (Nat.zero_add _).symm⟩
    · next joint rest joined =>
      split at read
      · next _ fuel' joints same allowed =>
        cases same
        split at read
        · next right after first =>
          -- one more term, and the hypothesis for those behind it
          obtain ⟨blanks, next, l, m, front, hblanks, last, low, spent⟩ := h first
          obtain ⟨more, shape, derived⟩ := derived.of_joint? joined front hblanks last
          obtain ⟨more', l', m', behind, derived, low, spent'⟩ :=
            ih read derived (Nat.max_le.2 ⟨deep, low⟩)
          refine ⟨more ++ more', 1 + l + l', m', ?_, ?_, low, ?_⟩
          · rw [shape, behind, List.append_assoc]
          · have operators : k + (1 + l + l') = k + 1 + l + l' := by omega
            rw [operators, ← List.append_assoc]
            exact derived
          · dsimp only at spent
            omega
        · cases read
      · cases read

theorem sound_terms {levels : Nat} {term : Step} (h : Sound .term levels term) :
    Sound .expression levels (terms term) := by
  intro c e c' read
  unfold terms at read
  split at read
  · next left after first =>
    obtain ⟨blanks, text, k, d, front, hblanks, derived, deep, joints⟩ := h first
    obtain ⟨more, l, m, behind, derived, low, joints'⟩ :=
      derives_of_products h read (.single hblanks derived) deep
    refine ⟨[], blanks ++ text ++ more, k + l, m, ?_, .nil, derived, low, by omega⟩
    rw [front, behind]
    simp
  · cases read

/-- What is read without parentheses is a factor. -/
theorem derives_of_atom_skipBlanks {size : Nat} {c c' : Cursor} {e : UnitExpr}
    (read : (atom size (skipBlanks c.rest)).map (fun p => (p.1, { c with rest := p.2 })) =
      .ok (e, c')) :
    ∃ blanks text, c.rest = blanks ++ text ++ c'.rest ∧ Blanks blanks ∧
      Derives .factor text c'.rest e 0 0 ∧ c.joints = c'.joints := by
  obtain ⟨blanks, hblanks, front⟩ := exists_blanks c.rest
  obtain ⟨⟨f, rest⟩, parsed, same⟩ := map_eq_ok_iff.1 read
  cases same
  obtain ⟨text, shape, derived⟩ := derives_of_atom parsed
  refine ⟨blanks, text, ?_, hblanks, derived, rfl⟩
  rw [List.append_assoc, ← shape]
  exact front

theorem sound_factor (size levels : Nat) : Sound .factor levels (factor size levels) := by
  induction levels with
  | zero =>
    intro c e c' read
    rw [factor] at read
    split at read
    · cases read
    · obtain ⟨blanks, text, front, hblanks, derived, joints⟩ := derives_of_atom_skipBlanks read
      exact ⟨blanks, text, 0, 0, front, hblanks, derived, Nat.le_refl 0, by omega⟩
  | succ levels ih =>
    intro c e c' read
    rw [factor] at read
    split at read
    · next rest skipped =>
      dsimp only at read
      split at read
      · next f after inside =>
        -- the expression inside is read with one level less, so the hypothesis is of use
        obtain ⟨behind, closed, same⟩ := map_eq_ok_iff.1 read
        cases same
        obtain ⟨blanks, hblanks, front⟩ := exists_blanks c.rest
        obtain ⟨inner, text, k, d, shape, hinner, derived, deep, joints⟩ :=
          sound_terms (sound_term ih) inside
        obtain ⟨closing, hclosing, last⟩ := derived_of_close closed
        rw [last] at derived
        dsimp only at shape joints
        refine ⟨blanks, '(' :: (inner ++ text) ++ closing ++ [')'], k, d + 1, ?_, hblanks,
          .group (derived.blanks_append hinner) hclosing, Nat.succ_le_succ deep, joints⟩
        rw [front, skipped, shape, last]
        simp
      · cases read
    · obtain ⟨blanks, text, front, hblanks, derived, joints⟩ := derives_of_atom_skipBlanks read
      exact ⟨blanks, text, 0, 0, front, hblanks, derived, Nat.zero_le _, by omega⟩

/-! ## Completeness -/

/-- The terms of an expression with `levels` levels of parentheses left. -/
abbrev termStep (size levels : Nat) : Step := term size levels (factor size levels)

/-- What a derivation of a part promises of its reader, where enough levels and joints are left.
An expression is read up to the next joint, since more terms may follow it. -/
def Complete (size : Nat) : Part → (text after : List Char) → UnitExpr → (k d : Nat) → Prop
  | .factor, text, after, e, k, d =>
    ∀ joints ⦃levels blanks⦄, d ≤ levels → Blanks blanks →
      factor size levels ⟨blanks ++ text ++ after, k + joints⟩ = .ok (e, ⟨after, joints⟩)
  | .term, text, after, e, k, d =>
    ∀ joints ⦃levels blanks⦄, d ≤ levels → Blanks blanks → EndsTerm after →
      termStep size levels ⟨blanks ++ text ++ after, k + joints⟩ = .ok (e, ⟨after, joints⟩)
  | .expression, text, after, e, k, d =>
    ∀ joints ⦃levels⦄, d ≤ levels → EndsTerm after →
      ∃ fuel, joints ≤ fuel ∧ terms (termStep size levels) ⟨text ++ after, k + joints⟩ =
        products (termStep size levels) fuel e ⟨after, joints⟩

theorem skipBlanks_append_cons {blanks rest : List Char} {c : Char} (hblanks : Blanks blanks)
    (solid : isBlank c = false) : skipBlanks (blanks ++ c :: rest) = c :: rest := by
  rw [skipBlanks_append hblanks, skipBlanks_cons_of_not _ solid]

/-- In front of anything but a parenthesis, a factor is read as an atom. -/
theorem factor_of_atom {size levels joints : Nat} {cs rest after : List Char} {c : Char}
    {e : UnitExpr} (skipped : skipBlanks cs = c :: rest) (paren : c ≠ '(')
    (h : atom size (c :: rest) = .ok (e, after)) :
    factor size levels ⟨cs, joints⟩ = .ok (e, ⟨after, joints⟩) := by
  rw [factor.eq_def]
  simp only [skipped]
  split
  · next same => exact absurd (List.cons.inj same).1 paren
  · simp [h, Except.map]

theorem term_of_factor {size levels k joints : Nat} {text rest after : List Char}
    {e f : UnitExpr}
    (factor : factor size levels ⟨text, k + joints⟩ = .ok (e, ⟨rest, joints⟩))
    (power : power size levels e rest = .ok (f, after)) :
    termStep size levels ⟨text, k + joints⟩ = .ok (f, ⟨after, joints⟩) := by
  simp only [termStep, term, factor, power, Except.map]

theorem products_of_joint? {step : Step} {fuel joints : Nat} {left right : UnitExpr}
    {joint : Joint} {cs rest : List Char} {c : Cursor} (joined : joint? cs = some (joint, rest))
    (term : step ⟨rest, joints⟩ = .ok (right, c)) :
    products step (fuel + 1) left ⟨cs, joints + 1⟩ =
      products step fuel (joint.apply left right) c := by
  rw [products.eq_def]
  simp only [joined, term]

theorem products_of_none {step : Step} {fuel : Nat} {e : UnitExpr} {c : Cursor}
    (h : joint? c.rest = none) : products step fuel e c = .ok (e, c) := by
  rw [products.eq_def]
  simp only [h]

theorem joint?_blanks {blanks : List Char} (h : Blanks blanks) : joint? blanks = none := by
  simp [joint?, skipBlanks_of_blanks h]

theorem joint?_closing {closing rest : List Char} (h : Blanks closing) :
    joint? (closing ++ ')' :: rest) = none := by
  have start : isNameStart ')' = false := by decide
  simp [joint?, skipBlanks_append_cons h (c := ')') (by decide), start]

/-- Behind a sign, blanks and the beginning of a term are not a second star. -/
theorem head?_ne_star {blanks rest : List Char} {c : Char} (hblanks : Blanks blanks)
    (start : isTermStart c = true) : (blanks ++ c :: rest).head? ≠ some '*' := by
  cases blanks with
  | nil =>
    intro same
    cases same
    exact absurd start (by decide)
  | cons b blanks =>
    intro same
    cases same
    exact absurd hblanks.of_cons.1 (by decide)

theorem joint?_sign {before rest : List Char} {sign : Char} {joint : Joint}
    (hbefore : Blanks before) (hsign : jointOf? sign = some joint)
    (single : rest.head? ≠ some '*') : joint? (before ++ sign :: rest) = some (joint, rest) := by
  rcases jointOf?_eq_some_iff.1 hsign with ⟨rfl | rfl, rfl⟩ | ⟨rfl, rfl⟩
  · simp only [joint?, skipBlanks_append_cons hbefore (c := '*') (by decide), if_true,
      if_neg single]
  · rw [joint?, skipBlanks_append_cons hbefore (by decide)]
    rfl
  · rw [joint?, skipBlanks_append_cons hbefore (by decide)]
    rfl

/-- A sign between terms ends the term in front of it. -/
theorem endsTerm_sign {before rest : List Char} {sign : Char} {joint : Joint}
    (hbefore : Blanks before) (hsign : jointOf? sign = some joint)
    (single : rest.head? ≠ some '*') : EndsTerm (before ++ sign :: rest) := by
  rcases jointOf?_eq_some_iff.1 hsign with ⟨rfl | rfl, -⟩ | ⟨rfl, -⟩
  · exact endsTerm_append hbefore (.inr (by decide)) (by decide) (by decide) (by decide)
      fun _ => single
  · exact endsTerm_append hbefore (.inr (by decide)) (by decide) (by decide) (by decide)
      fun same => absurd same (by decide)
  · exact endsTerm_append hbefore (.inr (by decide)) (by decide) (by decide) (by decide)
      fun same => absurd same (by decide)

theorem joint?_juxtaposed {between rest : List Char} {c : Char} (hbetween : Blanks between)
    (nonempty : between ≠ []) (begins : c = '(' ∨ isNameStart c = true) :
    joint? (between ++ c :: rest) = some (.times, c :: rest) := by
  have start : isTermStart c = true := by
    rcases begins with paren | name
    · exact isTermStart_iff.2 (.inl paren)
    · exact isTermStart_iff.2 (.inr (.inr name))
  obtain ⟨solid, boundary, -, -⟩ := solid_of_isTermStart start
  simp only [isBoundary, Bool.or_eq_false_iff, beq_eq_false_iff_ne] at boundary
  obtain ⟨⟨⟨⟨-, star⟩, slash⟩, dot⟩, -⟩ := boundary
  have blank : (between ++ c :: rest).head?.any isBlank = true := by
    cases between with
    | nil => exact absurd rfl nonempty
    | cons b between => simpa using hbetween.of_cons.1
  simp only [joint?, skipBlanks_append_cons hbetween solid, star, slash, dot, blank, begins,
    and_self, if_true, if_false]

theorem atom_name (size : Nat) {c : Char} {rest after : List Char} (start : isNameStart c = true)
    (run : ∀ d ∈ rest, isNameChar d = true) (maximal : StopsAt isNameChar after) :
    atom size (c :: (rest ++ after)) = .ok (.name (String.ofList (c :: rest)), after) := by
  obtain ⟨isName, digit⟩ : isNameChar c = true ∧ isDigitSign c = false := by
    simpa [isNameStart] using start
  have all : ∀ d ∈ c :: rest, isNameChar d = true := List.forall_mem_cons.2 ⟨isName, run⟩
  have taken := takeWhile_append_of_stopsAt all maximal
  have dropped := dropWhile_append_of_stopsAt all maximal
  rw [List.cons_append] at taken dropped
  simp only [atom, digit, isName, taken, dropped, Bool.false_eq_true, if_false, if_true]

theorem atom_one (size : Nat) {after : List Char} (maximal : StopsAt isNumberChar after) :
    atom size ('1' :: after) = .ok (.one, after) := by
  have all : ∀ d ∈ ['1'], isNumberChar d = true := List.forall_mem_singleton.2 (by decide)
  have digit : isDigitSign '1' = true := by decide
  have taken := takeWhile_append_of_stopsAt all maximal
  have dropped := dropWhile_append_of_stopsAt all maximal
  rw [List.singleton_append] at taken dropped
  unfold isNumberChar at taken dropped
  simp only [atom, digit, taken, dropped, if_true]

/-- A term behind a joint goes on with what is read in front of it. -/
theorem Complete.append {size : Nat} {left middle blanks right after : List Char} {joint : Joint}
    {e f : UnitExpr} {k l d m : Nat}
    (first : Complete size .expression left (middle ++ after) e k d)
    (ends : EndsTerm (middle ++ after))
    (joined : joint? (middle ++ after) = some (joint, blanks ++ right ++ after))
    (hblanks : Blanks blanks) (last : Complete size .term right after f l m) :
    Complete size .expression (left ++ middle) after (joint.apply e f) (k + 1 + l) (max d m) := by
  intro joints levels deep closed
  -- the joint itself is one of those that reading what stands in front leaves
  obtain ⟨fuel, enough, read⟩ := first (l + joints + 1)
    (Nat.le_trans (Nat.le_max_left d m) deep) ends
  obtain ⟨fuel, rfl⟩ : ∃ fuel', fuel = fuel' + 1 := Nat.exists_eq_add_one.2 (by omega)
  have term := last joints (Nat.le_trans (Nat.le_max_right d m) deep) hblanks closed
  have count : k + 1 + l + joints = k + (l + joints + 1) := by omega
  refine ⟨fuel, by omega, ?_⟩
  rw [List.append_assoc, count, read, products_of_joint? joined term]

/-- By induction on the derivation. What stands behind a part is a hypothesis of its own, since the
parts of a part have more of it behind them. -/
theorem complete_of_derives (size : Nat) {part : Part} {text after : List Char} {e : UnitExpr}
    {k d : Nat} (h : Derives part text after e k d) : Complete size part text after e k d := by
  induction h with
  | @name c rest after start run maximal =>
    intro joints levels blanks deep hblanks
    obtain ⟨solid, -, -, -⟩ := solid_of_isTermStart (isTermStart_iff.2 (.inr (.inr start)))
    have paren : c ≠ '(' := by
      rintro rfl
      exact absurd start (by decide)
    have skipped : skipBlanks (blanks ++ c :: rest ++ after) = c :: (rest ++ after) := by
      rw [List.append_assoc, List.cons_append, skipBlanks_append_cons hblanks solid]
    rw [Nat.zero_add]
    exact factor_of_atom skipped paren (atom_name size start run maximal)
  | @one after maximal =>
    intro joints levels blanks deep hblanks
    have skipped : skipBlanks (blanks ++ ['1'] ++ after) = '1' :: after := by
      rw [List.append_assoc, List.singleton_append, skipBlanks_append_cons hblanks (by decide)]
    rw [Nat.zero_add]
    exact factor_of_atom skipped (by decide) (atom_one size maximal)
  | @group text closing after e k d inner hclosing ih =>
    intro joints levels blanks deep hblanks
    cases levels with
    | zero => omega
    | succ levels =>
      have ends : EndsTerm (closing ++ ')' :: after) :=
        endsTerm_append hclosing (.inr (by decide)) (by decide) (by decide) (by decide)
          fun same => absurd same (by decide)
      -- the parenthesis ends the products, so that the expression inside is read whole
      obtain ⟨fuel, -, read⟩ := ih joints (Nat.le_of_succ_le_succ deep) ends
      rw [products_of_none (joint?_closing hclosing)] at read
      have shape : blanks ++ ('(' :: text ++ closing ++ [')']) ++ after =
          blanks ++ '(' :: (text ++ (closing ++ ')' :: after)) := by simp
      rw [shape, factor.eq_def]
      simp only [skipBlanks_append_cons hblanks (c := '(') (by decide), read,
        close_append size hclosing, Except.map]
  | bare factor ih =>
    intro joints levels blanks deep hblanks ends
    exact term_of_factor (ih joints deep hblanks) (power_of_endsTerm ends)
  | @power base gap sign text after e n k d l factor hgap hsign hexponent ih =>
    intro joints levels blanks deep hblanks ends
    have read := ih joints (Nat.le_trans (Nat.le_max_left d l) deep) hblanks
    have shape : blanks ++ (base ++ gap ++ sign ++ text) ++ after =
        blanks ++ base ++ (gap ++ sign ++ text ++ after) := by simp
    rw [shape]
    exact term_of_factor read
      (power_append hgap hsign hexponent (Nat.le_trans (Nat.le_max_right d l) deep)
        ends.stopsAt_goesOn)
  | @superscript base gap raised after e n k d factor hgap nonempty run maximal value bound ih =>
    intro joints levels blanks deep hblanks ends
    have read := ih joints deep hblanks
    have shape : blanks ++ (base ++ gap ++ raised) ++ after =
        blanks ++ base ++ (gap ++ raised ++ after) := by simp
    rw [shape]
    exact term_of_factor read (power_superscript_append hgap nonempty run maximal value bound)
  | @single gap text after e k d hgap term ih =>
    intro joints levels deep ends
    refine ⟨joints, Nat.le_refl joints, ?_⟩
    simp only [terms, ih joints deep hgap ends]
  | @joined left before behind right after sign joint e f k l d m first hbefore hsign hbehind last
      ihFirst ihLast =>
    obtain ⟨c, tail, rfl, start⟩ := last.begins_term
    -- a star is followed by no second one, which would be the sign of a power
    have single : (behind ++ c :: tail ++ after).head? ≠ some '*' := by
      rw [List.append_assoc, List.cons_append]
      exact head?_ne_star hbehind start
    have middle : before ++ sign :: behind ++ c :: tail ++ after =
        before ++ sign :: (behind ++ c :: tail ++ after) := by simp
    have whole := Complete.append ihFirst (middle ▸ endsTerm_sign hbefore hsign single)
      (middle ▸ joint?_sign hbefore hsign single) hbehind ihLast
    simpa using whole
  | @juxtaposed left between right after e f k l d m first hbetween nonempty begins last
      ihFirst ihLast =>
    obtain ⟨c, tail, rfl, start⟩ := last.begins_term
    obtain ⟨b, mem, begins⟩ := begins
    cases mem
    obtain ⟨solid, boundary, caret, raised⟩ := solid_of_isTermStart start
    have middle : between ++ c :: tail ++ after = between ++ c :: (tail ++ after) := by simp
    have apart : EndsTerm (between ++ c :: (tail ++ after)) :=
      endsTerm_append hbetween (.inl nonempty) solid caret raised fun same =>
        absurd boundary (by simp [same, isBoundary])
    have joined : joint? (between ++ c :: (tail ++ after)) = some (.times, c :: (tail ++ after)) :=
      joint?_juxtaposed hbetween nonempty begins
    have whole := Complete.append ihFirst (middle ▸ apart) (middle ▸ joined) .nil ihLast
    rw [← List.append_assoc] at whole
    exact whole

/-! ## Whole texts -/

theorem filter_strayChars_eq_nil {cs : List Char} :
    strayChars.filter cs.contains = [] ↔ ∀ c ∈ cs, c ∉ strayChars := by
  rw [List.filter_eq_nil_iff]
  constructor
  · intro none c mem listed
    exact none c listed (List.contains_iff_mem.2 mem)
  · intro none c listed mem
    exact none c (List.contains_iff_mem.1 mem) listed

/-- What is read as an expression spells it, with no more operators and parentheses than the
limits allow. -/
theorem spells_of_ofChars {cs : List Char} {e : UnitExpr} (h : ofChars cs = .ok e) :
    (∀ c ∈ cs, c ∉ strayChars) ∧
      ∃ k d, Spells cs e k d ∧ k ≤ operatorLimit ∧ d ≤ nestingLimit := by
  unfold ofChars at h
  split at h
  · next clean =>
    refine ⟨filter_strayChars_eq_nil.1 clean, ?_⟩
    split at h
    · next f after read =>
      split at h
      · next done =>
        cases h
        obtain ⟨blanks, text, k, d, front, hblanks, derived, deep, joints⟩ :=
          sound_terms (sound_term (sound_factor _ _)) read
        obtain ⟨closing, hclosing, last⟩ := exists_blanks after.rest
        rw [done, List.append_nil] at last
        refine ⟨k, d, ⟨blanks ++ text, closing, last ▸ front, hclosing, ?_⟩, ?_, deep⟩
        · exact (last ▸ derived).blanks_append hblanks
        · exact Nat.le.intro joints.symm
      · cases h
    · cases h
  · cases h

/-- A text of the grammar is read as what it spells, as long as it keeps to the limits. -/
theorem ofChars_of_spells {cs : List Char} {e : UnitExpr} {k d : Nat}
    (clean : ∀ c ∈ cs, c ∉ strayChars) (h : Spells cs e k d) (short : k ≤ operatorLimit)
    (flat : d ≤ nestingLimit) : ofChars cs = .ok e := by
  obtain ⟨text, blanks, rfl, hblanks, derived⟩ := h
  obtain ⟨joints, count⟩ : ∃ joints, operatorLimit = k + joints := Nat.exists_eq_add_of_le short
  -- joints that are left over do not matter where no term follows
  obtain ⟨fuel, -, read⟩ := complete_of_derives (text ++ blanks).length derived
    joints flat (endsTerm_of_blanks hblanks)
  rw [products_of_none (joint?_blanks hblanks), ← count] at read
  simp only [ofChars, filter_strayChars_eq_nil.2 clean, expression, read,
    skipBlanks_of_blanks hblanks]

/-- The reader accepts exactly the texts of the grammar, and reads each as the one expression that
it spells: terms are joined from the left, and only powers other than the first and the zeroth
are kept. -/
theorem ofChars_eq_ok_iff_spells (cs : List Char) (e : UnitExpr) :
    ofChars cs = .ok e ↔ (∀ c ∈ cs, c ∉ strayChars) ∧
      ∃ k d, Spells cs e k d ∧ k ≤ operatorLimit ∧ d ≤ nestingLimit := by
  constructor
  · exact spells_of_ofChars
  · rintro ⟨clean, k, d, h, short, flat⟩
    exact ofChars_of_spells clean h short flat

end Metrology.UnitExpr
