import Metrology.Proofs.UnitExpr.Reading

/-!
# Single terms

The scan of a label for signs outside parentheses agrees with the grammar: a unit text in which
it finds none is one term (`Derives.term_of_isSingleTermAt`).
-/

namespace Metrology.UnitExpr

open Text Reader Label

/-- Behind the text the scan goes on at the depth at which it began, unless it has failed. -/
def IsPassed (text : List Char) : Prop :=
  ∀ ⦃depth tail⦄, isSingleTermAt depth (text ++ tail) = true → isSingleTermAt depth tail = true

theorem IsPassed.append {a b : List Char} (ha : IsPassed a) (hb : IsPassed b) :
    IsPassed (a ++ b) := by
  intro depth tail h
  rw [List.append_assoc] at h
  exact hb (ha h)

/-- The characters at which the scan does more than to look for signs. -/
def isScanned (c : Char) : Bool := c == '*' || c == '(' || c == ')'

theorem isScanned_of_isBlank {c : Char} (h : isBlank c = true) : isScanned c = false :=
  forall_isBlank (p := fun c => isScanned c = false) (by decide) h

theorem isScanned_of_class {p : Char → Bool} (none : ['*', '(', ')'].any p = false) {c : Char}
    (h : p c = true) : isScanned c = false := by
  cases scanned : isScanned c with
  | false => rfl
  | true =>
    have mem : c ∈ ['*', '(', ')'] := by simpa [isScanned, or_assoc] using scanned
    exact absurd h (List.any_eq_false.1 none c mem)

theorem IsPassed.cons {c : Char} {rest : List Char} (plain : isScanned c = false)
    (h : IsPassed rest) : IsPassed (c :: rest) := by
  intro depth tail scan
  simp only [isScanned, Bool.or_eq_false_iff, beq_eq_false_iff_ne] at plain
  rw [List.cons_append] at scan
  unfold isSingleTermAt at scan
  split at scan
  · next same => cases same
  · next same => exact absurd (List.cons.inj same).1 plain.1.1
  · next d rest' _ same =>
    cases same
    rw [if_neg plain.1.2, if_neg plain.2] at scan
    split at scan
    · cases scan
    · exact h scan

theorem isPassed_nil : IsPassed [] := by
  intro depth tail scan
  exact scan

theorem isPassed_run {run : List Char} (plain : ∀ c ∈ run, isScanned c = false) :
    IsPassed run := by
  induction run with
  | nil => exact isPassed_nil
  | cons c run ih =>
    obtain ⟨first, rest⟩ := List.forall_mem_cons.1 plain
    exact .cons first (ih rest)

theorem isPassed_blanks {blanks : List Char} (h : Blanks blanks) : IsPassed blanks :=
  isPassed_run fun c mem => isScanned_of_isBlank (h c mem)

theorem isPassed_group {text : List Char} (h : IsPassed text) :
    IsPassed ('(' :: text ++ [')']) := by
  intro depth tail scan
  have inside : isSingleTermAt (depth + 1) (text ++ ')' :: tail) = true := by
    simpa [isSingleTermAt] using scan
  have behind := h inside
  simpa [isSingleTermAt] using behind

theorem isPassed_stars : IsPassed ['*', '*'] := by
  intro depth tail scan
  exact scan

/-- A sign fails the scan outside parentheses, unless it is the first of two stars. -/
theorem isSingleTermAt_sign {sign : Char} {joint : Joint} (hsign : jointOf? sign = some joint)
    {depth : Int} {rest : List Char} (single : rest.head? ≠ some '*')
    (scan : isSingleTermAt depth (sign :: rest) = true) :
    depth ≠ 0 ∧ isSingleTermAt depth rest = true := by
  have signs : (sign = '*' ∨ sign = '/' ∨ sign = '·') ∧ sign ≠ '(' ∧ sign ≠ ')' := by
    rcases jointOf?_eq_some_iff.1 hsign with ⟨rfl | rfl, -⟩ | ⟨rfl, -⟩
    · decide
    · decide
    · decide
  obtain ⟨isSign, opening, closing⟩ := signs
  unfold isSingleTermAt at scan
  split at scan
  · next same => cases same
  · next same =>
    cases same
    exact absurd rfl single
  · next d rest' _ same =>
    cases same
    rw [if_neg opening, if_neg closing] at scan
    split at scan
    · cases scan
    · next inside =>
      refine ⟨fun zero => inside ⟨zero, ?_⟩, scan⟩
      rcases isSign with star | slash | dot
      · exact .inl star
      · exact .inr (.inl slash)
      · exact .inr (.inr (.inl dot))

theorem isSingleTermAt_blank {b : Char} (blank : isBlank b = true) (rest : List Char) :
    isSingleTermAt 0 (b :: rest) = false := by
  have plain : isScanned b = false := isScanned_of_isBlank blank
  simp only [isScanned, Bool.or_eq_false_iff, beq_eq_false_iff_ne] at plain
  unfold isSingleTermAt
  split
  · next same => cases same
  · next same => exact absurd (List.cons.inj same).1 plain.1.1
  · next d rest' _ same =>
    cases same
    rw [if_neg plain.1.2, if_neg plain.2, if_pos]
    exact ⟨rfl, .inr (.inr (.inr blank))⟩

theorem isPassed_exponent {text : List Char} {n : Int} {d : Nat} (h : Exponent text n d) :
    IsPassed text := by
  induction h with
  | @digits blanks sign digits run hblanks hsign nonempty short values bound =>
    refine ((isPassed_blanks hblanks).append ?_).append (isPassed_run ?_)
    · rcases hsign with rfl | rfl | rfl
      · exact isPassed_nil
      · exact .cons rfl isPassed_nil
      · exact .cons rfl isPassed_nil
    · intro c mem
      exact isScanned_of_class (p := isDigitSign) (by decide)
        (isDigitSign_of_mapM values c mem)
  | @group blanks text closing n depth hblanks inner hclosing ih =>
    have front := isPassed_blanks hblanks
    have back := isPassed_blanks hclosing
    simpa using front.append (isPassed_group (ih.append back))

/-- The scan passes every part of a unit text. -/
theorem Derives.isPassed {part : Part} {text after : List Char} {e : UnitExpr} {k d : Nat}
    (h : Derives part text after e k d) : IsPassed text := by
  induction h with
  | name start run maximal =>
    refine isPassed_run (List.forall_mem_cons.2 ⟨?_, fun c mem => ?_⟩)
    · exact isScanned_of_class (p := isNameChar) (by decide)
        (Bool.and_eq_true_iff.1 start).1
    · exact isScanned_of_class (p := isNameChar) (by decide) (run c mem)
  | one maximal => exact .cons rfl isPassed_nil
  | @group text closing after e k d inner hclosing ih =>
    have back := isPassed_blanks hclosing
    simpa using isPassed_group (ih.append back)
  | bare factor ih => exact ih
  | @power base blanks sign exponent after e n k d l factor hblanks hsign hexponent ih =>
    have gap := isPassed_blanks hblanks
    have power : IsPassed sign := by
      rcases hsign with rfl | rfl
      · exact .cons rfl isPassed_nil
      · exact isPassed_stars
    exact ((ih.append gap).append power).append (isPassed_exponent hexponent)
  | @superscript base blanks raised after e n k d factor hblanks nonempty run maximal value bound
    ih =>
    have gap := isPassed_blanks hblanks
    refine (ih.append gap).append (isPassed_run fun c mem => ?_)
    exact isScanned_of_class (p := isSuperscript) (by decide) (run c mem)
  | single hblanks term ih =>
    exact (isPassed_blanks hblanks).append ih
  | @joined left before behind right after sign joint e f k l d m first hbefore hsign hbehind last
      ihFirst ihLast =>
    obtain ⟨c, tail, rfl, start⟩ := last.begins_term
    have gap := isPassed_blanks hbefore
    have back := isPassed_blanks hbehind
    have term : IsPassed (sign :: (behind ++ c :: tail)) := by
      intro depth rest scan
      -- behind the sign no second star follows, so that the scan counts it as a sign
      have single : (behind ++ c :: (tail ++ rest)).head? ≠ some '*' := head?_ne_star hbehind start
      have scan : isSingleTermAt depth (sign :: (behind ++ c :: (tail ++ rest))) = true := by
        simpa using scan
      have last := (isSingleTermAt_sign hsign single scan).2
      exact (back.append ihLast) (by simpa using last)
    simpa using (ihFirst.append gap).append term
  | @juxtaposed left between right after e f k l d m first hbetween nonempty begins last
      ihFirst ihLast =>
    have gap := isPassed_blanks hbetween
    exact (ihFirst.append gap).append ihLast

/-- An expression in which the scan finds no sign outside parentheses is one term. -/
theorem Derives.term_of_isSingleTermAt {text after : List Char} {e : UnitExpr} {k d : Nat}
    (h : Derives .expression text after e k d) (single : isSingleTermAt 0 text = true) :
    Derives .term text after e k d := by
  cases h with
  | @single blanks text after e k d hblanks term =>
    cases blanks with
    | nil => exact term
    | cons b blanks =>
      rw [List.cons_append, isSingleTermAt_blank hblanks.of_cons.1] at single
      cases single
  | @joined left before behind right after sign joint e f k l d m first hbefore hsign hbehind
    last =>
    obtain ⟨c, tail, rfl, start⟩ := last.begins_term
    have scan : isSingleTermAt 0 (before ++ sign :: (behind ++ c :: tail)) = true := by
      rw [List.append_assoc, List.append_assoc] at single
      exact first.isPassed single
    cases before with
    | nil =>
      exact absurd rfl (isSingleTermAt_sign hsign (head?_ne_star hbehind start) scan).1
    | cons b before =>
      rw [List.cons_append, isSingleTermAt_blank hbefore.of_cons.1] at scan
      cases scan
  | @juxtaposed left between right after e f k l d m first hbetween nonempty begins last =>
    have scan : isSingleTermAt 0 (between ++ right) = true := by
      rw [List.append_assoc] at single
      exact first.isPassed single
    cases between with
    | nil => exact absurd rfl nonempty
    | cons b between =>
      rw [List.cons_append, isSingleTermAt_blank hbetween.of_cons.1] at scan
      cases scan

end Metrology.UnitExpr
