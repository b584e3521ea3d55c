import Metrology.Proofs.Success
import Metrology.Proofs.UnitExpr.Grammar

/-!
# Reading exponents

The reader of exponents accepts exactly the texts that the grammar derives, each with the integer
that it spells, as long as enough levels of parentheses are left (`exponent_of_derived`,
`derived_of_exponent`).
-/

namespace Metrology.UnitExpr

open Text Reader

/-- The characters with which a number would go on behind its digits. -/
def goesOn (c : Char) : Bool := isDigitSign c || c == '.' || c == 'e' || c == 'E'

theorem goesOn_of_isBlank {c : Char} (h : isBlank c = true) : goesOn c = false :=
  forall_isBlank (p := fun c => goesOn c = false) (by decide) h

theorem bounded_eq_ok_iff {size : Nat} {rest : List Char} {n m : Int} :
    bounded size rest n = .ok m ↔ n.natAbs ≤ exponentLimit ∧ n = m := by
  unfold bounded
  split
  · next large => simp [Nat.not_le.2 large]
  · next small => simp [Nat.not_lt.1 small]

/-! ## Integers -/

theorem isSign_signText (cs : List Char) : IsSign (signText cs) := by
  unfold signText
  split
  · exact .inr (.inl rfl)
  · exact .inr (.inr rfl)
  · exact .inl rfl

theorem signText_append_drop (cs : List Char) :
    signText cs ++ cs.drop (signText cs).length = cs := by
  unfold signText
  split
  · rfl
  · rfl
  · rfl

/-- In front of a digit only the sign that is there is read as one. -/
theorem signText_append {sign : List Char} (hsign : IsSign sign) {d : Char} {rest : List Char}
    (digit : isDigitSign d = true) : signText (sign ++ d :: rest) = sign := by
  rcases hsign with rfl | rfl | rfl
  · -- without a sign, the digit itself is none
    have plus : d ≠ '+' := by
      rintro rfl
      exact absurd digit (by decide)
    have minus : d ≠ '-' := by
      rintro rfl
      exact absurd digit (by decide)
    simp [signText, plus, minus]
  · rfl
  · rfl

theorem isDecimalDigit_of_mapM {digits : List Char} {run : List Nat}
    (values : digits.mapM digitValue? = some run) : ∀ d ∈ digits, isDecimalDigit d = true := by
  induction digits generalizing run with
  | nil =>
    intro d mem
    cases mem
  | cons c digits ih =>
    simp only [List.mapM_cons, Option.bind_eq_bind, Option.bind_eq_some_iff,
      Option.pure_def] at values
    obtain ⟨v, value, rest, values, -⟩ := values
    intro d mem
    rcases List.mem_cons.1 mem with rfl | mem
    · rw [isDecimalDigit, value]
      rfl
    · exact ih values d mem

theorem isDigitSign_of_mapM {digits : List Char} {run : List Nat}
    (values : digits.mapM digitValue? = some run) : ∀ d ∈ digits, isDigitSign d = true :=
  fun d mem => isDigitSign_of_isDecimalDigit (isDecimalDigit_of_mapM values d mem)

theorem startsFraction_eq_false {after : List Char} (stop : StopsAt goesOn after) :
    startsFraction after = false := by
  cases after with
  | nil => rfl
  | cons c after =>
    have stop := stopsAt_cons.1 stop
    simp only [goesOn, Bool.or_eq_false_iff] at stop
    simp [startsFraction, stop]

theorem stopsAt_isDigitSign {after : List Char} (stop : StopsAt goesOn after) :
    StopsAt isDigitSign after := by
  intro c mem
  have stop := stop c mem
  simp only [goesOn, Bool.or_eq_false_iff] at stop
  exact stop.1.1.1

/-- An integer is read as what it spells, whatever else follows it. -/
theorem integer_append (size : Nat) {sign digits after : List Char} {run : List Nat}
    (hsign : IsSign sign) (nonempty : digits ≠ []) (short : digits.length ≤ 4)
    (values : digits.mapM digitValue? = some run)
    (bound : (signed sign run).natAbs ≤ exponentLimit) (stop : StopsAt goesOn after) :
    integer size (sign ++ digits ++ after) = .ok (signed sign run, after) := by
  have all := isDigitSign_of_mapM values
  have front : signText (sign ++ digits ++ after) = sign := by
    cases digits with
    | nil => exact absurd rfl nonempty
    | cons d digits =>
      rw [List.append_assoc, List.cons_append]
      exact signText_append hsign (all d List.mem_cons_self)
  have body : (sign ++ digits ++ after).drop sign.length = digits ++ after := by
    rw [List.append_assoc, List.drop_left]
  have limit : bounded size (sign ++ digits ++ after) (signed sign run) = .ok (signed sign run) :=
    bounded_eq_ok_iff.2 ⟨bound, rfl⟩
  unfold integer
  simp only [front, body, takeWhile_append_of_stopsAt all (stopsAt_isDigitSign stop),
    dropWhile_append_of_stopsAt all (stopsAt_isDigitSign stop), nonempty,
    startsFraction_eq_false stop, Nat.not_lt.2 short, values, false_or, if_false,
    Bool.false_eq_true]
  rw [signed] at limit ⊢
  rw [limit]

/-- What is read as an integer is one. -/
theorem derived_of_integer {size : Nat} {cs after : List Char} {n : Int}
    (h : integer size cs = .ok (n, after)) :
    ∃ sign digits run, cs = sign ++ digits ++ after ∧ IsSign sign ∧ digits ≠ [] ∧
      digits.length ≤ 4 ∧ digits.mapM digitValue? = some run ∧ n = signed sign run ∧
      n.natAbs ≤ exponentLimit := by
  unfold integer at h
  simp only at h
  split at h
  · cases h
  · next proper =>
    split at h
    · cases h
    · next short =>
      split at h
      · cases h
      · next run values =>
        split at h
        · next m limit =>
          cases h
          obtain ⟨bound, same⟩ := bounded_eq_ok_iff.1 limit
          refine ⟨signText cs, _, run, ?_, isSign_signText cs, (not_or.1 proper).1,
            Nat.not_lt.1 short, values, same.symm, same ▸ bound⟩
          rw [List.append_assoc, List.takeWhile_append_dropWhile, signText_append_drop]
        · cases h

/-! ## Parentheses -/

theorem close_append (size : Nat) {closing : List Char} (hclosing : Blanks closing)
    (after : List Char) : close size (closing ++ ')' :: after) = .ok after := by
  rw [close, skipBlanks_append hclosing, skipBlanks_cons_of_not _ (by decide)]
  rfl

theorem derived_of_close {size : Nat} {cs after : List Char} (h : close size cs = .ok after) :
    ∃ closing, Blanks closing ∧ cs = closing ++ ')' :: after := by
  obtain ⟨closing, hclosing, same⟩ := exists_blanks cs
  rw [close] at h
  split at h
  · next rest skipped =>
    cases h
    rw [skipped] at same
    exact ⟨closing, hclosing, same⟩
  · cases h

/-- Neither a sign nor a digit is a parenthesis. -/
theorem ne_paren_of_sign_digits {sign digits after rest : List Char} {c : Char}
    (hsign : IsSign sign) (nonempty : digits ≠ []) (all : ∀ d ∈ digits, isDigitSign d = true)
    (h : sign ++ digits ++ after = c :: rest) : c ≠ '(' ∧ isBlank c = false := by
  have digit {d : Char} (sign : isDigitSign d = true) : d ≠ '(' ∧ isBlank d = false := by
    constructor
    · rintro rfl
      exact absurd sign (by decide)
    · cases blank : isBlank d with
      | false => rfl
      | true => exact absurd sign (by simp [isDigitSign_of_isBlank blank])
  rcases hsign with rfl | rfl | rfl
  · cases digits with
    | nil => exact absurd rfl nonempty
    | cons d digits =>
      cases h
      exact digit (all _ List.mem_cons_self)
  · cases h
    exact ⟨by decide, by decide⟩
  · cases h
    exact ⟨by decide, by decide⟩

/-- Exponents that the grammar derives are read, by as many levels as they nest parentheses. -/
theorem exponent_of_derived (size : Nat) {text after : List Char} {n : Int} {d levels : Nat}
    (h : Exponent text n d) (deep : d ≤ levels) (stop : StopsAt goesOn after) :
    exponent size levels (text ++ after) = .ok (n, after) := by
  induction h generalizing levels after with
  | @digits blanks sign digits run hblanks hsign nonempty short values bound =>
    have read := integer_append size hsign nonempty short values bound stop
    have all := isDigitSign_of_mapM values
    have shape : blanks ++ sign ++ digits ++ after = blanks ++ (sign ++ digits ++ after) := by simp
    -- the first character decides between digits and a group
    cases front : sign ++ digits ++ after with
    | nil =>
      have empty : digits = [] := by simp_all
      exact absurd empty nonempty
    | cons c rest =>
      obtain ⟨paren, blank⟩ := ne_paren_of_sign_digits hsign nonempty all front
      rw [front] at read shape
      rw [shape, exponent, skipBlanks_append hblanks, skipBlanks_cons_of_not _ blank]
      split
      · next same => exact absurd (List.cons.inj same).1 paren
      · exact read
  | @group blanks text closing n depth hblanks inner hclosing ih =>
    cases levels with
    | zero => omega
    | succ levels =>
      -- what follows the inner exponent is blanks and a parenthesis, which end a number
      have shape : blanks ++ '(' :: text ++ closing ++ [')'] ++ after =
          blanks ++ '(' :: (text ++ (closing ++ ')' :: after)) := by simp
      have stop : StopsAt goesOn (closing ++ ')' :: after) :=
        .of_blanks (fun c => goesOn_of_isBlank) hclosing (stopsAt_cons.2 (by decide))
      rw [shape, exponent, skipBlanks_append hblanks, skipBlanks_cons_of_not _ (by decide)]
      simp only [ih (Nat.le_of_succ_le_succ deep) stop, close_append size hclosing, Except.map]

theorem derived_of_integer_skipBlanks {size : Nat} {cs after : List Char} {n : Int}
    (h : integer size (skipBlanks cs) = .ok (n, after)) :
    ∃ text, cs = text ++ after ∧ Exponent text n 0 := by
  obtain ⟨blanks, hblanks, same⟩ := exists_blanks cs
  obtain ⟨sign, digits, run, shape, hsign, nonempty, short, values, rfl, bound⟩ :=
    derived_of_integer h
  refine ⟨blanks ++ sign ++ digits, ?_, .digits hblanks hsign nonempty short values bound⟩
  rw [same, shape]
  simp

/-- What is read as an exponent is one, with no more levels of parentheses than were left. -/
theorem derived_of_exponent {size levels : Nat} {cs after : List Char} {n : Int}
    (h : exponent size levels cs = .ok (n, after)) :
    ∃ text d, cs = text ++ after ∧ Exponent text n d ∧ d ≤ levels := by
  induction levels generalizing cs after with
  | zero =>
    rw [exponent] at h
    split at h
    · cases h
    · obtain ⟨text, shape, derived⟩ := derived_of_integer_skipBlanks h
      exact ⟨text, 0, shape, derived, Nat.le_refl 0⟩
  | succ levels ih =>
    rw [exponent] at h
    split at h
    · next rest skipped =>
      dsimp only at h
      split at h
      · next m inside read =>
        obtain ⟨behind, closed, same⟩ := map_eq_ok_iff.1 h
        cases same
        obtain ⟨blanks, hblanks, front⟩ := exists_blanks cs
        obtain ⟨text, d, rfl, derived, deep⟩ := ih read
        obtain ⟨closing, hclosing, rfl⟩ := derived_of_close closed
        refine ⟨blanks ++ '(' :: text ++ closing ++ [')'], d + 1, ?_,
          .group hblanks derived hclosing, Nat.succ_le_succ deep⟩
        rw [front, skipped]
        simp
      · cases h
    · obtain ⟨text, shape, derived⟩ := derived_of_integer_skipBlanks h
      exact ⟨text, 0, shape, derived, Nat.zero_le _⟩

end Metrology.UnitExpr
