import Metrology.Proofs.UnitExpr.Exponents

/-!
# Reading powers

Behind a factor the reader takes exactly the power that the grammar derives there, and none where
the text that follows ends the term (`power_of_endsTerm`, `power_append`, `superscript_append`,
`Derives.of_power`).
-/

namespace Metrology.UnitExpr

open Text Reader

/-! ## The ends of terms -/

/-- The characters that may stand directly behind a term. -/
def isBoundary (c : Char) : Bool := isBlank c || c == '*' || c == '/' || c == '·' || c == ')'

/-- Nothing that stands here belongs to a term in front of it: no character that would lengthen
its last run and, behind blanks, no power. -/
structure EndsTerm (after : List Char) : Prop where
  boundary : ∀ c ∈ after.head?, isBoundary c = true
  noPower : ∀ c rest, skipBlanks after = c :: rest →
    c ≠ '^' ∧ Label.isSuperscript c = false ∧ (c = '*' → rest.head? ≠ some '*')

/-- The characters with which a term begins. -/
def isTermStart (c : Char) : Bool := c == '(' || c == '1' || isNameStart c

theorem isBoundary_iff {c : Char} :
    isBoundary c = true ↔ isBlank c = true ∨ c = '*' ∨ c = '/' ∨ c = '·' ∨ c = ')' := by
  simp [isBoundary, or_assoc]

theorem isNameChar_of_isBlank {c : Char} (h : isBlank c = true) : isNameChar c = false := by
  simp [isNameChar, h]

theorem isNumberChar_of_isBlank {c : Char} (h : isBlank c = true) : isNumberChar c = false := by
  rw [isNumberChar, isDigitSign_of_isBlank h, Bool.false_or, beq_eq_false_iff_ne]
  rintro rfl
  exact absurd h (by decide)

/-- A boundary belongs to no run that a derivation takes whole. -/
theorem runClasses_of_isBoundary {c : Char} (h : isBoundary c = true) {p : Char → Bool}
    (mem : p ∈ runClasses) : p c = false := by
  rcases isBoundary_iff.1 h with blank | rfl | rfl | rfl | rfl
  · simp only [runClasses, List.mem_cons, List.not_mem_nil, or_false] at mem
    rcases mem with rfl | rfl | rfl
    · exact isNameChar_of_isBlank blank
    · exact isNumberChar_of_isBlank blank
    · exact isSuperscript_of_isBlank blank
  · revert p
    decide
  · revert p
    decide
  · revert p
    decide
  · revert p
    decide

theorem goesOn_of_isBoundary {c : Char} (h : isBoundary c = true) : goesOn c = false := by
  rcases isBoundary_iff.1 h with blank | rfl | rfl | rfl | rfl
  · exact goesOn_of_isBlank blank
  · decide
  · decide
  · decide
  · decide

theorem EndsTerm.stopsAt_goesOn {after : List Char} (h : EndsTerm after) : StopsAt goesOn after :=
  fun c front => goesOn_of_isBoundary (h.boundary c front)

/-- Blanks at the end of a text end a term. -/
theorem endsTerm_of_blanks {blanks : List Char} (h : Blanks blanks) : EndsTerm blanks := by
  refine ⟨fun c front => ?_, fun c rest skipped => ?_⟩
  · exact isBoundary_iff.2 (.inl (h c (List.mem_of_mem_head? front)))
  · rw [skipBlanks_of_blanks h] at skipped
    cases skipped

/-- Behind blanks, a character ends a term if it begins no power and does not touch the term. -/
theorem endsTerm_append {blanks rest : List Char} {c : Char} (h : Blanks blanks)
    (apart : blanks ≠ [] ∨ isBoundary c = true) (solid : isBlank c = false) (caret : c ≠ '^')
    (raised : Label.isSuperscript c = false) (stars : c = '*' → rest.head? ≠ some '*') :
    EndsTerm (blanks ++ c :: rest) := by
  refine ⟨fun d front => ?_, fun d tail skipped => ?_⟩
  · -- the character that touches the term is the first blank, or `c` where there is none
    cases blanks with
    | nil =>
      cases front
      exact apart.resolve_left (fun nonempty => nonempty rfl)
    | cons b blanks =>
      cases front
      exact isBoundary_iff.2 (.inl h.of_cons.1)
  · rw [skipBlanks_append h, skipBlanks_cons_of_not _ solid] at skipped
    cases skipped
    exact ⟨caret, raised, stars⟩

/-! ## The beginnings of terms -/

theorem isTermStart_iff {c : Char} :
    isTermStart c = true ↔ c = '(' ∨ c = '1' ∨ isNameStart c = true := by
  simp [isTermStart, or_assoc]

/-- The first character of a term is no blank and no sign of an operator. -/
theorem solid_of_isTermStart {c : Char} (h : isTermStart c = true) :
    isBlank c = false ∧ isBoundary c = false ∧ c ≠ '^' ∧ Label.isSuperscript c = false := by
  rcases isTermStart_iff.1 h with rfl | rfl | start
  · decide
  · decide
  · -- no character of a name is a blank, an operator or a superscript
    simp only [isNameStart, isNameChar, isOperatorChar, Bool.and_eq_true, Bool.not_eq_true',
      Bool.or_eq_false_iff, beq_eq_false_iff_ne] at start
    obtain ⟨⟨⟨⟨⟨⟨blank, signs⟩, raised⟩, -⟩, -⟩, -⟩, -⟩ := start
    obtain ⟨⟨⟨⟨⟨star, slash⟩, dot⟩, caret⟩, -⟩, closing⟩ := signs
    refine ⟨blank, ?_, caret, raised⟩
    simp [isBoundary, blank, star, slash, dot, closing]

theorem Derives.begins_factor {text after : List Char} {e : UnitExpr} {k d : Nat}
    (h : Derives .factor text after e k d) : ∃ c rest, text = c :: rest ∧ isTermStart c = true := by
  cases h with
  | name start run maximal => exact ⟨_, _, rfl, isTermStart_iff.2 (.inr (.inr start))⟩
  | one maximal => exact ⟨'1', [], rfl, by decide⟩
  | group inner hclosing => exact ⟨'(', _, rfl, by decide⟩

theorem Derives.begins_term {text after : List Char} {e : UnitExpr} {k d : Nat}
    (h : Derives .term text after e k d) : ∃ c rest, text = c :: rest ∧ isTermStart c = true := by
  cases h with
  | bare factor => exact factor.begins_factor
  | power factor hblanks hsign hexponent =>
    obtain ⟨c, rest, rfl, start⟩ := factor.begins_factor
    exact ⟨c, _, rfl, start⟩
  | superscript factor hblanks nonempty run maximal value bounded =>
    obtain ⟨c, rest, rfl, start⟩ := factor.begins_factor
    exact ⟨c, _, rfl, start⟩

/-! ## Powers -/

/-- No power is read where the text that follows ends the term. -/
theorem power_of_endsTerm {size levels : Nat} {e : UnitExpr} {after : List Char}
    (ends : EndsTerm after) : power size levels e after = .ok (e, after) := by
  unfold power
  split
  · next rest skipped => exact absurd rfl ((ends.noPower _ _ skipped).2.2 rfl)
  · next rest skipped => exact absurd rfl (ends.noPower _ _ skipped).1
  · next c rest _ _ skipped => simp [(ends.noPower _ _ skipped).2.1]
  · rfl

theorem power_append {size levels l : Nat} {e : UnitExpr} {blanks sign text after : List Char}
    {n : Int} (hblanks : Blanks blanks) (hsign : sign = ['^'] ∨ sign = ['*', '*'])
    (h : Exponent text n l) (deep : l ≤ levels) (stop : StopsAt goesOn after) :
    power size levels e (blanks ++ sign ++ text ++ after) = .ok (e.toPower n, after) := by
  have read := exponent_of_derived size h deep stop
  have shape : blanks ++ sign ++ text ++ after = blanks ++ (sign ++ (text ++ after)) := by simp
  rw [shape, power, skipBlanks_append hblanks]
  rcases hsign with rfl | rfl
  · rw [List.singleton_append, skipBlanks_cons_of_not _ (by decide)]
    simp only [read, Except.map]
  · rw [List.cons_append, List.singleton_append, skipBlanks_cons_of_not _ (by decide)]
    simp only [read, Except.map]

/-- The text of superscripts that is an integer is read as that integer. -/
theorem superscript_eq_ok_iff {size : Nat} {raised after : List Char} {n : Int} {rest : List Char}
    (run : ∀ c ∈ raised, Label.isSuperscript c = true)
    (maximal : StopsAt Label.isSuperscript after) :
    superscript size (raised ++ after) = .ok (n, rest) ↔
      Number.integer? (String.ofList (raised.map Label.lower)) = some n ∧
        n.natAbs ≤ exponentLimit ∧ after = rest := by
  rw [superscript, takeWhile_append_of_stopsAt run maximal, dropWhile_append_of_stopsAt run maximal]
  cases value : Number.integer? (String.ofList (raised.map Label.lower)) with
  | none => simp
  | some m =>
    simp only [map_eq_ok_iff, bounded_eq_ok_iff, Prod.mk.injEq, Option.some.injEq]
    constructor
    · rintro ⟨_, ⟨bound, rfl⟩, rfl, rfl⟩
      exact ⟨rfl, bound, rfl⟩
    · rintro ⟨rfl, bound, rfl⟩
      exact ⟨m, ⟨bound, rfl⟩, rfl, rfl⟩

/-- A superscript is no other sign of a power. -/
theorem ne_of_isSuperscript {c : Char} (h : Label.isSuperscript c = true) : c ≠ '*' ∧ c ≠ '^' := by
  constructor
  · rintro rfl
    exact absurd h (by decide)
  · rintro rfl
    exact absurd h (by decide)

theorem isBlank_of_isSuperscript {c : Char} (h : Label.isSuperscript c = true) :
    isBlank c = false := by
  cases blank : isBlank c with
  | false => rfl
  | true => exact absurd h (by simp [isSuperscript_of_isBlank blank])

/-- In front of a superscript, a power is read as superscripts are. -/
theorem power_of_isSuperscript {size levels : Nat} {e : UnitExpr} {cs rest : List Char} {c : Char}
    (skipped : skipBlanks cs = c :: rest) (raised : Label.isSuperscript c = true) :
    power size levels e cs =
      (superscript size (c :: rest)).map fun (n, after) => (e.toPower n, after) := by
  obtain ⟨star, caret⟩ := ne_of_isSuperscript raised
  unfold power
  split
  · next same =>
    rw [skipped] at same
    exact absurd (List.cons.inj same).1 star
  · next same =>
    rw [skipped] at same
    exact absurd (List.cons.inj same).1 caret
  · next d tail _ _ same =>
    rw [skipped] at same
    cases same
    rw [if_pos raised]
  · next same =>
    rw [skipped] at same
    cases same

theorem power_superscript_append {size levels : Nat} {e : UnitExpr}
    {blanks raised after : List Char} {n : Int} (hblanks : Blanks blanks) (nonempty : raised ≠ [])
    (run : ∀ c ∈ raised, Label.isSuperscript c = true)
    (maximal : StopsAt Label.isSuperscript after)
    (value : Number.integer? (String.ofList (raised.map Label.lower)) = some n)
    (bound : n.natAbs ≤ exponentLimit) :
    power size levels e (blanks ++ raised ++ after) = .ok (e.toPower n, after) := by
  have read : superscript size (raised ++ after) = .ok (n, after) :=
    (superscript_eq_ok_iff run maximal).2 ⟨value, bound, rfl⟩
  cases raised with
  | nil => exact absurd rfl nonempty
  | cons c raised =>
    have super := run c List.mem_cons_self
    have skipped : skipBlanks (blanks ++ c :: raised ++ after) = c :: (raised ++ after) := by
      rw [List.append_assoc, skipBlanks_append hblanks, List.cons_append,
        skipBlanks_cons_of_not _ (isBlank_of_isSuperscript super)]
    rw [List.cons_append] at read
    rw [power_of_isSuperscript skipped super, read]
    rfl

/-- What is read behind a factor is a power of it, or nothing. -/
theorem Derives.of_power {size levels : Nat} {base cs after : List Char} {e f : UnitExpr}
    {k d : Nat} (factor : Derives .factor base cs e k d) (deep : d ≤ levels)
    (h : Reader.power size levels e cs = .ok (f, after)) :
    ∃ text l, cs = text ++ after ∧ Derives .term (base ++ text) after f k l ∧ l ≤ levels := by
  obtain ⟨blanks, hblanks, front⟩ := exists_blanks cs
  have bare : ∃ text l, cs = text ++ cs ∧ Derives .term (base ++ text) cs e k l ∧ l ≤ levels := by
    refine ⟨[], d, rfl, ?_, deep⟩
    rw [List.append_nil]
    exact .bare factor
  -- both signs of a power are followed by an exponent
  have signed {sign rest : List Char} (hsign : sign = ['^'] ∨ sign = ['*', '*'])
      (skipped : skipBlanks cs = sign ++ rest)
      (read : (exponent size levels rest).map (fun (n, after) => (e.toPower n, after)) =
        .ok (f, after)) :
      ∃ text l, cs = text ++ after ∧ Derives .term (base ++ text) after f k l ∧ l ≤ levels := by
    obtain ⟨⟨n, behind⟩, read, same⟩ := map_eq_ok_iff.1 read
    cases same
    obtain ⟨text, l, rfl, derived, low⟩ := derived_of_exponent read
    have shape : cs = blanks ++ sign ++ text ++ after := by
      rw [front, skipped]
      simp
    refine ⟨blanks ++ sign ++ text, max d l, shape, ?_, Nat.max_le.2 ⟨deep, low⟩⟩
    rw [← List.append_assoc, ← List.append_assoc]
    exact .power (shape ▸ factor) hblanks hsign derived
  unfold Reader.power at h
  split at h
  · next rest skipped => exact signed (.inr rfl) skipped h
  · next rest skipped => exact signed (.inl rfl) skipped h
  · next c rest _ _ skipped =>
    split at h
    · next super =>
      obtain ⟨⟨n, behind⟩, read, same⟩ := map_eq_ok_iff.1 h
      cases same
      -- all superscripts that stand here are taken, so that the run is maximal
      have run := forall_takeWhile Label.isSuperscript (c :: rest)
      have maximal := stopsAt_dropWhile Label.isSuperscript (c :: rest)
      rw [← List.takeWhile_append_dropWhile (p := Label.isSuperscript) (l := c :: rest),
        superscript_eq_ok_iff run maximal] at read
      obtain ⟨value, bound, rfl⟩ := read
      have nonempty : (c :: rest).takeWhile Label.isSuperscript ≠ [] := by simp [super]
      have shape : cs = blanks ++ (c :: rest).takeWhile Label.isSuperscript ++
          (c :: rest).dropWhile Label.isSuperscript := by
        rw [List.append_assoc, List.takeWhile_append_dropWhile, ← skipped]
        exact front
      refine ⟨_, d, shape, ?_, deep⟩
      rw [← List.append_assoc]
      exact .superscript (shape ▸ factor) hblanks nonempty run maximal value bound
    · cases h
      exact bare
  · cases h
    exact bare

end Metrology.UnitExpr
