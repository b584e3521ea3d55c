import Mathlib.Data.Bool.AllAny
import Metrology.Proofs.UnitExpr.PowerPlaces

/-!
# Superscripts behind their factors

A run of superscripts raises the factor that it stands behind. It need not touch this factor: blanks
may stand between the two, and which blanks these are makes no difference to what the text means.
Only the factor one needs a blank where the superscript behind it is a digit. Main statement:
`exists_factor_of_superscripts`.
-/

namespace Metrology.UnitExpr

open Text

/-! ## The ends of factors -/

/-- The characters that a factor ends in. -/
def isFactorEnd (c : Char) : Bool := isNameChar c || c == '1' || c == ')'

theorem Derives.ends_factor {text after : List Char} {e : UnitExpr} {k d : Nat}
    (h : Derives .factor text after e k d) :
    ∃ c, text.getLast? = some c ∧ isFactorEnd c = true := by
  cases h with
  | @name c rest after start run maximal =>
    obtain ⟨d, last⟩ : ∃ d, (c :: rest).getLast? = some d := ⟨_, List.getLast?_cons⟩
    refine ⟨d, last, ?_⟩
    rw [isFactorEnd, forall_isNameChar start run d (List.mem_of_getLast? last)]
    rfl
  | one => exact ⟨'1', rfl, by decide⟩
  | group => exact ⟨')', List.getLast?_concat, by decide⟩

/-- What stands behind a factor matters only where it would lengthen a name, or the number one. -/
theorem Derives.factor_congr {text after after' : List Char} {e : UnitExpr} {k d : Nat}
    (h : Derives .factor text after e k d) (name : StopsAt isNameChar after')
    (one : text = ['1'] → StopsAt isNumberChar after') : Derives .factor text after' e k d := by
  cases h with
  | name start run maximal => exact .name start run name
  | one maximal => exact .one (one rfl)
  | @group text closing after e k d inner hclosing =>
    refine .group (inner.congr_after fun p _ stop => ?_) hclosing
    rw [List.append_cons] at stop ⊢
    exact stop.congr_append (by simp) after'

/-! ## Runs of superscripts -/

theorem isPowerSign_of_isDecimalDigit {c : Char} (h : isDecimalDigit c = true) :
    isPowerSign c = false := by
  cases power : isPowerSign c with
  | false => rfl
  | true =>
    rcases isPowerSign_iff.1 power with rfl | raised
    · exact absurd h (by decide)
    · rw [isDecimalDigit_of_isSuperscript raised] at h
      cases h

theorem Exponent.isPowerSign_eq_false {text : List Char} {n : Int} {d : Nat}
    (h : Exponent text n d) : ∀ c ∈ text, isPowerSign c = false := by
  induction h with
  | @digits blanks sign digits run hblanks hsign nonempty short values bounded =>
    have signs : ∀ c ∈ sign, isPowerSign c = false := by
      rcases hsign with rfl | rfl | rfl
      · exact List.forall_mem_nil _
      · exact List.forall_mem_singleton.2 (by decide)
      · exact List.forall_mem_singleton.2 (by decide)
    refine List.forall_mem_append.2 ⟨List.forall_mem_append.2 ⟨isPowerSign_of_blanks hblanks, signs⟩, ?_⟩
    exact fun c mem => isPowerSign_of_isDecimalDigit (isDecimalDigit_of_mapM values c mem)
  | @group blanks text closing n depth hblanks inner hclosing ih =>
    have shape : blanks ++ '(' :: text ++ closing ++ [')'] =
        blanks ++ (['('] ++ (text ++ (closing ++ [')']))) := by simp
    rw [shape]
    simp only [List.forall_mem_append]
    exact ⟨isPowerSign_of_blanks hblanks, List.forall_mem_singleton.2 (by decide), ih,
      isPowerSign_of_blanks hclosing, List.forall_mem_singleton.2 (by decide)⟩

/-- A power that holds a superscript, and none in front of it, is a run of superscripts. -/
theorem Raising.superscripts {mark front behind after : List Char} {c : Char} {n : Int} {d : Nat}
    (h : Raising mark after n d) (shape : mark = front ++ c :: behind)
    (raised : Label.isSuperscript c = true)
    (first : ∀ c ∈ front.getLast?, Label.isSuperscript c = false) :
    front = [] ∧ (∀ c ∈ mark, Label.isSuperscript c = true) ∧
      StopsAt Label.isSuperscript after ∧
      Number.integer? (String.ofList (mark.map Label.lower)) = some n := by
  cases h with
  | @sign sign exponent after n d hsign hexponent =>
    -- neither a sign nor an exponent holds a superscript
    have none : ∀ c ∈ sign ++ exponent, Label.isSuperscript c = false := by
      refine List.forall_mem_append.2 ⟨?_, fun c mem => ?_⟩
      · rcases hsign with rfl | rfl
        · exact List.forall_mem_singleton.2 (by decide)
        · exact List.all_iff_forall_prop.1 (by decide)
      · exact (Bool.or_eq_false_iff.1 (hexponent.isPowerSign_eq_false c mem)).2
    rw [none c (by simp [shape])] at raised
    cases raised
  | superscript nonempty run maximal value bounded =>
    refine ⟨?_, run, maximal, value⟩
    cases last : front.getLast? with
    | none => exact List.getLast?_eq_none_iff.1 last
    | some b =>
      have low := first b last
      rw [run b (by simp [shape, List.mem_of_getLast? last])] at low
      cases low

theorem not_mem_strayChars_of_isBlank {c : Char} (h : isBlank c = true) : c ∉ strayChars :=
  forall_isBlank (p := fun c => c ∉ strayChars) (by decide) h

section Runs

variable {front raised rest : List Char} {e : UnitExpr}

/-- A run of superscripts in a text that is read is the power of a place. -/
theorem exists_place_of_superscripts {text : List Char} (read : ofChars text = .ok e)
    (shape : text = front ++ raised ++ rest) (nonempty : raised ≠ [])
    (run : ∀ c ∈ raised, Label.isSuperscript c = true)
    (first : ∀ c ∈ front.getLast?, Label.isSuperscript c = false)
    (last : StopsAt Label.isSuperscript rest) :
    ∃ k d, ∃ p : Place Spells text [] e k d, front = p.outer ++ p.base ++ p.blanks ∧
      raised = p.mark ∧ rest = p.rest ∧
      Number.integer? (String.ofList (raised.map Label.lower)) = some p.exponent ∧
      k ≤ operatorLimit ∧ d ≤ nestingLimit := by
  obtain ⟨c, tail, rfl⟩ := List.exists_cons_of_ne_nil nonempty
  have high := run c List.mem_cons_self
  rw [List.append_assoc] at shape
  obtain ⟨k, d, p, ⟨inside, behind, mark, before, after⟩, few, flat⟩ :=
    exists_place_of_ofChars read shape (isPowerSign_iff.2 (.inr high))
  obtain ⟨rfl, runs, stops, value⟩ := p.raises.superscripts mark high fun b mem =>
    first b (by
      rw [before, List.getLast?_append, mem]
      rfl)
  rw [List.nil_append] at mark
  rw [List.append_nil] at before stops
  -- the run that is read is the whole run that stands there
  have same : p.mark ++ p.rest = c :: tail ++ rest := by rw [mark, List.cons_append, ← after]; rfl
  have cut := congrArg (List.takeWhile Label.isSuperscript) same
  rw [takeWhile_append_of_stopsAt runs stops, takeWhile_append_of_stopsAt run last] at cut
  rw [cut] at same value
  exact ⟨k, d, p, before, cut.symm, (List.append_cancel_left same).symm, value, few, flat⟩

/-- A run of superscripts in a text that is read raises the factor in front of it, which it touches
or is apart from by blanks alone; and with any other blanks there, or none, the text is read as the
same expression, unless a superscript digit comes to touch the number one. -/
theorem exists_factor_of_superscripts (read : ofChars (front ++ raised ++ rest) = .ok e)
    (nonempty : raised ≠ []) (run : ∀ c ∈ raised, Label.isSuperscript c = true)
    (first : ∀ c ∈ front.getLast?, Label.isSuperscript c = false)
    (last : StopsAt Label.isSuperscript rest) :
    ∃ outer base blanks K f n k d, front = outer ++ base ++ blanks ∧ Blanks blanks ∧
      Derives .factor base (blanks ++ raised ++ rest) f k d ∧
      (∃ c, base.getLast? = some c ∧ isFactorEnd c = true) ∧
      Number.integer? (String.ofList (raised.map Label.lower)) = some n ∧
      e = Context.fill K (f.toPower n) ∧
      ∀ gap, Blanks gap → (base = ['1'] → StopsAt isNumberChar (gap ++ raised)) →
        ofChars (outer ++ base ++ gap ++ raised ++ rest) = .ok e := by
  have clean := (spells_of_ofChars read).1
  generalize shape : front ++ raised ++ rest = text at read
  obtain ⟨k, d, p, rfl, rfl, rfl, value, few, flat⟩ :=
    exists_place_of_superscripts read shape.symm nonempty run first last
  have factor := p.derives
  have raises := p.raises
  rw [List.append_nil] at factor raises
  refine ⟨p.outer, p.base, p.blanks, p.context, p.factor, p.exponent, p.operators, p.depth, rfl,
    p.hblanks, factor, factor.ends_factor, value, p.spells, fun gap hgap one => ?_⟩
  have apart : StopsAt isNameChar p.mark := fun c mem =>
    isNameChar_of_isSuperscript (run c (List.mem_of_mem_head? mem))
  have name : StopsAt isNameChar (gap ++ p.mark ++ p.rest) := by
    rw [List.append_assoc]
    exact .of_blanks (fun _ => isNameChar_of_isBlank) hgap ((stopsAt_append nonempty _).2 apart)
  have moved := factor.factor_congr name fun same =>
    (stopsAt_append (List.append_ne_nil_of_right_ne_nil gap nonempty) p.rest).2 (one same)
  have room := p.within
  obtain ⟨b, more, begins, -⟩ := factor.begins_factor
  have replaced := p.ofChars_replace few flat (p.base ++ gap ++ p.mark) ?_
    (by simp [begins]) (raises.term moved hgap) (by omega)
  · rw [← p.spells] at replaced
    simpa using replaced
  · simp only [List.forall_mem_append] at clean ⊢
    exact ⟨⟨clean.1.1.1.1, ⟨clean.1.1.1.2, fun b mem => not_mem_strayChars_of_isBlank (hgap b mem)⟩,
      clean.1.2⟩, clean.2⟩

/-- Superscripts behind a group that they do not touch. -/
theorem exists_factor_of_metre_second :
    ofChars "kg*(m s) ²/A".toList =
        .ok (((UnitExpr.name "kg").mul (.pow ((UnitExpr.name "m").mul (.name "s")) 2)).div
          (.name "A")) ∧
      ∃ outer base blanks, "kg*(m s) ".toList = outer ++ base ++ blanks ∧ Blanks blanks ∧
        (∃ c, base.getLast? = some c ∧ isFactorEnd c = true) ∧
        ofChars (outer ++ base ++ "²/A".toList) =
          .ok (((UnitExpr.name "kg").mul (.pow ((UnitExpr.name "m").mul (.name "s")) 2)).div
            (.name "A")) := by
  have read : ofChars ("kg*(m s) ".toList ++ ['²'] ++ ['/', 'A']) =
      .ok (((UnitExpr.name "kg").mul (.pow ((UnitExpr.name "m").mul (.name "s")) 2)).div
        (.name "A")) := by decide
  obtain ⟨outer, base, blanks, K, f, n, k, d, shape, hblanks, -, ends, -, -, moved⟩ :=
    exists_factor_of_superscripts read (by decide) (List.forall_mem_singleton.2 (by decide))
      (by rintro c ⟨⟩; decide) (stopsAt_cons.2 (by decide))
  refine ⟨read, outer, base, blanks, shape, hblanks, ends, ?_⟩
  have touching := moved [] .nil fun one => by
    -- no factor of this text is the number one
    have mem : '1' ∈ "kg*(m s) ".toList := by simp [shape, one]
    exact absurd mem (by decide)
  simpa using touching

end Runs

/-- The superscripts of a text that is read need not touch a factor. -/
theorem not_isFactorEnd_of_superscripts :
    ¬ ∀ (front raised rest : List Char) (e : UnitExpr), ofChars (front ++ raised ++ rest) = .ok e →
      raised ≠ [] → (∀ c ∈ raised, Label.isSuperscript c = true) →
      (∀ c ∈ front.getLast?, Label.isSuperscript c = false) →
      StopsAt Label.isSuperscript rest → ∃ c, front.getLast? = some c ∧ isFactorEnd c = true := by
  intro always
  have read : ofChars (['m', ' '] ++ ['²'] ++ []) = .ok (.pow (.name "m") 2) := by decide
  obtain ⟨c, last, ends⟩ := always ['m', ' '] ['²'] [] _ read (by decide)
    (List.forall_mem_singleton.2 (by decide)) (by rintro c ⟨⟩; decide) (.nil _)
  cases last
  revert ends
  decide

end Metrology.UnitExpr
