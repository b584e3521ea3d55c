import Metrology.Proofs.Catalog.Units
import Metrology.Proofs.Recovery
import Metrology.Proofs.UnitExpr.Reading
import Metrology.Quantity.Written

/-!
# Why texts are refused

A text that is no unit, no quantity or no conversion fails as malformed wherever its reading
stops, or at an exponent with a digit sign that is no decimal digit (`UnitExpr.HoldsUnvalued`). A
unit text that is well formed names no unit for two reasons only: a name that no unit has and a
power that is too large (`Catalog.refusal_of_unit`), since the factors of units are positive and so
are never divided by zero. Evaluation recovers from all of these. The readers are taken in the order
in which they call each other: exponents, factors, terms, the whole text.
-/

namespace Metrology

variable {α β : Type}

/-- What reading a text can answer: a result, or a failure that blames the text. -/
inductive Parsed (unvalued : String → Prop) : Except Failure α → Prop where
  | ok (a : α) : Parsed unvalued (.ok a)
  | malformed (cause : Malformed) : Parsed unvalued (.error (.malformed cause))
  /-- A digit sign without the value of a digit. -/
  | notAnInteger {text : String} (h : unvalued text) : Parsed unvalued (.error (.notAnInteger text))

namespace Parsed

variable {p q : String → Prop}

theorem map {result : Except Failure α} (h : Parsed p result) (g : α → β) :
    Parsed p (result.map g) := by
  cases h with
  | ok a => exact .ok (g a)
  | malformed cause => exact .malformed cause
  | notAnInteger h => exact .notAnInteger h

/-- A failure that is passed on blames the text as it did before. -/
theorem of_eq_error {result : Except Failure α} {f : Failure} (h : Parsed p result)
    (failed : result = .error f) : Parsed p (.error f : Except Failure β) := by
  cases h with
  | ok a => cases failed
  | malformed cause =>
    cases failed
    exact .malformed cause
  | notAnInteger h =>
    cases failed
    exact .notAnInteger h

theorem imp {result : Except Failure α} (h : Parsed p result) (weaker : ∀ text, p text → q text) :
    Parsed q result := by
  cases h with
  | ok a => exact .ok a
  | malformed cause => exact .malformed cause
  | notAnInteger h => exact .notAnInteger (weaker _ h)

end Parsed

namespace UnitExpr

open Text Reader Catalog

/-! ## Digit signs without a value -/

/-- The text begins with `shown`: a sign, which may be missing, and up to four digit signs, not all
of them decimal digits, where no other digit sign and no fraction goes on. -/
def BeginsUnvalued (cs : List Char) (shown : String) : Prop :=
  ∃ sign digits after, cs = sign ++ digits ++ after ∧ shown = String.ofList (sign ++ digits) ∧
    IsSign sign ∧ digits.length ≤ 4 ∧ (∀ d ∈ digits, isDigitSign d = true) ∧
    (∃ d ∈ digits, isDecimalDigit d = false) ∧ StopsAt isDigitSign after ∧
    startsFraction after = false

/-- The same behind blanks and opening parentheses. -/
def OpensUnvalued (cs : List Char) (shown : String) : Prop :=
  ∃ opening rest, cs = opening ++ rest ∧ (∀ c ∈ opening, isBlank c = true ∨ c = '(') ∧
    BeginsUnvalued rest shown

/-- A power sign is followed by such an exponent somewhere in the text. -/
def HoldsUnvalued (cs : List Char) (shown : String) : Prop :=
  ∃ front sign rest, cs = front ++ sign ++ rest ∧ (sign = ['^'] ∨ sign = ['*', '*']) ∧
    OpensUnvalued rest shown

theorem OpensUnvalued.append {front cs : List Char} {shown : String}
    (opening : ∀ c ∈ front, isBlank c = true ∨ c = '(') (h : OpensUnvalued cs shown) :
    OpensUnvalued (front ++ cs) shown := by
  obtain ⟨more, rest, rfl, inside, unvalued⟩ := h
  exact ⟨front ++ more, rest, (List.append_assoc _ _ _).symm,
    List.forall_mem_append.2 ⟨opening, inside⟩, unvalued⟩

theorem HoldsUnvalued.of_suffix {front cs : List Char} {shown : String} (suffix : front <:+ cs)
    (h : HoldsUnvalued front shown) : HoldsUnvalued cs shown := by
  obtain ⟨more, rfl⟩ := suffix
  obtain ⟨front, sign, rest, rfl, hsign, unvalued⟩ := h
  exact ⟨more ++ front, sign, rest, by simp, hsign, unvalued⟩

theorem exists_mapM_digitValue? {digits : List Char}
    (all : ∀ d ∈ digits, isDecimalDigit d = true) : ∃ run, digits.mapM digitValue? = some run := by
  induction digits with
  | nil => exact ⟨[], rfl⟩
  | cons d digits ih =>
    obtain ⟨first, rest⟩ := List.forall_mem_cons.1 all
    obtain ⟨value, found⟩ := Option.isSome_iff_exists.1 first
    obtain ⟨run, values⟩ := ih rest
    exact ⟨value :: run, by rw [List.mapM_cons, found, values]; rfl⟩

namespace Reader

variable {size : Nat}

/-! ## Exponents -/

theorem parsed_bounded (p : String → Prop) (size : Nat) (rest : List Char) (n : Int) :
    Parsed p (bounded size rest n) := by
  unfold bounded
  split
  · exact .malformed _
  · exact .ok n

theorem parsed_close (p : String → Prop) (size : Nat) (cs : List Char) :
    Parsed p (close size cs) := by
  unfold close
  split
  · exact .ok _
  · exact .malformed _

theorem parsed_integer (size : Nat) (cs : List Char) :
    Parsed (BeginsUnvalued cs) (integer size cs) := by
  unfold integer
  dsimp only
  split
  · exact .malformed _
  · next proper =>
    split
    · exact .malformed _
    · next short =>
      split
      · next none =>
        refine .notAnInteger ⟨signText cs, _, (cs.drop (signText cs).length).dropWhile isDigitSign,
          ?_, rfl, isSign_signText cs, Nat.not_lt.1 short, forall_takeWhile _ _, ?_,
          stopsAt_dropWhile _ _, ?_⟩
        · rw [List.append_assoc, List.takeWhile_append_dropWhile, signText_append_drop]
        · by_contra all
          push Not at all
          obtain ⟨run, values⟩ := exists_mapM_digitValue? fun d mem => by simpa using all d mem
          rw [none] at values
          cases values
        · simpa using (not_or.1 proper).2
      · split
        · exact .ok _
        · next failed => exact (parsed_bounded _ size cs _).of_eq_error failed

theorem parsed_exponent (size levels : Nat) (cs : List Char) :
    Parsed (OpensUnvalued cs) (exponent size levels cs) := by
  have integer (cs : List Char) :
      Parsed (OpensUnvalued cs) (integer size (skipBlanks cs)) := by
    obtain ⟨blanks, hblanks, same⟩ := exists_blanks cs
    refine (parsed_integer size (skipBlanks cs)).imp fun shown h => ?_
    exact ⟨blanks, skipBlanks cs, same, fun c mem => .inl (hblanks c mem), h⟩
  induction levels generalizing cs with
  | zero =>
    unfold exponent
    split
    · exact .malformed _
    · exact integer cs
  | succ levels ih =>
    rw [exponent]
    split
    · next rest skipped =>
      obtain ⟨blanks, hblanks, same⟩ := exists_blanks cs
      have opening : ∀ c ∈ blanks ++ ['('], isBlank c = true ∨ c = '(' :=
        List.forall_mem_append.2 ⟨fun c mem => .inl (hblanks c mem), by simp⟩
      have front : cs = blanks ++ ['('] ++ rest := by rw [same, skipped, ← List.append_cons]
      -- the parenthesis takes one level for what it encloses
      dsimp only
      split
      · exact (parsed_close _ size _).map _
      · next failed =>
        refine ((ih rest).imp fun shown h => ?_).of_eq_error failed
        rw [front]
        exact h.append opening
    · exact integer cs

theorem parsed_superscript (p : String → Prop) (size : Nat) (cs : List Char) :
    Parsed p (superscript size cs) := by
  unfold superscript
  dsimp only
  split
  · exact (parsed_bounded p size cs _).map _
  · exact .malformed _

theorem parsed_power (size levels : Nat) (base : UnitExpr) (cs : List Char) :
    Parsed (HoldsUnvalued cs) (power size levels base cs) := by
  obtain ⟨blanks, -, same⟩ := exists_blanks cs
  have signed {sign rest : List Char} (hsign : sign = ['^'] ∨ sign = ['*', '*'])
      (skipped : skipBlanks cs = sign ++ rest) :
      Parsed (HoldsUnvalued cs) (exponent size levels rest) := by
    refine (parsed_exponent size levels rest).imp fun shown h => ⟨blanks, sign, rest, ?_, hsign, h⟩
    rw [List.append_assoc, ← skipped]
    exact same
  unfold power
  split
  · next skipped => exact (signed (.inr rfl) skipped).map _
  · next skipped => exact (signed (.inl rfl) skipped).map _
  · split
    · exact (parsed_superscript _ size _).map _
    · exact .ok _
  · exact .ok _

/-! ## Terms and expressions -/

/-- What is left behind a part stands at the end of the text. -/
theorem isSuffix_of_sound {part : Part} {levels : Nat} {step : Step} (h : Sound part levels step)
    {c c' : Cursor} {e : UnitExpr} (read : step c = .ok (e, c')) : c'.rest <:+ c.rest := by
  obtain ⟨blanks, text, k, d, front, -⟩ := h read
  exact ⟨blanks ++ text, front.symm⟩

theorem parsed_term {levels : Nat} {factor : Step} (sound : Sound .factor levels factor)
    (hfactor : ∀ c, Parsed (HoldsUnvalued c.rest) (factor c)) (c : Cursor) :
    Parsed (HoldsUnvalued c.rest) (term size levels factor c) := by
  unfold term
  split
  · next base after first =>
    refine ((parsed_power size levels _ _).imp fun shown => ?_).map _
    exact .of_suffix (isSuffix_of_sound sound first)
  · next failed => exact (hfactor c).of_eq_error failed

theorem isSuffix_of_joint? {cs rest : List Char} {joint : Joint}
    (h : joint? cs = some (joint, rest)) : rest <:+ cs := by
  obtain ⟨before, -, ⟨sign, -, rfl⟩ | ⟨-, -, rfl, -⟩⟩ := joint?_eq_some h
  · exact ⟨before ++ [sign], by simp⟩
  · exact ⟨before, rfl⟩

/-- The joints that may follow are counted down; too many of them are a malformed text. -/
theorem parsed_products {levels : Nat} {term : Step} (sound : Sound .term levels term)
    (hterm : ∀ c, Parsed (HoldsUnvalued c.rest) (term c)) (fuel : Nat) (left : UnitExpr)
    (c : Cursor) : Parsed (HoldsUnvalued c.rest) (products term fuel left c) := by
  induction fuel generalizing left c with
  | zero =>
    unfold products
    split
    · exact .ok _
    · exact .malformed _
  | succ fuel ih =>
    unfold products
    split
    · exact .ok _
    · next joint rest joined =>
      have behind := isSuffix_of_joint? joined
      split
      · next same _ =>
        cases same
        split
        · next right after read =>
          -- the rest behind the next term is a rest of the whole
          exact (ih _ after).imp fun _ => .of_suffix ((isSuffix_of_sound sound read).trans behind)
        · next failed =>
          exact ((hterm _).imp fun _ => .of_suffix behind).of_eq_error failed
      · exact .malformed _

theorem parsed_terms {levels : Nat} {term : Step} (sound : Sound .term levels term)
    (hterm : ∀ c, Parsed (HoldsUnvalued c.rest) (term c)) (c : Cursor) :
    Parsed (HoldsUnvalued c.rest) (terms term c) := by
  unfold terms
  split
  · next left after read =>
    exact (parsed_products sound hterm _ _ after).imp fun _ =>
      .of_suffix (isSuffix_of_sound sound read)
  · next failed => exact (hterm c).of_eq_error failed

theorem parsed_atom (p : String → Prop) (size : Nat) (cs : List Char) :
    Parsed p (atom size cs) := by
  unfold atom
  split
  · split
    · dsimp only
      split
      · exact .ok _
      · exact .malformed _
    · split
      · exact .ok _
      · exact .malformed _
  · exact .malformed _

/-- The recursion is on the parentheses that may still be opened. -/
theorem parsed_factor (size levels : Nat) (c : Cursor) :
    Parsed (HoldsUnvalued c.rest) (factor size levels c) := by
  induction levels generalizing c with
  | zero =>
    unfold factor
    split
    · exact .malformed _
    · exact (parsed_atom _ size _).map _
  | succ levels ih =>
    rw [factor]
    split
    · next rest opened =>
      have sound := sound_factor size levels
      have inside : rest <:+ c.rest := (List.suffix_cons '(' rest).trans
        (opened ▸ List.dropWhile_suffix isBlank)
      dsimp only
      split
      · exact (parsed_close _ size _).map _
      · next failed =>
        refine Parsed.of_eq_error (Parsed.imp ?_ fun _ => .of_suffix inside) failed
        exact parsed_terms (sound_term sound) (parsed_term sound ih) { c with rest }
    · exact (parsed_atom _ size _).map _

theorem parsed_expression (size levels : Nat) (c : Cursor) :
    Parsed (HoldsUnvalued c.rest) (expression size levels c) :=
  have sound := sound_factor size levels
  parsed_terms (sound_term sound) (parsed_term sound (parsed_factor size levels)) c

end Reader

/-- Whatever a text looks like, it spells an expression or is to blame itself. -/
theorem parsed_ofChars (cs : List Char) : Parsed (HoldsUnvalued cs) (ofChars cs) := by
  unfold ofChars
  split
  · split
    · split
      · exact .ok _
      · exact .malformed _
    · next failed =>
      exact (Reader.parsed_expression cs.length nestingLimit ⟨cs, operatorLimit⟩).of_eq_error failed
  · exact .malformed _

/-! ## Powers -/

/-- The powers in an expression, those that a trailing digit makes of a name included. -/
def powers : UnitExpr → List (UnitExpr × Int)
  | name s => (trailingPower? s).toList.map fun (base, n) => (.name base, n)
  | one => []
  | pow base n => base.powers ++ [(base, n)]
  | mul left right => left.powers ++ right.powers
  | div left right => left.powers ++ right.powers

end UnitExpr

/-! ## Units -/

/-- With a factor that is not zero, only the size of a power can be refused. -/
theorem Scale.powerTooHigh_of_pow {s : Scale} {n : Int} {f : Failure} (nonzero : s.factor ≠ 0)
    (h : s.pow n = .error f) : f = .powerTooHigh (toString n) :=
  ((pow_eq_error_iff nonzero).1 h).2.2

namespace Catalog

variable (c : Catalog)

/-- A name that is neither the symbol of a unit nor one with a trailing 2 or 3. -/
def Misspelled (name : String) : Prop :=
  c.contains name = false ∧
    ∀ base n, trailingPower? name = some (base, n) → c.contains base = false

/-- What an expression raises to the power `n` has a scale, but this power of it is too large. -/
def RefusesPower (e : UnitExpr) (n : Int) : Prop :=
  ∃ base s, (base, n) ∈ e.powers ∧ c.scaleOf base = .ok s ∧
    s.pow n = .error (.powerTooHigh (toString n))

/-- Why a unit text names no unit. -/
inductive Refusal (text : String) : Failure → Prop where
  | malformed (cause : Malformed) : Refusal text (.malformed cause)
  | notAnInteger {shown : String}
      (unvalued : UnitExpr.HoldsUnvalued (Symbol.normalize text).toList shown) :
      Refusal text (.notAnInteger shown)
  | unknown {e : UnitExpr} {name : String} (read : UnitExpr.ofText text = .ok e)
      (mem : name ∈ e.names) (misspelled : c.Misspelled name) : Refusal text (c.unknown name)
  | powerTooHigh {e : UnitExpr} {n : Int} (read : UnitExpr.ofText text = .ok e)
      (power : c.RefusesPower e n) : Refusal text (.powerTooHigh (toString n))

variable {c}

theorem contains_eq_false_of_get? {name : String} {hint : Option Dimension}
    (h : c.get? name hint = none) : c.contains name = false := by
  unfold get? owner? at h
  split at h
  · cases h
  · rw [contains, h]
    rfl

theorem RefusesPower.mono {e e' : UnitExpr} {n : Int} (h : c.RefusesPower e n)
    (inside : ∀ power ∈ e.powers, power ∈ e'.powers) : c.RefusesPower e' n := by
  obtain ⟨base, s, mem, refused⟩ := h
  exact ⟨base, s, inside _ mem, refused⟩

theorem refusesPower_of_pow {e base : UnitExpr} {s : Scale} {n : Int} {f : Failure}
    (mem : (base, n) ∈ e.powers) (read : c.scaleOf base = .ok s) (h : s.pow n = .error f) :
    c.RefusesPower e n ∧ f = .powerTooHigh (toString n) := by
  obtain rfl := Scale.powerTooHigh_of_pow (factor_pos_of_scaleOf read).ne' h
  exact ⟨⟨base, s, mem, read, h⟩, rfl⟩

/-- A name that is not misspelled has a unit, or a power of one that is too large. -/
theorem misspelled_of_named {name : String} {hint : Option Dimension} {f : Failure}
    (h : c.named name hint = .error f) :
    (c.Misspelled name ∧ f = c.unknown name) ∨
      ∃ n, c.RefusesPower (.name name) n ∧ f = .powerTooHigh (toString n) := by
  unfold named at h
  split at h
  · cases h
  · next missing =>
    have unnamed := contains_eq_false_of_get? missing
    split at h
    · next base n power =>
      split at h
      · next r found =>
        have read : c.scaleOf (.name base) = .ok r.entry.scale.dropOffset := by
          simp only [scaleOf, named, found, Except.map]
        exact .inr ⟨n, refusesPower_of_pow (by simp [UnitExpr.powers, power]) read h⟩
      · next absent =>
        cases h
        refine .inl ⟨⟨unnamed, fun base' n' power' => ?_⟩, rfl⟩
        rw [power] at power'
        cases power'
        exact contains_eq_false_of_get? absent
    · next short =>
      cases h
      refine .inl ⟨⟨unnamed, fun base n power => ?_⟩, rfl⟩
      rw [short] at power
      cases power

/-- An expression of names that are not misspelled has a scale, or a power that is too large. -/
theorem misspelled_of_scaleOf {e : UnitExpr} {f : Failure} (h : c.scaleOf e = .error f) :
    (∃ name ∈ e.names, c.Misspelled name ∧ f = c.unknown name) ∨
      ∃ n, c.RefusesPower e n ∧ f = .powerTooHigh (toString n) := by
  -- the first part that fails is to blame
  have part {e e' : UnitExpr} (names : ∀ name ∈ e.names, name ∈ e'.names)
      (powers : ∀ power ∈ e.powers, power ∈ e'.powers)
      (h : (∃ name ∈ e.names, c.Misspelled name ∧ f = c.unknown name) ∨
        ∃ n, c.RefusesPower e n ∧ f = .powerTooHigh (toString n)) :
      (∃ name ∈ e'.names, c.Misspelled name ∧ f = c.unknown name) ∨
        ∃ n, c.RefusesPower e' n ∧ f = .powerTooHigh (toString n) :=
    h.imp (fun ⟨name, mem, unknown⟩ => ⟨name, names name mem, unknown⟩)
      fun ⟨n, refused, failed⟩ => ⟨n, refused.mono powers, failed⟩
  induction e with
  | name symbol =>
    refine (misspelled_of_named (map_eq_error_iff.1 h)).imp_left fun unknown => ?_
    exact ⟨symbol, List.mem_singleton.2 rfl, unknown⟩
  | one => cases h
  | pow base n ih =>
    rcases bind_eq_error_iff.1 h with first | ⟨s, read, power⟩
    · exact part (e := base) (fun _ => id) (fun _ => List.mem_append_left _) (ih first)
    · exact .inr ⟨n, refusesPower_of_pow (by simp [UnitExpr.powers]) read power⟩
  | mul left right ihLeft ihRight =>
    rcases bind_eq_error_iff.1 h with first | ⟨s, -, h⟩
    · exact part (fun _ => List.mem_append_left _) (fun _ => List.mem_append_left _) (ihLeft first)
    · rcases bind_eq_error_iff.1 h with last | ⟨t, -, h⟩
      · exact part (fun _ => List.mem_append_right _) (fun _ => List.mem_append_right _)
          (ihRight last)
      · cases h
  | div left right ihLeft ihRight =>
    rcases bind_eq_error_iff.1 h with first | ⟨s, -, h⟩
    · exact part (fun _ => List.mem_append_left _) (fun _ => List.mem_append_left _) (ihLeft first)
    · rcases bind_eq_error_iff.1 h with last | ⟨t, read, h⟩
      · exact part (fun _ => List.mem_append_right _) (fun _ => List.mem_append_right _)
          (ihRight last)
      · -- the factor of the divisor is positive
        rw [Scale.div, if_neg (factor_pos_of_scaleOf read).ne'] at h
        cases h

/-- Whatever a unit text looks like, it names a unit or is refused for one of these reasons. -/
theorem refusal_of_unit {text : String} {hint : Option Dimension} {f : Failure}
    (h : c.unit text hint = .error f) : c.Refusal text f := by
  unfold unit at h
  dsimp only at h
  split at h
  · cases h
  · split at h
    · next name read =>
      rcases misspelled_of_named h with ⟨misspelled, rfl⟩ | ⟨n, power, rfl⟩
      · exact .unknown read (List.mem_singleton.2 rfl) misspelled
      · exact .powerTooHigh read power
    · next e _ read =>
      rcases misspelled_of_scaleOf h with ⟨name, mem, misspelled, rfl⟩ | ⟨n, power, rfl⟩
      · exact .unknown read mem misspelled
      · exact .powerTooHigh read power
    · next failed =>
      cases h
      have parsed := UnitExpr.parsed_ofChars (Symbol.normalize text).toList
      rw [failed] at parsed
      cases parsed with
      | malformed cause => exact .malformed cause
      | notAnInteger unvalued => exact .notAnInteger unvalued

theorem recoverable_unit (c : Catalog) (text : String) (hint : Option Dimension) :
    Recoverable (c.unit text hint) := by
  cases result : c.unit text hint with
  | ok s => exact .ok s
  | error f =>
    cases refusal_of_unit result with
    | malformed cause => exact .malformed cause
    | notAnInteger | unknown | powerTooHigh => exact .error rfl

end Catalog

namespace Quantity

theorem recoverable_inUnit (c : Catalog) (value : Rat) (text : String) :
    Recoverable (inUnit c value text) :=
  (c.recoverable_unit text none).map _

theorem recoverable_convert (c : Catalog) (target : String) (q : Quantity) :
    Recoverable (q.convert c target) := by
  unfold convert
  split
  · split
    · exact .error rfl
    · exact (Scale.recoverable_convert q.scale _ q.value).map _
  · next failed => exact (c.recoverable_unit target _).of_eq_error failed

end Quantity

/-! ## Written quantities -/

namespace Written

theorem recoverable_number (whole text : String) : Recoverable (number whole text) := by
  unfold number
  split
  · exact .ok _
  · exact .malformed _

theorem recoverable_marked (text : String) : Recoverable (marked text) := by
  unfold marked
  split
  · exact (recoverable_number text _).map _
  · exact .malformed _

theorem recoverable_quantity (text : String) : Recoverable (quantity text) := by
  unfold quantity
  split
  · exact recoverable_marked text
  · split
    · exact (recoverable_number text _).map _
    · exact .malformed _

theorem recoverable_conversion (text : String) : Recoverable (conversion text) := by
  unfold conversion
  split
  · dsimp only
    split
    · exact .malformed _
    · exact .ok _
  · exact .malformed _

end Written

end Metrology
