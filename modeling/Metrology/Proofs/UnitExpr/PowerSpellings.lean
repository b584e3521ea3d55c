import Metrology.Proofs.Setting
import Metrology.Proofs.UnitExpr.Superscripts
import Metrology.Proofs.UnitExpr.WrittenNames

/-!
# Spellings of powers

A power of a single name to a plain integer may be written with a caret or two stars, with the
integer in parentheses, and in superscripts; a second or third power also with the digit alone,
where the name with this digit names no unit itself. Which of these is written makes no difference.
-/

namespace Metrology

namespace UnitExpr

open Text Reader

/-! ## Plain integers -/

/-- An integer in plain decimal: a sign, which may be missing, and ASCII digits. -/
structure IsPlainInteger (cs : List Char) (n : Int) : Prop where
  integer : Number.IsInteger cs n
  plain : ∀ c ∈ cs, c = '-' ∨ c = '+' ∨ c.isDigit = true

theorem isPlainInteger_toString (n : Int) : IsPlainInteger (toString n).toList n := by
  refine ⟨Number.isInteger_toString n, ?_⟩
  have digits (n : Nat) : ∀ c ∈ Nat.toDigits 10 n, c.isDigit = true := fun c mem =>
    Nat.isDigit_of_mem_toDigits (by decide) (by decide) mem
  rw [Int.toString_eq_repr, Int.repr_eq_if]
  split
  · rw [Nat.toList_repr]
    exact fun c mem => .inr (.inr (digits _ c mem))
  · rw [String.toList_append, Nat.toList_repr]
    exact List.forall_mem_cons.2 ⟨.inl rfl, fun c mem => .inr (.inr (digits _ c mem))⟩

/-- A digit or sign as a superscript. -/
def raise (c : Char) : Char :=
  ((Label.superscripts.find? fun row => row.2 == c).map Prod.fst).getD c

theorem lower_raise_of_plain {c : Char} (h : c = '-' ∨ c = '+' ∨ c.isDigit = true) :
    Label.isSuperscript (raise c) = true ∧ Label.lower (raise c) = c := by
  rcases h with rfl | rfl | digit
  · decide
  · decide
  · have all : ∀ n < 10, Label.isSuperscript (raise (Char.ofNat (48 + n))) = true ∧
        Label.lower (raise (Char.ofNat (48 + n))) = Char.ofNat (48 + n) := by decide
    obtain ⟨low, high⟩ : 48 ≤ c.toNat ∧ c.toNat ≤ 57 := by
      simpa [Char.isDigit, UInt32.le_iff_toNat_le] using digit
    have found := all (c.toNat - 48) (by omega)
    rwa [Nat.add_sub_cancel' low, Char.ofNat_toNat] at found

theorem IsPlainInteger.map_lower_raise {cs : List Char} {n : Int} (h : IsPlainInteger cs n) :
    (cs.map raise).map Label.lower = cs := by
  rw [List.map_map]
  exact (List.map_congr_left fun c mem => (lower_raise_of_plain (h.plain c mem)).2).trans
    (List.map_id cs)

/-! ## The place of a power -/

/-- In `pre ++ x ++ '^' :: digits ++ post`, the single name `x` is raised to the plain integer
`n`. -/
structure HasPower (pre x digits post : List Char) (n : Int) : Prop where
  name : isName x = true
  apart : ∀ c ∈ pre.getLast?, isNameChar c = false
  integer : IsPlainInteger digits n
  whole : StopsAt isDigitSign post

/-- A power that holds a caret begins with it, and an exponent follows. -/
theorem Raising.caret {mark front behind after : List Char} {n : Int} {d : Nat}
    (h : Raising mark after n d) (shape : mark = front ++ '^' :: behind) :
    front = [] ∧ Exponent behind n d := by
  cases h with
  | @sign sign exponent after n d hsign hexponent =>
    have none : ∀ front behind, exponent ≠ front ++ '^' :: behind := fun _ _ =>
      ne_of_class (by decide) hexponent.isPowerSign_eq_false
    rcases split_append shape with ⟨middle, inside, rfl⟩ | ⟨middle, inside, -⟩
    · rcases hsign with rfl | rfl
      · cases front with
        | nil =>
          obtain rfl : [] = middle := (List.cons.inj inside).2
          exact ⟨rfl, hexponent⟩
        | cons c front => simp at inside
      · exact absurd inside (ne_of_class (p := (· == '^')) (by decide) (by simp))
    · exact absurd inside (none _ _)
  | superscript nonempty run maximal value bounded =>
    have high := run '^' (by simp [shape])
    cases high

/-- The run of a class at the end of a text is unique. -/
theorem split_run_unique {p : Char → Bool} {front front' run run' : List Char}
    (inside : ∀ c ∈ run, p c = true) (inside' : ∀ c ∈ run', p c = true)
    (apart : ∀ c ∈ front.getLast?, p c = false) (apart' : ∀ c ∈ front'.getLast?, p c = false)
    (same : front ++ run = front' ++ run') : front = front' ∧ run = run' := by
  have stops {front : List Char} (apart : ∀ c ∈ front.getLast?, p c = false) :
      StopsAt p front.reverse := by
    intro c mem
    rw [List.head?_reverse] at mem
    exact apart c mem
  -- read from the end, the run is what stands in front of the first character outside the class
  have reversed := congrArg List.reverse same
  rw [List.reverse_append, List.reverse_append] at reversed
  obtain rfl := List.reverse_inj.1 (run_unique (by simpa using inside) (by simpa using inside')
    (stops apart) (stops apart') reversed)
  exact ⟨List.append_cancel_right same, rfl⟩

/-- A factor that ends where a single name does is this name. -/
theorem Derives.eq_of_isName {outer base blanks after pre x : List Char} {e : UnitExpr} {k d : Nat}
    (h : Derives .factor base after e k d) (hblanks : Blanks blanks)
    (apart : ∀ c ∈ outer.getLast?, isNameChar c = false) (name : isName x = true)
    (apart' : ∀ c ∈ pre.getLast?, isNameChar c = false)
    (same : pre ++ x = outer ++ base ++ blanks) :
    pre = outer ∧ x = base ∧ blanks = [] ∧ e = .name (String.ofList x) ∧ k = 0 ∧ d = 0 := by
  have names := isNameChar_of_isName name
  have filled : x ≠ [] := by
    rintro rfl
    cases name
  obtain ⟨c, last⟩ : ∃ c, x.getLast? = some c := ⟨_, List.getLast?_eq_some_getLast filled⟩
  have nameC := names c (List.mem_of_getLast? last)
  rw [← List.getLast?_append_of_ne_nil pre filled, same] at last
  obtain rfl : blanks = [] := by
    cases ending : blanks.getLast? with
    | none => exact List.getLast?_eq_none_iff.1 ending
    | some b =>
      rw [List.getLast?_append, ending] at last
      cases last
      rw [isNameChar_of_isBlank (hblanks _ (List.mem_of_getLast? ending))] at nameC
      cases nameC
  rw [List.append_nil] at same last
  cases h with
  | @name first rest after start run maximal =>
    obtain ⟨rfl, rfl⟩ :=
      split_run_unique names (forall_isNameChar start run) apart' apart same
    exact ⟨rfl, rfl, rfl, rfl, rfl, rfl⟩
  | one maximal =>
    -- no name begins with a digit
    have one : ∀ c ∈ ['1'], isNameChar c = true := List.forall_mem_singleton.2 (by decide)
    obtain ⟨rfl, rfl⟩ := split_run_unique names one apart' apart same
    cases name
  | group inner hclosing =>
    rw [← List.append_assoc, List.getLast?_concat] at last
    cases last
    cases nameC

/-- The sign and the digits of an integer. -/
theorem exists_digits_of_isInteger {cs : List Char} {n : Int} (h : Number.IsInteger cs n) :
    ∃ sign digits, cs = sign ++ digits ∧ IsSign sign ∧ digits ≠ [] ∧
      ∀ d ∈ digits, isDigitSign d = true := by
  obtain ⟨run, read, nonempty, -⟩ := h
  have digits := fun d mem =>
    isDigitSign_of_isDecimalDigit (Number.isDecimalDigit_of_digitRun read d mem)
  have filled : (Number.sign cs).2 ≠ [] := by
    intro none
    rw [none] at read
    exact nonempty (Prod.mk.inj read).1.symm
  rcases Number.sign_cases cs with ⟨rest, rfl, same⟩ | ⟨rest, rfl, same⟩ | same
  · rw [same] at digits filled
    exact ⟨['-'], rest, rfl, .inr (.inr rfl), filled, digits⟩
  · rw [same] at digits filled
    exact ⟨['+'], rest, rfl, .inr (.inl rfl), filled, digits⟩
  · rw [same] at digits filled
    exact ⟨[], cs, rfl, .inl rfl, filled, digits⟩

/-- Where an integer stands, the exponent that is read is this integer. -/
theorem Exponent.eq_of_append {text after integer post : List Char} {n m : Int} {d : Nat}
    (h : Exponent text n d) (written : Number.IsInteger integer m)
    (same : integer ++ post = text ++ after) (stop : StopsAt isDigitSign after)
    (stop' : StopsAt isDigitSign post) : text = integer := by
  obtain ⟨sign, digits, rfl, hsign, filled, all⟩ := exists_digits_of_isInteger written
  -- in front of its digits, each of the two has the sign that stands there
  have front {sign digits rest : List Char} (hsign : IsSign sign) (filled : digits ≠ [])
      (all : ∀ d ∈ digits, isDigitSign d = true) : signText (sign ++ digits ++ rest) = sign := by
    obtain ⟨d, digits, rfl⟩ := List.exists_cons_of_ne_nil filled
    rw [List.append_assoc]
    exact signText_append hsign (all d List.mem_cons_self)
  have solid {c : Char} {rest : List Char} (begins : text ++ after = c :: rest) :
      c ≠ '(' ∧ isBlank c = false :=
    ne_paren_of_sign_digits hsign filled all (same.trans begins)
  cases h with
  | @digits blanks sign' digits' run hblanks hsign' filled' short values bounded =>
    obtain rfl : blanks = [] := by
      cases blanks with
      | nil => rfl
      | cons b blanks =>
        have blank := hblanks.of_cons.1
        rw [(solid rfl).2] at blank
        cases blank
    rw [List.nil_append] at same ⊢
    have all' := isDigitSign_of_mapM values
    have signs := congrArg signText same
    rw [front hsign filled all, front hsign' filled' all'] at signs
    subst signs
    rw [List.append_assoc, List.append_assoc] at same
    have taken := congrArg (List.takeWhile isDigitSign) (List.append_cancel_left same)
    rw [takeWhile_append_of_stopsAt all stop', takeWhile_append_of_stopsAt all' stop] at taken
    rw [taken]
  | @group blanks text closing n depth hblanks inner hclosing =>
    cases blanks with
    | nil => exact absurd rfl (solid rfl).1
    | cons b blanks =>
      have blank := hblanks.of_cons.1
      rw [(solid rfl).2] at blank
      cases blank

theorem Exponent.depth_eq_zero {text : List Char} {n : Int} {d : Nat} (h : Exponent text n d)
    (plain : '(' ∉ text) : d = 0 := by
  cases h with
  | digits => rfl
  | group => exact absurd (by simp) plain

/-! ## Another spelling in the place -/

theorem isDigitSign_of_isBoundary {c : Char} (h : isBoundary c = true) : isDigitSign c = false := by
  have number : isNumberChar c = false := runClasses_of_isBoundary h (by simp [runClasses])
  exact (Bool.or_eq_false_iff.1 number).1

/-- The power of a single name is in a place of its own: with any other term that begins with this
name instead, the text is read as the expression with this term in the place. -/
theorem HasPower.exists_context {pre x digits post : List Char} {n : Int} {e : UnitExpr}
    (p : HasPower pre x digits post n)
    (read : ofChars (pre ++ x ++ '^' :: digits ++ post) = .ok e) :
    ∃ K, e = Context.fill K ((UnitExpr.name (String.ofList x)).toPower n) ∧ Exponent digits n 0 ∧
      (∀ c ∈ post.head?, isBoundary c = true) ∧ opened pre ≤ nestingLimit ∧
      ∀ mark g i, (∀ c ∈ mark, c ∉ strayChars) → Derives .term (x ++ mark) post g 0 i →
        opened pre + i ≤ nestingLimit → ofChars (pre ++ x ++ mark ++ post) = .ok (K.fill g) := by
  have clean := (spells_of_ofChars read).1
  generalize shape : pre ++ x ++ '^' :: digits ++ post = text at read
  obtain ⟨k, d, q, ⟨inside, behind, mark, before, after⟩, few, flat⟩ :=
    exists_place_of_ofChars read (shape.symm.trans (List.append_assoc _ _ _)) (by decide)
  obtain ⟨rfl, exponent⟩ := q.raises.caret mark
  rw [List.append_nil] at before
  have ends := q.ends
  rw [List.append_nil] at ends
  obtain ⟨rfl, rfl, -, named, zero, -⟩ :=
    q.derives.eq_of_isName q.hblanks q.apart p.name p.apart before
  obtain rfl := exponent.eq_of_append p.integer.integer after
    (fun c mem => isDigitSign_of_isBoundary (ends c mem)) p.whole
  obtain rfl : post = q.rest := List.append_cancel_left after
  have value := exponent.eq_of_isInteger p.integer.integer
  refine ⟨q.context, ?_, ?_, ends, ?_, fun mark g i clean' term deep => ?_⟩
  · rw [← named, ← value]
    exact q.spells
  · have flat : q.levels = 0 := by
      refine exponent.depth_eq_zero fun mem => ?_
      rcases p.integer.plain '(' mem with same | same | digit
      · cases same
      · cases same
      · cases digit
    rwa [value, flat] at exponent
  · have room := q.within
    omega
  · simp only [List.forall_mem_append] at clean
    rw [← zero] at term
    have replaced := q.ofChars_replace few flat (q.base ++ mark) ?_ ?_ term deep
    · simpa using replaced
    · simp only [List.forall_mem_append]
      exact ⟨⟨clean.1.1.1, clean.1.1.2, clean'⟩, clean.2⟩
    · obtain ⟨c, rest, begins, -⟩ := q.derives.begins_factor
      simp [begins]

/-! ## Signs and superscripts -/

/-- Whatever power other than the one with a caret is written in the place, it is read as `e`. The
one in parentheses needs room for them. -/
structure ReadAlike (read : (power : List Char) → Except Failure UnitExpr) (digits : List Char)
    (room : Prop) (e : UnitExpr) : Prop where
  stars : read ('*' :: '*' :: digits) = .ok e
  group : room → read ('^' :: '(' :: digits ++ [')']) = .ok e
  raised : read (digits.map raise) = .ok e

theorem ReadAlike.congr {read read' : List Char → Except Failure UnitExpr} {digits : List Char}
    {room : Prop} {e : UnitExpr} (h : ReadAlike read digits room e) (filled : digits ≠ [])
    (same : ∀ power ≠ [], (∀ c ∈ power, c ∈ ['*', '^', '(', ')'] ∨ c ∈ digits ∨
      c ∈ digits.map raise) → read' power = read power) : ReadAlike read' digits room e where
  stars := (same _ (by simp) (by grind)).trans h.stars
  group room := (same _ (by simp) (by grind)).trans (h.group room)
  raised := (same _ (by simpa using filled) (by grind)).trans h.raised

theorem IsPlainInteger.not_mem_strayChars {cs : List Char} {n : Int} (h : IsPlainInteger cs n) :
    ∀ c ∈ cs, c ∉ strayChars := by
  intro c mem
  rcases h.plain c mem with rfl | rfl | digit
  · decide
  · decide
  · exact not_mem_of_class (p := Char.isDigit) (by decide) digit

theorem IsPlainInteger.isSuperscript_of_mem {cs : List Char} {n : Int} (h : IsPlainInteger cs n) :
    ∀ c ∈ cs.map raise, Label.isSuperscript c = true :=
  List.forall_mem_map.2 fun c mem => (lower_raise_of_plain (h.plain c mem)).1

/-- Superscripts for a plain integer spell this integer. -/
theorem IsPlainInteger.raising {cs after : List Char} {n : Int} (h : IsPlainInteger cs n)
    (bounded : n.natAbs ≤ exponentLimit) (stop : StopsAt Label.isSuperscript after) :
    Raising (cs.map raise) after n 0 := by
  refine .superscript (by simpa using h.integer.characters.1) h.isSuperscript_of_mem stop ?_ bounded
  rw [h.map_lower_raise]
  exact Number.integer?_of_isInteger h.integer

/-- A power of a single name may be spelled in another way. -/
theorem HasPower.readAlike {pre x digits post : List Char} {n : Int} {e : UnitExpr}
    (p : HasPower pre x digits post n)
    (read : ofChars (pre ++ x ++ '^' :: digits ++ post) = .ok e) :
    ReadAlike (fun power => ofChars (pre ++ x ++ power ++ post)) digits (opened pre < nestingLimit)
      e := by
  obtain ⟨K, rfl, exponent, ends, flat, replace⟩ := p.exists_context read
  have clean := p.integer.not_mem_strayChars
  have respelled {mark : List Char} {l : Nat} (power : Raising mark post n l)
      (apart : StopsAt isNameChar (mark ++ post)) (clean : ∀ c ∈ mark, c ∉ strayChars)
      (room : opened pre + l ≤ nestingLimit) :
      ofChars (pre ++ x ++ mark ++ post) =
        .ok (K.fill ((UnitExpr.name (String.ofList x)).toPower n)) := by
    have term : Derives .term (x ++ [] ++ mark) post
        ((UnitExpr.name (String.ofList x)).toPower n) 0 (max 0 l) :=
      power.term (derives_of_isName p.name apart) .nil
    rw [List.append_nil, Nat.zero_max] at term
    exact replace mark _ l clean term room
  have signs : ∀ c ∈ ['*', '^', '(', ')'], c ∉ strayChars :=
    List.all_iff_forall_prop.1 (by decide)
  refine ⟨?_, fun room => ?_, ?_⟩
  · have stars : Raising (['*', '*'] ++ digits) post n 0 := .sign (.inr rfl) exponent
    have star := signs '*' (by simp)
    exact respelled stars (stopsAt_cons.2 (by decide))
      (List.forall_mem_cons.2 ⟨star, List.forall_mem_cons.2 ⟨star, clean⟩⟩) (by omega)
  · have grouped : Exponent ('(' :: digits ++ [')']) n 1 := by
      simpa using Exponent.group .nil exponent .nil
    have closed := List.forall_mem_append.2
      ⟨clean, List.forall_mem_singleton.2 (signs ')' (by simp))⟩
    have opening : ∀ c ∈ '(' :: digits ++ [')'], c ∉ strayChars :=
      List.forall_mem_cons.2 ⟨signs _ (by simp), closed⟩
    have caret : Raising (['^'] ++ ('(' :: digits ++ [')'])) post n 1 := .sign (.inl rfl) grouped
    exact respelled caret (stopsAt_cons.2 (by decide))
      (List.forall_mem_cons.2 ⟨signs _ (by simp), opening⟩) (by omega)
  · have high := p.integer.isSuperscript_of_mem
    have filled : digits.map raise ≠ [] := by simpa using p.integer.integer.characters.1
    refine respelled (p.integer.raising exponent.bounded fun c mem => ?_)
      ((stopsAt_append filled post).2 fun c mem => ?_) (fun c mem => ?_) (by omega)
    · exact runClasses_of_isBoundary (ends c mem) (by simp [runClasses])
    · exact isNameChar_of_isSuperscript (high c (List.mem_of_mem_head? mem))
    · exact forall_isSuperscript (p := fun c => c ∉ strayChars) (by decide) (high c mem)

end UnitExpr

/-! ## Trailing digits -/

namespace Catalog

open Text

variable {c : Catalog} {x : List Char} {n : Int} {hint : Option Dimension}

theorem trailingPower?_append (power : n = 2 ∨ n = 3) (filled : x ≠ [])
    (letter : ∀ d ∈ x.getLast?, isDecimalDigit d = false) :
    trailingPower? (String.ofList x ++ toString n) = some (String.ofList x, n) := by
  obtain ⟨d, last⟩ : ∃ d, x.getLast? = some d := ⟨_, List.getLast?_eq_some_getLast filled⟩
  obtain ⟨front, rfl⟩ := List.getLast?_eq_some_iff.1 last
  have two : toString (2 : Int) = "2" := rfl
  have three : toString (3 : Int) = "3" := rfl
  have plain := letter d last
  rcases power with rfl | rfl
  · rw [two]
    simp [trailingPower?, plain]
  · rw [three]
    simp [trailingPower?, plain]

/-- The digit behind a name that names a unit, where both together name none, is the exponent of a
power. -/
theorem named_of_trailingPower? {name base : String} (free : c.get? name hint = none)
    (trailing : trailingPower? name = some (base, n)) (known : c.contains base = true) :
    c.named name hint = c.scaleOf (.pow (.name base) n) ∧
      c.scaleOf (.name name) = c.scaleOf (.pow (.name base) n) := by
  obtain ⟨r, found⟩ := Option.isSome_iff_exists.1 known
  have base' : c.get? base = some r := found
  have power : c.scaleOf (.pow (.name base) n) = r.entry.scale.dropOffset.pow n := by
    simp only [scaleOf, named, base', Except.map]
    rfl
  have whole {hint : Option Dimension} (free : c.get? name hint = none) :
      c.named name hint = r.entry.scale.dropOffset.pow n := by
    simp only [named, free, trailing, base']
  refine ⟨(whole free).trans power.symm, ?_⟩
  rw [scaleOf, whole (get?_of_contains_eq_false (contains_eq_false_of_get? free)), power]
  -- a power has no offset to lose
  cases raised : r.entry.scale.dropOffset.pow n with
  | error f => rfl
  | ok s => rw [Except.map, Scale.dropOffset_of_pow rfl raised]

theorem unit_of_not_name {text : String} {e : UnitExpr} (read : UnitExpr.ofText text = .ok e)
    (other : ∀ s, e ≠ .name s) : c.unit text hint = c.scaleOf e := by
  rw [unit_of_expr read]
  cases e with
  | name s => exact absurd rfl (other s)
  | one => rfl
  | pow => rfl
  | mul => rfl
  | div => rfl

/-- In the place of a power, such a name makes the same unit of the whole text. -/
theorem unit_of_trailingPower? {text text' name base : String} {K : UnitExpr.Context}
    (read : UnitExpr.ofText text = .ok (K.fill (.pow (.name base) n)))
    (read' : UnitExpr.ofText text' = .ok (K.fill (.name name))) (free : c.get? name hint = none)
    (trailing : trailingPower? name = some (base, n)) (known : c.contains base = true) :
    c.unit text' hint = c.unit text hint := by
  obtain ⟨single, alike⟩ := named_of_trailingPower? free trailing known
  have filled := UnitExpr.Context.scaleOf_fill_congr alike K
  -- a power is no single name, whatever stands around it
  have power : c.unit text hint = c.scaleOf (K.fill (.pow (.name base) n)) :=
    unit_of_not_name read fun s same => by cases UnitExpr.Context.eq_name_of_fill same
  rw [power, ← filled]
  by_cases named : ∃ s, K.fill (.name name) = .name s
  · obtain ⟨s, same⟩ := named
    obtain rfl := UnitExpr.name.inj (UnitExpr.Context.eq_name_of_fill same)
    rw [same] at read' ⊢
    rw [unit_of_name read', single, alike]
  · exact unit_of_not_name read' fun s same => named ⟨s, same⟩

end Catalog

/-! ## Raw texts -/

namespace UnitExpr

open Text

theorem skipBlanks_append_solid (front : List Char) {rest : List Char}
    (stop : StopsAt isBlank rest) : skipBlanks (front ++ rest) = skipBlanks front ++ rest := by
  obtain ⟨blanks, hblanks, same⟩ := exists_blanks front
  have stop' : StopsAt isBlank (skipBlanks front ++ rest) := by
    cases left : skipBlanks front with
    | nil => exact stop
    | cons c tail => exact stopsAt_cons.2 (isBlank_of_skipBlanks_eq_cons left)
  have whole : front ++ rest = blanks ++ (skipBlanks front ++ rest) := by
    rw [← List.append_assoc, ← same]
  rw [whole, skipBlanks_append hblanks, skipBlanks_of_stopsAt stop']

/-- A run of barriers splits a text into parts that have their normal forms apart. -/
theorem form_append_run {front run rest : List Char} (filled : run ≠ [])
    (barriers : ∀ c ∈ run, IsBarrier c c ∧ Symbol.foldMicro c = c) :
    Symbol.form (front ++ run ++ rest) = Symbol.form front ++ run ++ Symbol.form rest := by
  induction run generalizing front with
  | nil => exact absurd rfl filled
  | cons c run ih =>
    obtain ⟨⟨barrier, folded⟩, barriers⟩ := List.forall_mem_cons.1 barriers
    rw [List.append_assoc, List.cons_append, Symbol.form_append_cons barrier folded]
    cases run with
    | nil => simp
    | cons d run =>
      have behind : Symbol.form ([] ++ d :: run ++ rest) =
          Symbol.form [] ++ d :: run ++ Symbol.form rest :=
        ih (List.cons_ne_nil d run) barriers
      rw [List.nil_append, Symbol.form_nil, List.nil_append] at behind
      rw [behind]
      simp

/-- Around a run of barriers that are no blanks, a text is brought into normal form on its own. -/
theorem normalize_append_run {left right : String} {run : List Char} (filled : run ≠ [])
    (barriers : ∀ c ∈ run, IsBarrier c c ∧ Symbol.foldMicro c = c)
    (solid : ∀ c ∈ run, isBlank c = false) :
    (Symbol.normalize (left ++ String.ofList run ++ right)).toList =
      Symbol.form (skipBlanks left.toList) ++ run ++
        Symbol.form (skipBlanksRight right.toList) := by
  have front : StopsAt isBlank (run ++ right.toList) :=
    (stopsAt_append filled _).2 fun c mem => solid c (List.mem_of_mem_head? mem)
  have back : StopsAt isBlank (run.reverse ++ (skipBlanks left.toList).reverse) := by
    refine (stopsAt_append (by simpa using filled) _).2 fun c mem => solid c ?_
    exact List.mem_reverse.1 (List.mem_of_mem_head? mem)
  have trimmed : trim (left ++ String.ofList run ++ right).toList =
      skipBlanks left.toList ++ run ++ skipBlanksRight right.toList := by
    rw [String.toList_append, String.toList_append, String.toList_ofList, List.append_assoc, trim,
      skipBlanks_append_solid _ front, skipBlanksRight, List.reverse_append, List.reverse_append,
      List.append_assoc, skipBlanks_append_solid _ back]
    simp [skipBlanksRight]
  rw [Symbol.normalize, String.toList_ofList, trimmed]
  exact form_append_run filled barriers

/-- The characters of powers are no blanks, and normalization leaves them where they are. -/
theorem isBarrier_of_power {digits : List Char} {n : Int} (h : IsPlainInteger digits n) {c : Char}
    (mem : c ∈ ['*', '^', '(', ')'] ∨ c ∈ digits ∨ c ∈ digits.map raise) :
    (IsBarrier c c ∧ Symbol.foldMicro c = c) ∧ isBlank c = false := by
  rcases mem with sign | digit | raised
  · have signs : ∀ c ∈ ['*', '^', '(', ')'], Label.isBaseChar c = false ∧ isBlank c = false :=
      List.all_iff_forall_prop.1 (by decide)
    obtain ⟨sign, solid⟩ := signs c sign
    exact ⟨⟨isBarrier_of_sign sign solid, Symbol.foldMicro_of_isBaseChar_eq_false sign⟩, solid⟩
  · exact ⟨Label.isBarrier_of_isInteger h.integer c digit, h.integer.solid c digit⟩
  · have high := h.isSuperscript_of_mem c raised
    exact ⟨Label.isBarrier_of_isSuperscript high, isBlank_of_isSuperscript high⟩

section Raw

variable {pre x digits post : List Char} {n : Int} {e : UnitExpr} {left right : String}

/-- What the texts around a power are in normal form, apart from the blanks at the ends. -/
structure NormalAround (left right : String) (front post : List Char) : Prop where
  left : Symbol.form (skipBlanks left.toList) = front
  right : Symbol.form (skipBlanksRight right.toList) = post

theorem NormalAround.ofText_eq {front : List Char} (around : NormalAround left right front post)
    {power : List Char} (filled : power ≠ [])
    (barriers : ∀ c ∈ power, (IsBarrier c c ∧ Symbol.foldMicro c = c) ∧ isBlank c = false) :
    ofText (left ++ String.ofList power ++ right) = ofChars (front ++ power ++ post) := by
  rw [ofText, normalize_append_run filled (fun c mem => (barriers c mem).1)
    (fun c mem => (barriers c mem).2), around.left, around.right]

/-- A name with a digit behind it is read as one name in the place of a power. -/
theorem HasPower.ofChars_trailing (p : HasPower pre x digits post n) (power : n = 2 ∨ n = 3)
    (read : ofChars (pre ++ x ++ '^' :: digits ++ post) = .ok e) :
    ∃ K, e = Context.fill K (.pow (.name (String.ofList x)) n) ∧
      ofChars (pre ++ x ++ (toString n).toList ++ post) =
        .ok (K.fill (.name (String.ofList x ++ toString n))) := by
  obtain ⟨K, rfl, -, ends, flat, replace⟩ := p.exists_context read
  have second : (UnitExpr.name (String.ofList x)).toPower n = .pow (.name (String.ofList x)) n := by
    rcases power with rfl | rfl
    · rfl
    · rfl
  have digit : ∀ c ∈ (toString n).toList, isNameChar c = true ∧ c ∉ strayChars := by
    rcases power with rfl | rfl
    · exact List.all_iff_forall_prop.1 (by decide)
    · exact List.all_iff_forall_prop.1 (by decide)
  have single : isName (x ++ (toString n).toList) = true := by
    obtain ⟨c, rest, rfl⟩ : ∃ c rest, x = c :: rest := by
      cases x with
      | nil => cases p.name
      | cons c rest => exact ⟨c, rest, rfl⟩
    obtain ⟨start, run⟩ := Bool.and_eq_true_iff.1 p.name
    refine Bool.and_eq_true_iff.2 ⟨start, List.all_eq_true.2 ?_⟩
    exact List.forall_mem_append.2 ⟨List.all_eq_true.1 run, fun c mem => (digit c mem).1⟩
  have whole : String.ofList (x ++ (toString n).toList) = String.ofList x ++ toString n := by
    rw [String.ofList_append, String.ofList_toList]
  have factor : Derives .factor (x ++ (toString n).toList) post
      (.name (String.ofList (x ++ (toString n).toList))) 0 0 :=
    derives_of_isName single fun c mem => isNameChar_of_isBoundary (ends c mem)
  rw [whole] at factor
  exact ⟨K, by rw [second], replace _ _ 0 (fun c mem => (digit c mem).2) (.bare factor) (by omega)⟩

/-- All spellings of a power agree. Whichever way the power of a single name to a plain integer is
written in a text that is read, it is read as the same expression, and so is a text that has to be
brought into normal form. Where the name with a digit 2 or 3 is the name of no unit, this digit
spells the power too: every catalog gives the same unit, or the same failure, for both texts. -/
theorem HasPower.spellings_agree (p : HasPower pre x digits post n) :
    (ofChars (pre ++ x ++ '^' :: digits ++ post) = .ok e →
      ReadAlike (fun power => ofChars (pre ++ x ++ power ++ post)) digits
        (opened pre < nestingLimit) e) ∧
    (NormalAround left right (pre ++ x) post →
      ofText (left ++ String.ofList ('^' :: digits) ++ right) = .ok e →
      ReadAlike (fun power => ofText (left ++ String.ofList power ++ right)) digits
        (opened pre < nestingLimit) e ∧
      ∀ (c : Catalog) (hint : Option Dimension), n = 2 ∨ n = 3 →
        c.contains (String.ofList x) = true → (∀ d ∈ x.getLast?, isDecimalDigit d = false) →
        c.get? (String.ofList x ++ toString n) hint = none →
        c.unit (left ++ toString n ++ right) hint =
          c.unit (left ++ String.ofList ('^' :: digits) ++ right) hint) := by
  refine ⟨p.readAlike, fun around read => ?_⟩
  have barriers := fun c => isBarrier_of_power p.integer (c := c)
  have caret : ∀ c ∈ '^' :: digits, (IsBarrier c c ∧ Symbol.foldMicro c = c) ∧ isBlank c = false :=
    List.forall_mem_cons.2 ⟨barriers _ (.inl (by simp)), fun c mem => barriers c (.inr (.inl mem))⟩
  have normal := read
  rw [around.ofText_eq (List.cons_ne_nil _ _) caret] at normal
  refine ⟨?_, fun c hint power known letter free => ?_⟩
  · refine (p.readAlike normal).congr p.integer.integer.characters.1 fun power filled signs => ?_
    exact around.ofText_eq filled fun c mem => barriers c (signs c mem)
  · obtain ⟨K, rfl, trailing⟩ := p.ofChars_trailing power normal
    have digits := isPlainInteger_toString n
    have read' := around.ofText_eq digits.integer.characters.1 fun c mem =>
      isBarrier_of_power digits (.inr (.inl mem))
    rw [String.ofList_toList, trailing] at read'
    have filled : x ≠ [] := by
      rintro rfl
      cases p.name
    exact c.unit_of_trailingPower? read read' free
      (Catalog.trailingPower?_append power filled letter) known

/-- The square of the metre within a divisor. -/
theorem spellings_agree_square_metre :
    HasPower "kg/(s*".toList ['m'] ['2'] [')'] 2 ∧
      ofText "kg/(s*m^(2))" = ofText "kg/(s*m^2)" ∧
      Catalog.standard.unit "kg/(s*m2)" = Catalog.standard.unit "kg/(s*m^2)" := by
  have place : HasPower "kg/(s*".toList ['m'] ['2'] [')'] 2 :=
    ⟨by decide, by rintro c ⟨⟩; decide,
      ⟨Number.isInteger_toString 2, List.forall_mem_singleton.2 (by decide)⟩,
      stopsAt_cons.2 (by decide)⟩
  have around : NormalAround "kg/(s*m" ")" ("kg/(s*".toList ++ ['m']) [')'] :=
    ⟨by decide, by decide⟩
  have read : ofText ("kg/(s*m" ++ String.ofList ['^', '2'] ++ ")") =
      .ok (.div (.name "kg") (.mul (.name "s") (.pow (.name "m") 2))) := by decide
  obtain ⟨-, raw⟩ := place.spellings_agree
  obtain ⟨alike, unit⟩ := raw around read
  have metre : Catalog.standard.contains "m" = true := by
    obtain ⟨r, found, -⟩ := Catalog.hasBaseUnits_standard ("m", .ofLength) (by decide)
    rw [Catalog.contains]
    exact congrArg Option.isSome found
  have normal : Symbol.normalize "m2" = "m2" := Symbol.normalize_of_isUnchanged (by decide)
  have unclaimed : Catalog.standard.contains "m2" = false :=
    Catalog.standard_contains_eq_false normal (by decide +kernel)
  refine ⟨place, (alike.group (by decide)).trans read.symm, ?_⟩
  exact unit .standard none (.inl rfl) metre (by rintro c ⟨⟩; decide)
    (Catalog.get?_of_contains_eq_false unclaimed)

end Raw

end UnitExpr

end Metrology
