import Metrology.Proofs.Number.Integer
import Metrology.Proofs.Symbol
import Metrology.Proofs.UnitExpr.Composition

/-!
# Texts that spell a single name

A run of name characters is one (`ofChars_of_isName`). A name may stand in parentheses and under a
first power, but no other sign may stand beside it. So neither a product nor a quotient spells a
single name (`not_name_of_star`, `not_name_of_slash`), and a power does only if its exponent is one
(`eq_one_of_name`).
-/

namespace Metrology

/-- Every power of a scale of dimension and factor one is such a scale. -/
theorem Scale.dropOffset_eq_one_of_pow {s t : Scale} {n : Int} (hs : s.dropOffset = one)
    (h : s.pow n = .ok t) : t.dropOffset = one := by
  have dimension : s.dimension = Dimension.one := congrArg Scale.dimension hs
  have factor : s.factor = 1 := congrArg Scale.factor hs
  rcases pow_cases h with ⟨-, rfl⟩ | rfl
  · exact hs
  · rw [dimension, factor, Dimension.one_pow, one_zpow]
    rfl

namespace UnitExpr

open Text

/-! ## Names -/

/-- A single name of the grammar. -/
def isName : List Char → Bool
  | [] => false
  | c :: rest => isNameStart c && rest.all isNameChar

theorem derives_of_isName {cs : List Char} (h : isName cs = true) {after : List Char}
    (maximal : StopsAt isNameChar after) :
    Derives .factor cs after (.name (String.ofList cs)) 0 0 := by
  cases cs with
  | nil => cases h
  | cons c rest =>
    obtain ⟨start, run⟩ := Bool.and_eq_true_iff.1 h
    exact .name start (List.all_eq_true.1 run) maximal

theorem isNameChar_of_isName {cs : List Char} (h : isName cs = true) :
    ∀ c ∈ cs, isNameChar c = true := by
  cases cs with
  | nil => cases h
  | cons c rest =>
    obtain ⟨start, run⟩ := Bool.and_eq_true_iff.1 h
    exact List.forall_mem_cons.2 ⟨(Bool.and_eq_true_iff.1 start).1, List.all_eq_true.1 run⟩

/-- A single name is read as the name that it is. -/
theorem ofChars_of_isName {cs : List Char} (h : isName cs = true) :
    ofChars cs = .ok (.name (String.ofList cs)) := by
  have clean : ∀ c ∈ cs, c ∉ strayChars := by
    intro c mem stray
    have plain := isNameChar_of_isName h c mem
    simp [isNameChar, stray] at plain
  have derived := Derives.single .nil (.bare (derives_of_isName h (.nil isNameChar)))
  exact ofChars_of_spells clean ⟨cs, [], (List.append_nil cs).symm, .nil, derived⟩ (Nat.zero_le _)
    (Nat.zero_le _)

/-- A text whose normal form is a single name is read as this name. -/
theorem ofText_of_isName {text : String}
    (single : isName (Symbol.normalize text).toList = true) :
    UnitExpr.ofText text = .ok (.name (Symbol.normalize text)) := by
  rw [UnitExpr.ofText, ofChars_of_isName single, String.ofList_toList]

/-! ## Signs -/

/-- No slash, and no star but in a power sign. -/
structure Signless (cs : List Char) : Prop where
  slash : '/' ∉ cs
  stars : ∀ front rest, cs = front ++ '*' :: rest →
    front.getLast? = some '*' ∨ rest.head? = some '*'

namespace Signless

variable {a b : List Char}

theorem append (ha : Signless a) (hb : Signless b) : Signless (a ++ b) := by
  refine ⟨fun mem => (List.mem_append.1 mem).elim ha.slash hb.slash, fun front rest split => ?_⟩
  rcases List.append_eq_append_iff.1 split with ⟨middle, rfl, rfl⟩ | ⟨middle, rfl, same⟩
  · -- the star stands in the second text
    refine (hb.stars middle rest rfl).imp_left fun last => ?_
    rw [List.getLast?_append, last]
    rfl
  · cases middle with
    | nil => exact .inr (by
        have first := hb.stars [] rest same.symm
        simpa using first)
    | cons c middle =>
      obtain ⟨rfl, rfl⟩ := List.cons.inj same
      refine (ha.stars front middle rfl).imp_right fun first => ?_
      change (middle ++ b).head? = some '*'
      rw [List.head?_append, first]
      rfl

theorem of_forall {cs : List Char} (plain : ∀ c ∈ cs, c ≠ '/' ∧ c ≠ '*') : Signless cs := by
  refine ⟨fun mem => (plain _ mem).1 rfl, ?_⟩
  rintro front rest rfl
  exact absurd rfl (plain '*' (by simp)).2

theorem stars_pair : Signless ['*', '*'] := by
  refine ⟨by decide, fun front rest split => ?_⟩
  cases front with
  | nil =>
    obtain ⟨-, rfl⟩ := List.cons.inj split
    exact .inr rfl
  | cons c front =>
    obtain ⟨rfl, split⟩ := List.cons.inj split
    cases front with
    | nil => exact .inl rfl
    | cons d front =>
      obtain ⟨-, split⟩ := List.cons.inj split
      cases front with
      | nil => cases split
      | cons e front => cases split

end Signless

/-- The characters that join terms or raise them. -/
def operators : List Char := ['*', '/', '^']

theorem not_mem_of_class {p : Char → Bool} {listed : List Char} (none : listed.any p = false)
    {c : Char} (h : p c = true) : c ∉ listed := by
  intro mem
  rw [List.any_eq_false.1 none c mem |> Bool.eq_false_iff.2] at h
  cases h

theorem not_mem_operators_of_isBlank {c : Char} (h : isBlank c = true) : c ∉ operators :=
  not_mem_of_class (p := isBlank) (by decide) h

theorem not_mem_operators_of_blanks {blanks : List Char} (h : Blanks blanks) :
    ∀ c ∈ blanks, c ∉ operators :=
  fun c mem => not_mem_operators_of_isBlank (h c mem)

theorem Signless.of_operators {cs : List Char} (plain : ∀ c ∈ cs, c ∉ operators) : Signless cs := by
  refine .of_forall fun c mem => ⟨?_, ?_⟩
  all_goals
    rintro rfl
    exact plain _ mem (by decide)

theorem Exponent.plain {text : List Char} {n : Int} {d : Nat} (h : Exponent text n d) :
    ∀ c ∈ text, c ∉ operators := by
  induction h with
  | digits hblanks hsign nonempty short values bounded =>
    intro c mem
    rcases List.mem_append.1 mem with mem | digit
    · rcases List.mem_append.1 mem with blank | sign
      · exact not_mem_operators_of_isBlank (hblanks c blank)
      · rcases hsign with rfl | rfl | rfl
        · cases sign
        · rw [List.mem_singleton.1 sign]
          decide
        · rw [List.mem_singleton.1 sign]
          decide
    · exact not_mem_of_class (p := isDigitSign) (by decide)
        (isDigitSign_of_mapM values c digit)
  | group hblanks inner hclosing ih =>
    intro c mem
    simp only [List.mem_append, List.mem_cons, List.not_mem_nil, or_false] at mem
    rcases mem with ((blank | rfl | inside) | closing) | rfl
    · exact not_mem_operators_of_isBlank (hblanks c blank)
    · decide
    · exact ih c inside
    · exact not_mem_operators_of_isBlank (hclosing c closing)
    · decide

/-! ## Products and quotients -/

theorem toPower_eq_name_iff {e : UnitExpr} {n : Int} {s : String} :
    e.toPower n = .name s ↔ n = 1 ∧ e = .name s := by
  refine toPower_cases e n (fun first => ?_) (fun zero => ?_) fun other _ => ?_
  · simp [first]
  · simp [zero]
  · simp [other]

/-- A text that spells a single name has no sign of a product or a quotient. -/
theorem Derives.signless {part : Part} {text after : List Char} {e : UnitExpr} {k d : Nat}
    (h : Derives part text after e k d) {s : String} (named : e = .name s) : Signless text := by
  induction h with
  | name start run maximal =>
    refine .of_operators (List.forall_mem_cons.2 ⟨?_, fun c mem => ?_⟩)
    · exact not_mem_of_class (p := isNameStart) (by decide) start
    · exact not_mem_of_class (p := isNameChar) (by decide) (run c mem)
  | one => cases named
  | group inner hclosing ih =>
    have closing := Signless.of_operators (not_mem_operators_of_blanks hclosing)
    have opening : Signless ['('] := .of_operators (List.forall_mem_singleton.2 (by decide))
    have last : Signless [')'] := .of_operators (List.forall_mem_singleton.2 (by decide))
    exact ((opening.append (ih named)).append closing).append last
  | bare factor ih => exact ih named
  | @power base blanks sign exponent after e n k d l factor hblanks hsign hexponent ih =>
    obtain ⟨-, base⟩ := toPower_eq_name_iff.1 named
    have gap := Signless.of_operators (not_mem_operators_of_blanks hblanks)
    have power : Signless sign := by
      rcases hsign with rfl | rfl
      · exact .of_forall (List.forall_mem_singleton.2 (by decide))
      · exact .stars_pair
    exact (((ih base).append gap).append power).append (.of_operators hexponent.plain)
  | superscript factor hblanks nonempty run maximal value bounded ih =>
    obtain ⟨-, base⟩ := toPower_eq_name_iff.1 named
    have gap := Signless.of_operators (not_mem_operators_of_blanks hblanks)
    refine ((ih base).append gap).append (.of_operators fun c mem => ?_)
    exact not_mem_of_class (p := Label.isSuperscript) (by decide) (run c mem)
  | single hblanks term ih =>
    exact (Signless.of_operators (not_mem_operators_of_blanks hblanks)).append (ih named)
  | @joined _ _ _ _ _ _ joint =>
    cases joint with
    | times => cases named
    | per => cases named
  | juxtaposed => cases named

/-- What is read as a single name has no sign of a product or a quotient. -/
theorem signless_of_ofChars {cs : List Char} {s : String} (h : ofChars cs = .ok (.name s)) :
    Signless cs := by
  obtain ⟨-, k, d, ⟨text, blanks, rfl, hblanks, derived⟩, -, -⟩ := spells_of_ofChars h
  exact (derived.signless rfl).append (.of_operators (not_mem_operators_of_blanks hblanks))

/-! ## Ends of texts -/

/-- No star stands at either end of a text. -/
structure Starless (cs : List Char) : Prop where
  front : cs.head? ≠ some '*'
  back : cs.getLast? ≠ some '*'

theorem Starless.append {a b : List Char} (ha : a.head? ≠ some '*') (hb : b.getLast? ≠ some '*')
    (filledA : a ≠ []) (filledB : b ≠ []) : Starless (a ++ b) := by
  refine ⟨?_, ?_⟩
  · rwa [List.head?_append_of_ne_nil _ filledA]
  · rwa [List.getLast?_append_of_ne_nil _ filledB]

theorem Starless.joined {a b : List Char} (ha : a.head? ≠ some '*') (hb : b.getLast? ≠ some '*')
    (filledA : a ≠ []) (filledB : b ≠ []) (c : Char) : Starless (a ++ c :: b) := by
  refine .append ha ?_ filledA (List.cons_ne_nil c b)
  obtain ⟨d, rest, rfl⟩ := List.exists_cons_of_ne_nil filledB
  rwa [List.getLast?_cons_cons]

theorem getLast?_ne_star {cs : List Char} (plain : ∀ c ∈ cs, c ∉ operators) :
    cs.getLast? ≠ some '*' := by
  intro last
  exact plain '*' (List.mem_of_getLast? last) (by decide)

theorem Exponent.ne_nil {text : List Char} {n : Int} {d : Nat} (h : Exponent text n d) :
    text ≠ [] := by
  cases h with
  | digits hblanks hsign nonempty => simp [nonempty]
  | group => simp

theorem Derives.head?_ne_star {part : Part} {text after : List Char} {e : UnitExpr} {k d : Nat}
    (h : Derives part text after e k d) : text ≠ [] ∧ text.head? ≠ some '*' := by
  have solid {text : List Char} (begins : ∃ c rest, text = c :: rest ∧ isTermStart c = true) :
      text ≠ [] ∧ text.head? ≠ some '*' := by
    obtain ⟨c, rest, rfl, start⟩ := begins
    refine ⟨List.cons_ne_nil c rest, fun same => ?_⟩
    cases Option.some.inj same
    cases (solid_of_isTermStart start).2.1
  induction h with
  | name start run maximal => exact solid (Derives.name start run maximal).begins_factor
  | one maximal => exact solid (Derives.one maximal).begins_factor
  | group inner hclosing => exact solid (Derives.group inner hclosing).begins_factor
  | bare factor ih => exact ih
  | power factor hblanks hsign hexponent ih =>
    simpa only [List.append_assoc, List.head?_append_of_ne_nil _ ih.1] using ⟨by simp [ih.1], ih.2⟩
  | superscript factor hblanks nonempty run maximal value bounded ih =>
    simpa only [List.append_assoc, List.head?_append_of_ne_nil _ ih.1] using ⟨by simp [ih.1], ih.2⟩
  | @single blanks text after e k d hblanks term ih =>
    cases blanks with
    | nil => exact ih
    | cons b blanks =>
      refine ⟨by simp, fun same => ?_⟩
      cases Option.some.inj same
      cases hblanks.of_cons.1
  | joined first hbefore hsign hbehind last ihFirst ihLast =>
    simpa only [List.append_assoc, List.head?_append_of_ne_nil _ ihFirst.1] using
      ⟨by simp [ihFirst.1], ihFirst.2⟩
  | juxtaposed first hbetween nonempty begins last ihFirst ihLast =>
    simpa only [List.append_assoc, List.head?_append_of_ne_nil _ ihFirst.1] using
      ⟨by simp [ihFirst.1], ihFirst.2⟩

theorem Derives.getLast?_ne_star {part : Part} {text after : List Char} {e : UnitExpr} {k d : Nat}
    (h : Derives part text after e k d) : text.getLast? ≠ some '*' := by
  induction h with
  | name start run maximal =>
    refine UnitExpr.getLast?_ne_star (List.forall_mem_cons.2 ⟨?_, fun c mem => ?_⟩)
    · exact not_mem_of_class (p := isNameStart) (by decide) start
    · exact not_mem_of_class (p := isNameChar) (by decide) (run c mem)
  | one => decide
  | group =>
    rw [List.getLast?_concat]
    decide
  | bare factor ih => exact ih
  | power factor hblanks hsign hexponent ih =>
    rw [List.getLast?_append_of_ne_nil _ hexponent.ne_nil]
    exact UnitExpr.getLast?_ne_star hexponent.plain
  | superscript factor hblanks nonempty run maximal value bounded ih =>
    rw [List.getLast?_append_of_ne_nil _ nonempty]
    refine UnitExpr.getLast?_ne_star fun c mem => ?_
    exact not_mem_of_class (p := Label.isSuperscript) (by decide) (run c mem)
  | single hblanks term ih =>
    rwa [List.getLast?_append_of_ne_nil _ term.head?_ne_star.1]
  | joined first hbefore hsign hbehind last ihFirst ihLast =>
    rwa [List.getLast?_append_of_ne_nil _ last.head?_ne_star.1]
  | juxtaposed first hbetween nonempty begins last ihFirst ihLast =>
    rwa [List.getLast?_append_of_ne_nil _ last.head?_ne_star.1]

/-! ## Products and quotients -/

/-- A star between two texts that have none at their ends is a sign. -/
theorem not_name_of_star {left right : List Char} (hleft : left.getLast? ≠ some '*')
    (hright : right.head? ≠ some '*') (s : String) :
    ofChars (left ++ '*' :: right) ≠ .ok (.name s) := by
  intro read
  exact ((signless_of_ofChars read).stars left right rfl).elim hleft hright

theorem not_name_of_slash {cs : List Char} (mem : '/' ∈ cs) (s : String) :
    ofChars cs ≠ .ok (.name s) :=
  fun read => (signless_of_ofChars read).slash mem

/-! ## Powers -/

/-- The texts in front of the last character outside a class and behind it are unique. -/
theorem split_last_unique {p : Char → Bool} {front front' tail tail' : List Char} {c c' : Char}
    (inside : ∀ d ∈ tail, p d = true) (inside' : ∀ d ∈ tail', p d = true) (hc : p c = false)
    (hc' : p c' = false) (same : front ++ c :: tail = front' ++ c' :: tail') :
    front = front' ∧ c = c' ∧ tail = tail' := by
  -- read from the end, the tail is what stands in front of the first character outside the class
  have reversed := congrArg List.reverse same
  rw [List.reverse_append, List.reverse_append, List.reverse_cons, List.reverse_cons,
    List.append_assoc, List.append_assoc, List.singleton_append,
    List.singleton_append] at reversed
  have taken := congrArg (List.takeWhile p) reversed
  rw [takeWhile_append_of_stopsAt (by simpa using inside) (stopsAt_cons.2 hc),
    takeWhile_append_of_stopsAt (by simpa using inside') (stopsAt_cons.2 hc'),
    List.reverse_inj] at taken
  subst taken
  have left := List.append_cancel_left reversed
  obtain ⟨rfl, rest⟩ := List.cons.inj left
  exact ⟨List.reverse_inj.1 rest, rfl, rfl⟩

theorem signed_eq_signedValue (sign : List Char) (run : List Nat) :
    signed sign run = Number.signedValue (sign = ['-']) run := by
  simp [signed, Number.signedValue]

/-- The exponent that an integer text spells is this integer. -/
theorem Exponent.eq_of_isInteger {text : List Char} {n m : Int} {d : Nat} (h : Exponent text n d)
    (integer : Number.IsInteger text m) : n = m := by
  cases h with
  | @digits blanks sign digits run hblanks hsign filled short values bounded =>
    cases blanks with
    | nil =>
      rw [signed_eq_signedValue]
      exact (Number.isInteger_of_digits hsign filled values).unique integer
    | cons b blanks =>
      have solid := integer.solid b (by simp)
      rw [hblanks.of_cons.1] at solid
      cases solid
  | group hblanks inner hclosing =>
    -- a parenthesis is no part of an integer
    have other := integer.not_class (p := fun c => c == '(') (by decide) (fun c digit => by
      rw [beq_eq_false_iff_ne]
      rintro rfl
      cases digit) '(' (by simp)
    cases other

/-- The characters of an integer are no operators. -/
theorem plain_of_isInteger {text : List Char} {m : Int} (integer : Number.IsInteger text m) :
    ∀ c ∈ text, c ∉ operators := by
  intro c mem
  rcases integer.characters.2 c mem with rfl | rfl | digit
  · decide
  · decide
  · exact not_mem_of_class (p := isDecimalDigit) (by decide) digit

/-- The last character of a text that an integer ends. -/
theorem last_of_isInteger {front tail : List Char} {m : Int} (integer : Number.IsInteger tail m)
    {c : Char} (last : (front ++ tail).getLast? = some c) :
    c = '-' ∨ c = '+' ∨ isDecimalDigit c = true := by
  rw [List.getLast?_append_of_ne_nil _ integer.characters.1] at last
  exact integer.characters.2 c (List.mem_of_getLast? last)

theorem Exponent.bounded {text : List Char} {n : Int} {d : Nat} (h : Exponent text n d) :
    n.natAbs ≤ exponentLimit := by
  induction h with
  | digits hblanks hsign nonempty short values bounded => exact bounded
  | group hblanks inner hclosing ih => exact ih

/-- A term whose power sign an integer follows is a factor raised to this power. -/
theorem Derives.of_caret {text after front tail : List Char} {e : UnitExpr} {k d : Nat} {m : Int}
    (h : Derives .term text after e k d) (shape : text = front ++ '^' :: tail)
    (integer : Number.IsInteger tail m) :
    ∃ base blanks f k' d', front = base ++ blanks ∧ Blanks blanks ∧
      Derives .factor base (blanks ++ ['^'] ++ tail ++ after) f k' d' ∧ e = f.toPower m ∧
        m.natAbs ≤ exponentLimit := by
  have caret : '^' ∈ text := by simp [shape]
  have ending : text = (front ++ ['^']) ++ tail := by simp [shape]
  cases h with
  | bare factor =>
    cases factor with
    | name start run maximal =>
      exfalso
      rcases List.mem_cons.1 caret with rfl | mem
      · cases start
      · cases run _ mem
    | one => cases List.mem_singleton.1 caret
    | @group text closing after e k d inner hclosing =>
      -- a parenthesis ends the group, but no integer
      have last : ('(' :: text ++ closing ++ [')']).getLast? = some ')' := List.getLast?_concat
      rw [ending] at last
      rcases last_of_isInteger integer last with same | same | digit
      · cases same
      · cases same
      · cases digit
  | @power base blanks sign exponent after e n k d l factor hblanks hsign hexponent =>
    have inside : ∀ c ∈ tail, (!operators.contains c) = true := by
      simpa using plain_of_isInteger integer
    have inside' : ∀ c ∈ exponent, (!operators.contains c) = true := by
      simpa using hexponent.plain
    rcases hsign with rfl | rfl
    · have shape : base ++ blanks ++ '^' :: exponent = front ++ '^' :: tail := by simpa using shape
      obtain ⟨rfl, -, rfl⟩ :=
        split_last_unique inside' inside (by decide) (by decide) shape
      obtain rfl := hexponent.eq_of_isInteger integer
      exact ⟨base, blanks, e, k, d, rfl, hblanks, factor, rfl, hexponent.bounded⟩
    · -- the last operator is no star
      have shape : base ++ blanks ++ ['*'] ++ '*' :: exponent = front ++ '^' :: tail := by
        simpa using shape
      cases (split_last_unique inside' inside (by decide) (by decide) shape).2.1
  | @superscript base blanks raised after e n k d factor hblanks nonempty run maximal value
      bounded =>
    obtain ⟨c, last⟩ : ∃ c, raised.getLast? = some c :=
      ⟨_, List.getLast?_eq_some_getLast nonempty⟩
    have high := run c (List.mem_of_getLast? last)
    rw [← List.getLast?_append_of_ne_nil (base ++ blanks) nonempty, ending] at last
    rcases last_of_isInteger integer last with rfl | rfl | digit
    · cases high
    · cases high
    · rw [isDecimalDigit_of_isSuperscript high] at digit
      cases digit

theorem isNameChar_of_isSuperscript {c : Char} (h : Label.isSuperscript c = true) :
    isNameChar c = false := by
  simp [isNameChar, h]

/-- Outside parentheses, no superscript belongs to a factor. -/
theorem Derives.low {text after : List Char} {e : UnitExpr} {k d : Nat}
    (h : Derives .factor text after e k d) (plain : '(' ∉ text) :
    ∀ c ∈ text, (!Label.isSuperscript c) = true := by
  intro c mem
  cases h with
  | name start run maximal =>
    have names : isNameChar c = true := by
      rcases List.mem_cons.1 mem with rfl | mem
      · exact (Bool.and_eq_true_iff.1 start).1
      · exact run c mem
    cases high : Label.isSuperscript c with
    | false => rfl
    | true =>
      rw [isNameChar_of_isSuperscript high] at names
      cases names
  | one =>
    rw [List.mem_singleton.1 mem]
    decide
  | group => exact absurd (by simp) plain

/-- A term of a name and superscripts is a factor raised to the power that they spell. -/
theorem Derives.of_raised {text after front raised : List Char} {e : UnitExpr} {k d : Nat} {m : Int}
    (h : Derives .term text after e k d) (shape : text = front ++ raised) (filled : front ≠ [])
    (name : ∀ c ∈ front, Label.isBaseChar c = true) (nonempty : raised ≠ [])
    (high : ∀ c ∈ raised, Label.isSuperscript c = true)
    (integer : Number.IsInteger (raised.map Label.lower) m) :
    ∃ f k' d', Derives .factor front (raised ++ after) f k' d' ∧ e = f.toPower m := by
  -- of the signs, only superscripts occur
  have kinds : ∀ c ∈ text, Label.isBaseChar c = true ∨ Label.isSuperscript c = true := by
    rw [shape]
    exact List.forall_mem_append.2 ⟨fun c mem => .inl (name c mem), fun c mem => .inr (high c mem)⟩
  have absent {c : Char} (sign : Label.isBaseChar c = false ∧ Label.isSuperscript c = false) :
      c ∉ text := by
    intro mem
    rcases kinds c mem with base | raised
    · rw [sign.1] at base
      cases base
    · rw [sign.2] at raised
      cases raised
  have low : ∀ c ∈ front, (!Label.isSuperscript c) = true := by
    intro c mem
    have base := name c mem
    simp only [Label.isBaseChar, Bool.not_eq_true', Bool.or_eq_false_iff] at base
    simp [base.2]
  obtain ⟨c, last⟩ : ∃ c, raised.getLast? = some c := ⟨_, List.getLast?_eq_some_getLast nonempty⟩
  have highC := high c (List.mem_of_getLast? last)
  rw [← List.getLast?_append_of_ne_nil front nonempty, ← shape] at last
  cases h with
  | bare factor =>
    have lowC := factor.low (absent (by decide)) c (List.mem_of_getLast? last)
    rw [highC] at lowC
    cases lowC
  | @power base blanks sign exponent after e n k d l factor hblanks hsign hexponent =>
    rcases hsign with rfl | rfl
    · exact absurd (by simp) (absent (c := '^') (by decide))
    · exact absurd (by simp) (absent (c := '*') (by decide))
  | @superscript base blanks raised' after e n k d factor hblanks nonempty' run maximal value
      bounded =>
    have none : blanks = [] := by
      cases blanks with
      | nil => rfl
      | cons b blanks =>
        refine absurd (by simp) (absent (c := b) ?_)
        have blank := hblanks.of_cons.1
        exact ⟨by simp [Label.isBaseChar, blank], isSuperscript_of_isBlank blank⟩
    subst none
    rw [List.append_nil] at shape
    have lowBase : ∀ c ∈ base, (!Label.isSuperscript c) = true :=
      factor.low fun mem => absent (c := '(') (by decide) (by simp [mem])
    have stops {raised : List Char} (nonempty : raised ≠ [])
        (high : ∀ c ∈ raised, Label.isSuperscript c = true) :
        StopsAt (fun c => !Label.isSuperscript c) raised := by
      obtain ⟨c, rest, rfl⟩ := List.exists_cons_of_ne_nil nonempty
      exact stopsAt_cons.2 (by simp [high c List.mem_cons_self])
    -- both texts are cut in front of their first superscript
    have taken := congrArg (List.takeWhile fun c => !Label.isSuperscript c) shape
    rw [takeWhile_append_of_stopsAt lowBase (stops nonempty' run),
      takeWhile_append_of_stopsAt low (stops nonempty high)] at taken
    subst taken
    obtain rfl := List.append_cancel_left shape
    exact ⟨e, k, d, by simpa using factor, by rw [Number.eq_of_isInteger integer value]⟩

/-- A power is read as a single name only if its exponent is one. -/
theorem eq_one_of_name {front tail : List Char} {m : Int} {s : String}
    (integer : Number.IsInteger tail m) (h : ofChars (front ++ '^' :: tail) = .ok (.name s)) :
    m = 1 := by
  obtain ⟨-, k, d, ⟨text, closing, same, hclosing, derived⟩, -, -⟩ := spells_of_ofChars h
  obtain rfl : closing = [] := by
    cases last : closing.getLast? with
    | none => exact List.getLast?_eq_none_iff.1 last
    | some c =>
      -- the last character belongs to the integer, so it is no blank
      have blank := hclosing c (List.mem_of_getLast? last)
      have filled : closing ≠ [] := by
        rintro rfl
        cases last
      have ending : front ++ '^' :: tail = (front ++ ['^']) ++ tail := by simp
      rw [← List.getLast?_append_of_ne_nil text filled, ← same, ending] at last
      rcases last_of_isInteger integer last with rfl | rfl | digit
      · cases blank
      · cases blank
      · rw [Number.isBlank_of_isDecimalDigit digit] at blank
        cases blank
  rw [List.append_nil] at same
  subst same
  generalize named : UnitExpr.name s = e at derived
  generalize shape : front ++ '^' :: tail = text at derived
  cases derived with
  | @single blanks text after e k d hblanks term =>
    obtain ⟨front', split⟩ : ∃ front', text = front' ++ '^' :: tail := by
      rcases List.append_eq_append_iff.1 shape with ⟨middle, rfl, same⟩ | ⟨middle, -, same⟩
      · cases middle with
        | nil => exact ⟨[], same.symm⟩
        | cons c middle =>
          obtain ⟨rfl, -⟩ := List.cons.inj same
          cases hblanks '^' (by simp)
      · exact ⟨middle, same⟩
    obtain ⟨base, gap, f, k', d', -, -, -, rfl, -⟩ := term.of_caret split integer
    exact (toPower_eq_name_iff.1 named.symm).1
  | @joined _ _ _ _ _ _ joint =>
    cases joint with
    | times => cases named
    | per => cases named
  | juxtaposed => cases named

/-! ## Powers that name no unit -/

/-- An expression without blanks and signs of products is a term. -/
theorem Derives.term_of_forall {text after : List Char} {e : UnitExpr} {k d : Nat}
    (h : Derives .expression text after e k d)
    (plain : ∀ c ∈ text, isBlank c = false ∧ jointOf? c = none) :
    Derives .term text after e k d := by
  have solid {blanks : List Char} (hblanks : Blanks blanks) (inside : ∀ c ∈ blanks, c ∈ text) :
      blanks = [] := by
    cases blanks with
    | nil => rfl
    | cons b blanks =>
      have none := (plain b (inside b List.mem_cons_self)).1
      rw [hblanks.of_cons.1] at none
      cases none
  cases h with
  | single hblanks term =>
    obtain rfl := solid hblanks (fun c mem => by simp [mem])
    exact term
  | @joined left before behind right after sign joint e f k l d m first hbefore hsign =>
    have none := (plain sign (by simp)).2
    rw [hsign] at none
    cases none
  | juxtaposed first hbetween nonempty begins last =>
    exact absurd (solid hbetween fun c mem => by simp [mem]) nonempty

theorem Derives.eq_one {after : List Char} {e : UnitExpr} {k d : Nat}
    (h : Derives .factor ['1'] after e k d) : e = .one := by
  generalize same : ['1'] = text at h
  cases h with
  | name start =>
    obtain ⟨rfl, -⟩ := List.cons.inj same
    cases start
  | one => rfl
  | group => cases (List.cons.inj same).1

/-- The zeroth power of a unit and every power of one are one. -/
theorem scaleOf_toPower {c : Catalog} {f : UnitExpr} {m : Int} {s : Scale}
    (trivial : m = 0 ∨ f = .one) (h : c.scaleOf (f.toPower m) = .ok s) : s = Scale.one := by
  by_cases zero : m = 0
  · subst zero
    cases h
    rfl
  obtain rfl := trivial.resolve_left zero
  unfold toPower at h
  split at h
  · cases h
    rfl
  · obtain ⟨t, base, power⟩ := bind_eq_ok_iff.1 h
    cases base
    rw [← Scale.dropOffset_of_pow rfl power]
    exact Scale.dropOffset_eq_one_of_pow rfl power

theorem term_of_ofChars {cs : List Char} {e : UnitExpr}
    (plain : ∀ c ∈ cs, isBlank c = false ∧ jointOf? c = none) (h : ofChars cs = .ok e) :
    ∃ k d, Derives .term cs [] e k d := by
  obtain ⟨-, k, d, ⟨text, closing, rfl, hclosing, derived⟩, -, -⟩ := spells_of_ofChars h
  obtain rfl : closing = [] := by
    cases closing with
    | nil => rfl
    | cons b closing =>
      have solid := (plain b (by simp)).1
      rw [hclosing.of_cons.1] at solid
      cases solid
  rw [List.append_nil] at plain ⊢
  exact ⟨k, d, derived.term_of_forall plain⟩

theorem plain_of_isBaseChar {c : Char} (h : Label.isBaseChar c = true) :
    isBlank c = false ∧ jointOf? c = none := by
  simp only [Label.isBaseChar, Bool.not_eq_true', Bool.or_eq_false_iff,
    beq_eq_false_iff_ne] at h
  obtain ⟨⟨⟨⟨⟨⟨⟨star, slash⟩, dot⟩, -⟩, -⟩, -⟩, blank⟩, -⟩ := h
  exact ⟨blank, by simp [jointOf?, star, slash, dot]⟩

section Raised

variable {base tail raised : List Char} {m : Int} {e : UnitExpr}

/-- Outside parentheses, a factor is a name or one. -/
theorem Derives.atom {text after : List Char} {k d : Nat} (h : Derives .factor text after e k d)
    (plain : '(' ∉ text) : Derives .factor text [] e 0 0 := by
  cases h with
  | name start run maximal => exact .name start run (.nil _)
  | one maximal => exact .one (.nil _)
  | group => exact absurd (by simp) plain

theorem parenless_of_isBaseChar (name : ∀ c ∈ base, Label.isBaseChar c = true) : '(' ∉ base := by
  intro mem
  cases name '(' mem

/-- A name with an exponent spells a factor to this power. -/
theorem exists_factor_of_caret (name : ∀ c ∈ base, Label.isBaseChar c = true)
    (integer : Number.IsInteger tail m) (read : ofChars (base ++ '^' :: tail) = .ok e) :
    ∃ f, Derives .factor base [] f 0 0 ∧ e = f.toPower m ∧ m.natAbs ≤ exponentLimit := by
  have plain : ∀ c ∈ base ++ '^' :: tail, isBlank c = false ∧ jointOf? c = none := by
    refine List.forall_mem_append.2 ⟨fun c mem => plain_of_isBaseChar (name c mem),
      List.forall_mem_cons.2 ⟨by decide, fun c mem => ?_⟩⟩
    exact plain_of_isBaseChar (integer.isBaseChar c mem)
  obtain ⟨k, d, term⟩ := term_of_ofChars plain read
  obtain ⟨front, gap, f, k', d', rfl, hgap, factor, rfl, low⟩ := term.of_caret rfl integer
  obtain rfl : gap = [] := by
    cases gap with
    | nil => rfl
    | cons b gap =>
      have solid := (plain b (by simp)).1
      rw [hgap.of_cons.1] at solid
      cases solid
  rw [List.append_nil] at name ⊢
  exact ⟨f, factor.atom (parenless_of_isBaseChar name), rfl, low⟩

/-- The same with the power in superscripts. -/
theorem exists_factor_of_raised (filled : base ≠ [])
    (name : ∀ c ∈ base, Label.isBaseChar c = true) (nonempty : raised ≠ [])
    (high : ∀ c ∈ raised, Label.isSuperscript c = true)
    (integer : Number.IsInteger (raised.map Label.lower) m)
    (read : ofChars (base ++ raised) = .ok e) :
    ∃ f, Derives .factor base [] f 0 0 ∧ e = f.toPower m := by
  have plain : ∀ c ∈ base ++ raised, isBlank c = false ∧ jointOf? c = none := by
    refine List.forall_mem_append.2 ⟨fun c mem => plain_of_isBaseChar (name c mem), fun c mem => ?_⟩
    exact forall_isSuperscript (p := fun c => isBlank c = false ∧ jointOf? c = none) (by decide)
      (high c mem)
  obtain ⟨k, d, term⟩ := term_of_ofChars plain read
  obtain ⟨f, k', d', factor, rfl⟩ := term.of_raised rfl filled name nonempty high integer
  exact ⟨f, factor.atom (parenless_of_isBaseChar name), rfl⟩

end Raised

end UnitExpr

end Metrology
