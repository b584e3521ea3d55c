import Metrology.Proofs.Label
import Metrology.Proofs.Number.Integer

/-!
# Powers as labels write them

A power of a label that is itself a name with an exponent multiplies the exponents; any other label
is given an exponent, in parentheses if need be. What the label of a power can be is said once
(`power_cases`). In normal form an exponent stays what it is (`form_append_integer`,
`form_append_raised`), so that a label is read as a power where it is written as one.
-/

namespace Metrology

open Text Number UnitExpr

namespace Label

/-! ## Names with an exponent -/

/-- A name with an integer exponent, behind a power sign or in superscripts. -/
structure IsPower (cs base : List Char) (k : Int) : Prop where
  filled : base ≠ []
  name : ∀ c ∈ base, isBaseChar c = true
  written : (∃ tail, cs = base ++ '^' :: tail ∧ IsInteger tail k) ∨
    ∃ raised, cs = base ++ raised ∧ raised ≠ [] ∧ (∀ c ∈ raised, isSuperscript c = true) ∧
      IsInteger (raised.map lower) k

theorem eq_nil_of_isEnd {front after : List Char} (tight : Tight (front ++ after))
    (ends : isEnd after = true) : after = [] := by
  unfold isEnd at ends
  split at ends
  · rfl
  · exact tight.eq_nil_of_append (by
      intro c mem
      rw [List.mem_singleton.1 mem]
      decide)
  · cases ends

/-- The characters of names with exponents. -/
theorem IsPower.characters {cs base : List Char} {k : Int} (h : IsPower cs base k) :
    ∀ c ∈ cs, isBaseChar c = true ∨ c = '^' ∨ isSuperscript c = true := by
  intro c mem
  rcases h.written with ⟨tail, rfl, integer⟩ | ⟨raised, rfl, -, high, -⟩
  · rcases List.mem_append.1 mem with inside | behind
    · exact .inl (h.name c inside)
    · rcases List.mem_cons.1 behind with rfl | digit
      · exact .inr (.inl rfl)
      · exact .inl (integer.isBaseChar c digit)
  · rcases List.mem_append.1 mem with inside | up
    · exact .inl (h.name c inside)
    · exact .inr (.inr (high c up))

/-- A name alone has no exponent. -/
theorem IsPower.not_name {cs base : List Char} {k : Int} (h : IsPower cs base k) :
    ¬ ∀ c ∈ cs, isBaseChar c = true := by
  intro name
  rcases h.written with ⟨tail, rfl, -⟩ | ⟨raised, rfl, nonempty, high, -⟩
  · cases name '^' (by simp)
  · obtain ⟨c, rest, rfl⟩ := List.exists_cons_of_ne_nil nonempty
    have other := name c (by simp)
    simp [isBaseChar, high c List.mem_cons_self] at other

/-- Where one power sign stands, it splits the text into name and exponent. -/
theorem IsPower.eq_of_caret {front tail base : List Char} {k m : Int}
    (h : IsPower (front ++ '^' :: tail) base k) (integer : IsInteger tail m)
    (plain : '^' ∉ front) : base = front ∧ k = m := by
  rcases h.written with ⟨tail', same, integer'⟩ | ⟨raised, same, -, high, -⟩
  · have digits : '^' ∉ tail := fun mem => plain_of_isInteger integer '^' mem (by decide)
    obtain ⟨rfl, -, rfl⟩ := (List.append_cons_inj_of_notMem plain digits).1 same
    exact ⟨rfl, integer'.unique integer⟩
  · have caret : '^' ∈ base ++ raised := same ▸ by simp
    rcases List.mem_append.1 caret with mem | mem
    · cases h.name '^' mem
    · cases high '^' mem

/-- What is found to be a name with an exponent behind a power sign is one. -/
theorem isPower_of_powerParts? {cs base : List Char} {k : Int} (tight : Tight cs)
    (h : powerParts? cs = some (base, k)) : IsPower cs base k := by
  have front : cs.takeWhile isBaseChar ++ cs.dropWhile isBaseChar = cs :=
    List.takeWhile_append_dropWhile
  have name := forall_takeWhile isBaseChar cs
  unfold powerParts? at h
  split at h
  · cases h
  · next rest dropped filled =>
    dsimp only at h
    split at h
    · cases h
    · next run after nonempty read =>
      obtain ⟨tail, rfl, integer⟩ := exists_isInteger read nonempty
      split at h
      · next ends =>
        cases h
        rw [dropped] at front
        have whole : cs = cs.takeWhile isBaseChar ++ '^' :: tail ++ after := by
          simpa using front.symm
        -- only a line feed may follow, and a trimmed label does not end with one
        obtain rfl := eq_nil_of_isEnd (whole ▸ tight) ends
        exact ⟨filled, name, .inl ⟨tail, by simpa using whole, integer⟩⟩
      · cases h
  · cases h

/-- What is found to be a name with superscripts is one. -/
theorem isPower_of_superscriptParts? {cs base : List Char} {k : Int} (tight : Tight cs)
    (h : superscriptParts? cs = some (base, k)) : IsPower cs base k := by
  have front : cs.takeWhile isBaseChar ++ cs.dropWhile isBaseChar = cs :=
    List.takeWhile_append_dropWhile
  have name := forall_takeWhile isBaseChar cs
  unfold superscriptParts? at h
  split at h
  · cases h
  · next filled =>
    dsimp only at h
    split at h
    · cases h
    · next run nonempty read =>
      split at h
      · next ends =>
        cases h
        have integer :
            IsInteger (((cs.dropWhile isBaseChar).takeWhile isSuperscript).map lower) _ :=
          ⟨run, read, nonempty, rfl⟩
        have whole : cs.takeWhile isBaseChar ++ (cs.dropWhile isBaseChar).takeWhile isSuperscript ++
            (cs.dropWhile isBaseChar).dropWhile isSuperscript = cs := by
          rw [List.append_assoc, List.takeWhile_append_dropWhile, front]
        rw [eq_nil_of_isEnd (whole ▸ tight) ends, List.append_nil] at whole
        refine ⟨filled, name, .inr ⟨_, whole.symm, ?_, forall_takeWhile isSuperscript _, integer⟩⟩
        exact fun empty => integer.characters.1 (by rw [empty]; rfl)
      · cases h
    · cases h

/-- The name and the exponent of a label that is a name with an exponent. -/
def exponent? (label : String) : Option (List Char × Int) :=
  (powerParts? (trim label.toList)).or (superscriptParts? (trim label.toList))

theorem isPower_of_exponent? {label : String} {base : List Char} {k : Int}
    (h : exponent? label = some (base, k)) : IsPower (trim label.toList) base k := by
  rcases Option.or_eq_some_iff.1 h with parts | ⟨-, parts⟩
  · exact isPower_of_powerParts? (tight_trim _) parts
  · exact isPower_of_superscriptParts? (tight_trim _) parts

/-! ## Labels of powers -/

/-- What the label of a power writes an exponent to, and which: the name of a name with an exponent,
a single term without power sign, or any label in parentheses. -/
inductive Raises (label : String) (n : Int) : List Char → Int → Prop where
  | name {base : List Char} {k : Int} (shown : exponent? label = some (base, k)) :
      Raises label n base (k * n)
  | term (named : isUnity label = false) (plain : '^' ∉ trim label.toList) :
      Raises label n (trim label.toList) n
  | group : Raises label n ('(' :: trim label.toList ++ [')']) n

theorem isBlank_of_isBaseChar {c : Char} (h : isBaseChar c = true) : isBlank c = false := by
  cases blank : isBlank c with
  | false => rfl
  | true =>
    rw [isBaseChar_of_isBlank blank] at h
    cases h

theorem Raises.tight {label : String} {n m : Int} {front : List Char}
    (h : Raises label n front m) : front ≠ [] ∧ Tight front := by
  cases h with
  | name shown =>
    have power := isPower_of_exponent? shown
    exact ⟨power.filled, tight_of_solid fun c mem => isBlank_of_isBaseChar (power.name c mem)⟩
  | term named plain => exact ⟨trim_ne_nil named, tight_trim _⟩
  | group =>
    refine ⟨by simp, stopsAt_cons.2 (by decide), ?_⟩
    rw [List.reverse_append]
    exact stopsAt_cons.2 (by decide)

theorem powerText_eq (base : List Char) {n : Int} (h : n ≠ 0) (h' : n ≠ 1) :
    powerText base n = String.ofList (base ++ '^' :: (toString n).toList) := by
  rw [powerText, if_neg h', if_neg h]
  exact String.toList_inj.1 (by simp)

/-- A name with an exponent is no pure number. -/
theorem isUnity_of_exponent? {label : String} {base : List Char} {k : Int}
    (h : exponent? label = some (base, k)) : isUnity label = false := by
  cases unity : isUnity label with
  | false => rfl
  | true =>
    have power := isPower_of_exponent? h
    rcases isUnity_iff.1 unity with text | text
    · exact absurd (text ▸ List.forall_mem_nil _) power.not_name
    · exact absurd (text ▸ List.forall_mem_singleton.2 (by decide)) power.not_name

/-- The exponents of a name with an exponent are multiplied. -/
theorem power_of_exponent? {label : String} {base : List Char} {k n : Int}
    (h : exponent? label = some (base, k)) (nonzero : n ≠ 0) (other : n ≠ 1) :
    power label n = powerText base (k * n) := by
  have text : (strip label).toList = trim label.toList := String.toList_ofList
  have proper : ¬ (n = 0 ∨ isUnity label = true) := by simp [nonzero, isUnity_of_exponent? h]
  simp only [power, if_neg other, isUnity_strip, if_neg proper, text]
  rcases Option.or_eq_some_iff.1 h with parts | ⟨none, parts⟩
  · simp only [parts]
  · simp only [none, parts]

/-- The power of a label is written with an exponent of its own: it is neither the zeroth nor the
first, and the label is neither that of a pure number nor a name with an exponent. -/
structure GetsExponent (label : String) (n : Int) : Prop where
  nonzero : n ≠ 0
  other : n ≠ 1
  named : isUnity label = false
  none : exponent? label = none

/-- The exponent is put behind the label as it is: it looks like a single term without power. -/
def IsBare (label : String) : Prop :=
  isSingleTerm (strip label) = true ∧ '^' ∉ trim label.toList

instance (label : String) : Decidable (IsBare label) := inferInstanceAs (Decidable (_ ∧ _))

theorem GetsExponent.power_eq {label : String} {n : Int} (h : GetsExponent label n) :
    power label n =
      if IsBare label then strip label ++ "^" ++ toString n
      else "(" ++ strip label ++ ")^" ++ toString n := by
  have text : (strip label).toList = trim label.toList := String.toList_ofList
  obtain ⟨none, none'⟩ := Option.or_eq_none_iff.1 h.none
  simp only [power, isUnity_strip, text, h.other, h.nonzero, h.named, none, none', if_false,
    Bool.false_eq_true, or_false]
  rfl

theorem GetsExponent.power_of_bare {label : String} {n : Int} (h : GetsExponent label n)
    (bare : IsBare label) :
    power label n = String.ofList (trim label.toList ++ '^' :: (toString n).toList) := by
  rw [h.power_eq, if_pos bare]
  exact String.toList_inj.1 (by simp [strip])

theorem GetsExponent.power_of_not_bare {label : String} {n : Int} (h : GetsExponent label n)
    (bare : ¬ IsBare label) :
    power label n =
      String.ofList ('(' :: trim label.toList ++ [')'] ++ '^' :: (toString n).toList) := by
  rw [h.power_eq, if_neg bare]
  exact String.toList_inj.1 (by simp [strip])

/-- The label of a power that is not the first: nothing is left, a name is left, or an exponent is
written, and it is neither zero nor one. -/
theorem power_cases {label : String} {n : Int} (other : n ≠ 1) :
    (power label n = "" ∧
      (n = 0 ∨ isUnity label = true ∨ ∃ base, exponent? label = some (base, 0))) ∨
    (∃ base k, exponent? label = some (base, k) ∧ k * n = 1 ∧
      power label n = String.ofList base) ∨
    ∃ front m, Raises label n front m ∧ m ≠ 0 ∧ m ≠ 1 ∧
      power label n = String.ofList (front ++ '^' :: (toString m).toList) := by
  by_cases empty : n = 0 ∨ isUnity label = true
  · refine .inl ⟨?_, empty.imp_right .inl⟩
    simp only [power, if_neg other, isUnity_strip, if_pos empty]
  have nonzero : n ≠ 0 := fun zero => empty (.inl zero)
  have named : isUnity label = false := by simpa using fun unity => empty (.inr unity)
  cases shown : exponent? label with
  | some parts =>
    obtain ⟨base, k⟩ := parts
    have label := power_of_exponent? shown nonzero other
    by_cases first : k * n = 1
    · exact .inr (.inl ⟨base, k, rfl, first, by rw [label, powerText, if_pos first]⟩)
    by_cases zero : k * n = 0
    · obtain rfl : k = 0 := (Int.mul_eq_zero.1 zero).resolve_right nonzero
      exact .inl ⟨by rw [label, powerText, if_neg first, if_pos zero], .inr (.inr ⟨base, rfl⟩)⟩
    · exact .inr (.inr ⟨base, k * n, .name shown, zero, first,
        label.trans (powerText_eq base zero first)⟩)
  | none =>
    have gets : GetsExponent label n := ⟨nonzero, other, named, shown⟩
    by_cases bare : IsBare label
    · exact .inr (.inr ⟨_, n, .term named bare.2, nonzero, other, gets.power_of_bare bare⟩)
    · exact .inr (.inr ⟨_, n, .group, nonzero, other, gets.power_of_not_bare bare⟩)

/-! ## Printed exponents -/

theorem length_toDigits_le : ∀ n ≤ exponentLimit, (Nat.toDigits 10 n).length ≤ 4 := by decide

/-- Behind a sign, which may be missing, the digits of a number spell an exponent. -/
theorem exponent_toDigits {sign : List Char} (hsign : IsSign sign) {n : Nat}
    (low : n ≤ exponentLimit) :
    Exponent (sign ++ Nat.toDigits 10 n) (if sign = ['-'] then -(n : Int) else n) 0 := by
  have digits : ∀ c ∈ Nat.toDigits 10 n, c.isDigit = true := fun c mem =>
    Nat.isDigit_of_mem_toDigits (by decide) (by decide) mem
  have value : signed sign ((Nat.toDigits 10 n).map fun c => c.toNat - '0'.toNat) =
      if sign = ['-'] then -(n : Int) else n := by
    rw [signed, positional_map, Nat.ofDigitChars_ten_toDigits]
  rw [← value]
  refine .digits .nil hsign (by simp) (length_toDigits_le n low) (mapM_digitValue? digits) ?_
  rw [value]
  split
  · rwa [Int.natAbs_neg]
  · exact low

/-- An exponent within the limit is printed as one. -/
theorem exponent_toString {n : Int} (low : n.natAbs ≤ exponentLimit) :
    Exponent (toString n).toList n 0 := by
  rw [Int.toString_eq_repr, Int.repr_eq_if]
  split
  · next above =>
    have exponent : Exponent ([] ++ Nat.toDigits 10 n.toNat) _ 0 :=
      exponent_toDigits (.inl rfl) (by omega)
    rw [if_neg (by simp), Int.toNat_of_nonneg above] at exponent
    rw [Nat.toList_repr]
    exact exponent
  · next below =>
    have exponent : Exponent (['-'] ++ Nat.toDigits 10 (-n).toNat) _ 0 :=
      exponent_toDigits (.inr (.inr rfl)) (by omega)
    rw [if_pos rfl, Int.toNat_of_nonneg (by omega), Int.neg_neg] at exponent
    rw [String.toList_append, Nat.toList_repr]
    exact exponent

/-! ## Exponents in normal form -/

theorem form_append_barriers {front tail : List Char}
    (h : ∀ c ∈ tail, IsBarrier c c ∧ Symbol.foldMicro c = c) :
    Symbol.form (front ++ tail) = Symbol.form front ++ tail := by
  induction tail generalizing front with
  | nil => rw [List.append_nil, List.append_nil]
  | cons c tail ih =>
    obtain ⟨⟨barrier, folded⟩, rest⟩ := List.forall_mem_cons.1 h
    have alone : Symbol.form ([] ++ tail) = Symbol.form [] ++ tail := ih rest
    rw [List.nil_append] at alone
    rw [Symbol.form_append_cons barrier folded, alone]
    rfl

theorem isBarrier_of_isInteger {tail : List Char} {m : Int} (integer : IsInteger tail m) :
    ∀ c ∈ tail, IsBarrier c c ∧ Symbol.foldMicro c = c := by
  intro c mem
  rcases integer.characters.2 c mem with rfl | rfl | digit
  · exact ⟨.of_apart (by decide) (by decide) (by decide), by decide⟩
  · exact ⟨.of_apart (by decide) (by decide) (by decide), by decide⟩
  · refine ⟨isBarrier_of_isDecimalDigit digit, if_neg ?_⟩
    rintro rfl
    cases digit

/-- Digits and signs behind a power sign stay what they are. -/
theorem form_append_integer (front : List Char) {tail : List Char} {m : Int}
    (integer : IsInteger tail m) :
    Symbol.form (front ++ '^' :: tail) = Symbol.form front ++ '^' :: tail := by
  refine form_append_barriers (List.forall_mem_cons.2 ⟨?_, isBarrier_of_isInteger integer⟩)
  exact ⟨isBarrier_of_sign (by decide) (by decide), by decide⟩

theorem isBarrier_of_isSuperscript {c : Char} (high : isSuperscript c = true) :
    IsBarrier c c ∧ Symbol.foldMicro c = c := by
  have sign : isBaseChar c = false := by simp [isBaseChar, high]
  have solid : isBlank c = false :=
    forall_isSuperscript (p := fun c => isBlank c = false) (by decide) high
  exact ⟨isBarrier_of_sign sign solid, Symbol.foldMicro_of_isBaseChar_eq_false sign⟩

/-- Superscripts stay what they are. -/
theorem form_append_raised (front : List Char) {raised : List Char}
    (high : ∀ c ∈ raised, isSuperscript c = true) :
    Symbol.form (front ++ raised) = Symbol.form front ++ raised :=
  form_append_barriers fun c mem => isBarrier_of_isSuperscript (high c mem)

/-- Normalization makes no star of a name. -/
theorem star_notMem_form {base : List Char} (name : ∀ c ∈ base, isBaseChar c = true) :
    '*' ∉ Symbol.form base := by
  intro mem
  cases name '*' ((sameSigns_form base).mem_of_sign mem (by decide) (by decide) (by decide))

/-- A label with an exponent is written and read with it. -/
theorem Raises.text {label : String} {n m : Int} {front : List Char} (h : Raises label n front m) :
    let raised := String.ofList (front ++ '^' :: (toString m).toList)
    trim raised.toList = front ++ '^' :: (toString m).toList ∧
      characters raised = Symbol.form front ++ '^' :: (toString m).toList := by
  have integer := isInteger_toString m
  have tight := tight_joined (c := '^') h.tight.2 (tight_of_solid integer.solid) h.tight.1
    (by decide)
  refine ⟨?_, ?_⟩
  · rw [String.toList_ofList, tight.trim_eq]
  · rw [characters_ofList tight, form_append_integer front integer]

/-! ## Labels of the unit one -/

/-- A label that shows no unit: that of a pure number, the zeroth power of a name, or a power of
one. A name with a Greek middle dot is several names and does not count. -/
def IsTrivial (label : String) : Prop :=
  isUnity label = true ∨ ∃ base k, IsPower (trim label.toList) base k ∧
    (base = ['1'] ∨ (k = 0 ∧ greekDot ∉ base))

/-- Neither a name with an exponent nor the label of a pure number has other signs. -/
theorem not_isTrivial_of_mem {label : String} {c : Char} (mem : c ∈ label.toList)
    (sign : c ∈ ['*', '/', '(']) : ¬ IsTrivial label := by
  obtain ⟨solid, name, caret, low, one⟩ : isBlank c = false ∧ isBaseChar c = false ∧ c ≠ '^' ∧
      isSuperscript c = false ∧ c ≠ '1' := by
    simp only [List.mem_cons, List.not_mem_nil, or_false] at sign
    rcases sign with rfl | rfl | rfl
    all_goals decide
  have kept := mem_trim solid mem
  rintro (unity | ⟨base, k, power, -⟩)
  · rcases isUnity_iff.1 unity with text | text
    · rw [text] at kept
      cases kept
    · rw [text] at kept
      exact one (List.mem_singleton.1 kept)
  · rcases power.characters c kept with base | same | up
    · rw [name] at base
      cases base
    · exact caret same
    · rw [low] at up
      cases up

theorem not_isTrivial_of_name {base : List Char} (name : ∀ c ∈ base, isBaseChar c = true)
    (filled : base ≠ []) (other : base ≠ ['1']) : ¬ IsTrivial (String.ofList base) := by
  have text : trim (String.ofList base).toList = base := by
    rw [String.toList_ofList]
    exact (tight_of_solid fun c mem => isBlank_of_isBaseChar (name c mem)).trim_eq
  rintro (unity | ⟨base', k, power, -⟩)
  · have cases := isUnity_iff.1 unity
    rw [text] at cases
    exact cases.elim filled other
  · rw [text] at power
    exact power.not_name name

theorem greekDot_notMem_of_isTrivial {base : List Char} {k : Int}
    (h : base = ['1'] ∨ (k = 0 ∧ greekDot ∉ base)) : greekDot ∉ base := by
  rcases h with rfl | ⟨-, dotless⟩
  · decide
  · exact dotless

/-- Normalization makes no sign of a name, apart from Greek middle dots. -/
theorem IsPower.isBaseChar_form {cs base : List Char} {k : Int} (power : IsPower cs base k)
    (dotless : greekDot ∉ base) : ∀ c ∈ Symbol.form base, isBaseChar c = true := by
  have plain : ∀ c ∈ base, isPlain c = true := by
    intro c mem
    have other : c ≠ greekDot := fun same => dotless (same ▸ mem)
    simp [isPlain, power.name c mem, other]
  intro c mem
  exact (Bool.and_eq_true_iff.1 (Symbol.forall_isPlain_form plain c mem)).1

/-- A name with an exponent, read in a catalog, is a factor to this power. -/
theorem IsPower.exists_factor {c : Catalog} {label : String} {base : List Char} {k : Int}
    {s : Scale} (power : IsPower (trim label.toList) base k) (dotless : greekDot ∉ base)
    (h : c.unit label = .ok s) :
    ∃ f, Derives .factor (Symbol.form base) [] f 0 0 ∧ (∀ b ∈ Symbol.form base, b ∉ strayChars) ∧
      c.scaleOf (f.toPower k) = .ok s.dropOffset := by
  have name := power.isBaseChar_form dotless
  have filled := Symbol.form_ne_nil power.filled
  rcases power.written with ⟨tail, same, integer⟩ | ⟨raised, same, nonempty, high, integer⟩
  · have text : Label.characters label = Symbol.form base ++ '^' :: tail := by
      rw [Label.characters, same, form_append_integer base integer]
    obtain ⟨e, read, scale⟩ :=
      Catalog.exists_of_unit (by simp [text]) (normalize_eq_ofList label) h
    rw [text] at read
    obtain ⟨f, factor, rfl, -⟩ := exists_factor_of_caret name integer read
    exact ⟨f, factor, (List.forall_mem_append.1 (spells_of_ofChars read).1).1, scale⟩
  · have text : Label.characters label = Symbol.form base ++ raised := by
      rw [Label.characters, same, form_append_raised base high]
    obtain ⟨e, read, scale⟩ :=
      Catalog.exists_of_unit (by simp [text, filled]) (normalize_eq_ofList label) h
    rw [text] at read
    obtain ⟨f, factor, rfl⟩ := exists_factor_of_raised filled name nonempty high integer read
    exact ⟨f, factor, (List.forall_mem_append.1 (spells_of_ofChars read).1).1, scale⟩

/-- A label that shows no unit names none. -/
theorem IsTrivial.dropOffset_eq_one {c : Catalog} {label : String} {s : Scale}
    (trivial : IsTrivial label) (h : c.unit label = .ok s) : s.dropOffset = Scale.one := by
  rcases trivial with unity | ⟨base, k, power, trivial⟩
  · have faithful : Quantity.Faithful c ⟨0, s, label⟩ := ⟨s, h, rfl, rfl⟩
    exact faithful.dropOffset_eq_one (Quantity.hasNormalLabel_of_isUnity unity) unity
  · obtain ⟨f, factor, -, scale⟩ :=
      power.exists_factor (greekDot_notMem_of_isTrivial trivial) h
    rcases trivial with rfl | ⟨zero, -⟩
    · -- in normal form the digit of the unit one is itself
      rw [form_cons (by decide) []] at factor
      exact scaleOf_toPower (.inr factor.eq_one) scale
    · exact scaleOf_toPower (.inl zero) scale

/-- A power of a label that shows a unit, written with an exponent, shows one. -/
theorem Raises.not_isTrivial {label : String} {n m : Int} {front : List Char}
    (h : Raises label n front m) (nonzero : m ≠ 0) (shows : ¬ IsTrivial label) :
    ¬ IsTrivial (String.ofList (front ++ '^' :: (toString m).toList)) := by
  have integer := isInteger_toString m
  have exponent {base : List Char} {k : Int}
      (power : IsPower (front ++ '^' :: (toString m).toList) base k)
      (trivial : base = ['1'] ∨ (k = 0 ∧ greekDot ∉ base)) (plain : '^' ∉ front) :
      front = ['1'] := by
    obtain ⟨rfl, rfl⟩ := power.eq_of_caret integer plain
    exact trivial.resolve_right fun zero => nonzero zero.1
  rintro (unity | ⟨base, k, power, trivial⟩)
  · have caret : '^' ∈ front ++ '^' :: (toString m).toList := by simp
    rw [← h.text.1] at caret
    rcases isUnity_iff.1 unity with text | text
    all_goals
      rw [text] at caret
      simp at caret
  · rw [h.text.1] at power
    cases h with
    | name shown =>
      have parts := isPower_of_exponent? shown
      have one := exponent power trivial fun mem => by cases parts.name '^' mem
      exact shows (.inr ⟨_, _, parts, .inl one⟩)
    | term named plain =>
      have one := exponent power trivial plain
      have unity := isUnity_iff.2 (.inr one)
      rw [named] at unity
      cases unity
    | group =>
      have sign : isBaseChar '(' = false ∧ isSuperscript '(' = false := by decide
      have characters := power.characters '(' (by simp)
      simp [sign] at characters

end Label

end Metrology
