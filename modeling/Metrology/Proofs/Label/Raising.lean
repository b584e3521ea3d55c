import Metrology.Proofs.Catalog.Units
import Metrology.Proofs.Setting
import Metrology.Proofs.UnitExpr.Unambiguous

/-!
# Powers that are read back

The label of a power is read as the power of what the label itself is read as, with three
exceptions (`Label.unit_power`). Exponents that are multiplied can exceed the limit although those
of the dimension do not. A label that is one term without `^` is taken for a factor, although its
power may be written with stars or superscripts. And a label that is put in parentheses may have as
many levels of them already as a unit text can have. In each of the three cases the label of the
power names no unit at all. Nothing is said of labels in which a Greek middle dot is overlooked:
it is a sign only in normal form, and behind it the power is that of the last term.
-/

namespace Metrology

open Text Number UnitExpr

/-! ## Powers of powers -/

/-- The power of a power, within the limit, is the power of the product. -/
theorem Scale.pow_of_pow {s t p : Scale} {k n : Int} (linear : t.dropOffset = t)
    (nonzero : t.factor ≠ 0) (first : t.pow k = .ok s) (power : s.pow n = .ok p)
    (low : (k * n).natAbs ≤ exponentLimit) : t.pow (k * n) = .ok p := by
  by_cases one : k = 1
  · subst one
    cases first
    rwa [Int.one_mul]
  by_cases one' : n = 1
  · subst one'
    cases power
    rwa [Int.mul_one]
  obtain ⟨-, -, -, rfl⟩ := (pow_eq_ok_iff one).1 first
  obtain ⟨-, small, -, rfl⟩ := (pow_eq_ok_iff one').1 power
  rw [dimension_linear, Dimension.pow_pow] at small ⊢
  rw [factor_linear, ← zpow_mul]
  by_cases same : k * n = 1
  · rw [same, Dimension.pow_one, zpow_one]
    exact congrArg Except.ok linear.symm
  · exact (pow_eq_ok_iff same).2 ⟨low, small, .inl nonzero, rfl⟩

namespace UnitExpr

variable {c : Catalog} {e : UnitExpr} {s p : Scale} {k n : Int}

theorem scaleOf_toPower_of_pow (scale : c.scaleOf e = .ok s) (power : s.pow n = .ok p) :
    c.scaleOf (e.toPower n) = .ok p := by
  refine toPower_cases e n (fun first => ?_) (fun zero => ?_) fun _ _ => ?_
  · subst first
    cases power
    exact scale
  · subst zero
    obtain ⟨-, -, -, rfl⟩ := (Scale.pow_eq_ok_iff (by decide)).1 power
    rw [Dimension.pow_zero, zpow_zero]
    rfl
  · rw [Catalog.scaleOf, scale]
    exact power

/-- An expression to the product of two exponents has the power of the power as its scale. -/
theorem scaleOf_toPower_mul (scale : c.scaleOf (e.toPower k) = .ok s) (power : s.pow n = .ok p)
    (low : (k * n).natAbs ≤ exponentLimit) : c.scaleOf (e.toPower (k * n)) = .ok p := by
  by_cases first : k = 1
  · subst first
    rw [Int.one_mul]
    exact scaleOf_toPower_of_pow scale power
  by_cases zero : k = 0
  · -- every power of the unit one is one
    subst zero
    obtain rfl := scaleOf_toPower (.inl rfl) scale
    rw [Int.zero_mul, ← Scale.dropOffset_of_pow rfl power,
      Scale.dropOffset_eq_one_of_pow rfl power]
    rfl
  rw [toPower, if_neg first, if_neg zero] at scale
  obtain ⟨t, base, raised⟩ := bind_eq_ok_iff.1 scale
  refine scaleOf_toPower_of_pow base ?_
  exact Scale.pow_of_pow (dropOffset_of_scaleOf base) (Catalog.factor_pos_of_scaleOf base).ne'
    raised power low

/-! ## Parentheses -/

/-- A text in parentheses is a factor exactly if it spells an expression. -/
theorem derives_group_iff {cs after : List Char} {m l : Nat} :
    Derives .factor ('(' :: cs ++ [')']) after e l m ↔ ∃ d, m = d + 1 ∧ Spells cs e l d := by
  constructor
  · intro h
    generalize shape : '(' :: cs ++ [')'] = text at h
    cases h with
    | name start =>
      obtain ⟨rfl, -⟩ := List.cons.inj shape
      cases start
    | one => cases (List.cons.inj shape).1
    | @group text closing after e k d inner hclosing =>
      obtain rfl := List.append_cancel_right (List.cons.inj shape).2
      refine ⟨d, rfl, text, closing, rfl, hclosing, inner.congr_after fun q _ stop => ?_⟩
      -- without blanks nothing is left behind the text
      cases closing with
      | nil => exact .nil q
      | cons b closing => exact stopsAt_cons.2 (stopsAt_cons.1 stop)
  · rintro ⟨d, rfl, text, blanks, rfl, hblanks, derived⟩
    have inner : Derives .expression text (blanks ++ ')' :: after) e l d := by
      refine derived.congr_after fun q mem stop => ?_
      cases blanks with
      | nil => exact stopsAt_cons.2 (runClasses_of_isBoundary (by decide) mem)
      | cons b blanks => exact stopsAt_cons.2 (stopsAt_cons.1 stop)
    have factor := inner.group hblanks
    simpa using factor

end UnitExpr

namespace Label

variable {c : Catalog} {label : String} {s p : Scale} {n : Int}

/-! ## Reading what is composed -/

theorem unit_of_spells {e : UnitExpr} {k d : Nat} (spells : Spells (characters label) e k d)
    (clean : ∀ b ∈ characters label, b ∉ strayChars) (few : k ≤ operatorLimit)
    (flat : d ≤ nestingLimit) : (c.unit label).map Scale.dropOffset = c.scaleOf e := by
  have read := ofChars_of_spells clean spells few flat
  refine Catalog.unit_eq_scaleOf ?_ ?_
  · rw [normalize_eq_ofList]
    refine ofList_ne_empty fun empty => ?_
    rw [empty] at read
    cases read
  · rw [normalize_eq_ofList, String.toList_ofList, read]

theorem clean_of_isInteger {tail : List Char} {m : Int} (integer : IsInteger tail m) :
    ∀ b ∈ tail, b ∉ strayChars := by
  intro b mem
  rcases integer.characters.2 b mem with rfl | rfl | digit
  · decide
  · decide
  · exact not_mem_of_class (p := isDecimalDigit) (by decide) digit

/-- Behind a factor, an exponent is read as its power. -/
theorem unit_of_factor {front : List Char} {e : UnitExpr} {k d : Nat} {m : Int}
    (shape : characters label = front ++ '^' :: (toString m).toList)
    (factor : Derives .factor front [] e k d) (clean : ∀ b ∈ front, b ∉ strayChars)
    (few : k ≤ operatorLimit) (flat : d ≤ nestingLimit) (low : m.natAbs ≤ exponentLimit) :
    (c.unit label).map Scale.dropOffset = c.scaleOf (e.toPower m) := by
  have factor : Derives .factor front ([] ++ ['^'] ++ (toString m).toList ++ []) e k d := by
    have caret : ∀ q ∈ runClasses, q '^' = false := by decide
    exact factor.congr_after fun q mem _ => stopsAt_cons.2 (caret q mem)
  have term := factor.power .nil (.inl rfl) (exponent_toString low)
  have spells : Spells (characters label) (e.toPower m) k (max d 0) := by
    refine ⟨_, [], ?_, .nil, .single .nil term⟩
    simp [shape]
  refine unit_of_spells spells ?_ few (by simpa using flat)
  rw [shape]
  exact clean_append clean
    (List.forall_mem_cons.2 ⟨by decide, clean_of_isInteger (isInteger_toString m)⟩)

theorem exists_ofChars_of_caret {front tail : List Char}
    (text : characters label = front ++ '^' :: tail) (read : c.unit label = .ok s) :
    ∃ e, ofChars (front ++ '^' :: tail) = .ok e := by
  have filled : characters label ≠ [] := by simp [text]
  obtain ⟨e, spelled, -⟩ := Catalog.exists_of_unit filled (normalize_eq_ofList label) read
  exact ⟨e, text ▸ spelled⟩

/-- What is known of a label that names a unit: the expression that it is read as, and that it
keeps to the limits. -/
structure ReadAs (c : Catalog) (label : String) (s : Scale) (e : UnitExpr) (k d : Nat) : Prop where
  read : ofChars (characters label) = .ok e
  scale : c.scaleOf e = .ok s.dropOffset
  spells : Spells (characters label) e k d
  clean : ∀ b ∈ characters label, b ∉ strayChars
  few : k ≤ operatorLimit
  flat : d ≤ nestingLimit

theorem exists_readAs (named : isUnity label = false) (h : c.unit label = .ok s) :
    ∃ e k d, ReadAs c label s e k d := by
  obtain ⟨e, read, scale⟩ :=
    Catalog.exists_of_unit (characters_ne_nil named) (normalize_eq_ofList label) h
  obtain ⟨clean, k, d, spells, few, flat⟩ := spells_of_ofChars read
  exact ⟨e, k, d, read, scale, spells, clean, few, flat⟩

/-! ## Exponents that are multiplied -/

theorem unit_power_of_exponent? {base : List Char} {k : Int} (dotless : greekDot ∉ base)
    (shown : exponent? label = some (base, k)) (read : c.unit label = .ok s)
    (raised : s.dropOffset.pow n = .ok p) (nonzero : n ≠ 0) (other : n ≠ 1)
    (low : (k * n).natAbs ≤ exponentLimit) :
    (c.unit (power label n)).map Scale.dropOffset = .ok p := by
  have parts := isPower_of_exponent? shown
  obtain ⟨f, factor, clean, scale⟩ := parts.exists_factor dotless read
  rw [← scaleOf_toPower_mul scale raised low, power_of_exponent? shown nonzero other]
  by_cases first : k * n = 1
  · -- the name is left alone
    have text : Label.characters (powerText base (k * n)) = Symbol.form base := by
      rw [powerText, if_pos first, characters_ofList]
      exact tight_of_solid fun b mem => isBlank_of_isBaseChar (parts.name b mem)
    have spells : Spells (Label.characters (powerText base (k * n))) f 0 0 := by
      refine ⟨_, [], ?_, .nil, .single .nil (.bare factor)⟩
      simp [text]
    rw [first, toPower, if_pos rfl, ← first]
    exact unit_of_spells spells (text ▸ clean) (Nat.zero_le _) (Nat.zero_le _)
  by_cases zero : k * n = 0
  · -- nothing is left
    rw [zero, powerText, if_neg (by decide), if_pos rfl, unit_empty]
    rfl
  · rw [powerText_eq base zero first]
    exact unit_of_factor (Raises.name (n := n) shown).text.2 factor clean (Nat.zero_le _)
      (Nat.zero_le _) low

theorem not_unit_of_exponent? {base : List Char} {k : Int} (dotless : greekDot ∉ base)
    (shown : exponent? label = some (base, k)) (other : n ≠ 1)
    (above : exponentLimit < (k * n).natAbs) : c.unit (power label n) ≠ .ok s := by
  intro read
  have nonzero : n ≠ 0 := by
    rintro rfl
    rw [Int.mul_zero] at above
    exact absurd above (Nat.not_lt_zero _)
  have large : k * n ≠ 0 ∧ k * n ≠ 1 := by
    constructor
    all_goals
      intro same
      rw [same] at above
      exact absurd above (by decide)
  rw [power_of_exponent? shown nonzero other, powerText_eq base large.1 large.2] at read
  obtain ⟨e, spelled⟩ := exists_ofChars_of_caret (Raises.name (n := n) shown).text.2 read
  have name := (isPower_of_exponent? shown).isBaseChar_form dotless
  obtain ⟨f, -, -, low⟩ := exists_factor_of_caret name (isInteger_toString _) spelled
  omega

/-! ## Exponents that are put behind a label -/

/-- A label that is a factor in its grammar: a name, one or an expression in parentheses. -/
def ReadsAsFactor (label : String) : Prop := ∃ e k d, Derives .factor (characters label) [] e k d

theorem GetsExponent.characters_of_bare (gets : GetsExponent label n) (bare : IsBare label) :
    characters (power label n) = characters label ++ '^' :: (toString n).toList := by
  rw [gets.power_of_bare bare]
  exact (Raises.term (n := n) gets.named bare.2).text.2

theorem GetsExponent.characters_of_not_bare (gets : GetsExponent label n) (bare : ¬ IsBare label) :
    characters (power label n) =
      '(' :: characters label ++ [')'] ++ '^' :: (toString n).toList := by
  rw [gets.power_of_not_bare bare, (Raises.group (n := n)).text.2, form_group]
  rfl

theorem unit_power_of_factor (gets : GetsExponent label n) (bare : IsBare label)
    (factor : ReadsAsFactor label) (read : c.unit label = .ok s)
    (raised : s.dropOffset.pow n = .ok p) :
    (c.unit (power label n)).map Scale.dropOffset = .ok p := by
  obtain ⟨e, k, d, known⟩ := exists_readAs gets.named read
  obtain ⟨f, l, m, factor⟩ := factor
  have spelled := known.read
  rw [← List.append_nil (characters label)] at spelled
  obtain ⟨m, factor, few, flat⟩ := factor.within_of_ofChars spelled
  -- what the factor spells is what the label was read as
  have whole : Spells (characters label) f l m :=
    ⟨_, [], (List.append_nil _).symm, .nil, .single .nil (.bare factor)⟩
  obtain ⟨rfl, rfl⟩ := whole.unique known.spells
  obtain ⟨low, -⟩ := (Scale.pow_eq_ok_iff gets.other).1 raised
  rw [← scaleOf_toPower_of_pow known.scale raised]
  exact unit_of_factor (gets.characters_of_bare bare) factor known.clean few flat low

theorem not_unit_of_no_factor {u : Scale} (gets : GetsExponent label n) (bare : IsBare label)
    (alike : ScansAlike label) (raised : ¬ ReadsAsFactor label) (read : c.unit label = .ok s) :
    c.unit (power label n) ≠ .ok u := by
  intro readPower
  obtain ⟨e, k, d, known⟩ := exists_readAs gets.named read
  obtain ⟨text, blanks, shape, hblanks, derived⟩ := known.spells
  have tight : Tight (characters label) := tight_form (tight_trim _)
  obtain rfl := (shape ▸ tight).eq_nil_of_append hblanks
  rw [List.append_nil] at shape
  subst shape
  have single : isSingleTermAt 0 (characters label) = true := by
    rw [alike]
    simpa [isSingleTerm, strip] using bare.1
  obtain ⟨g, spelled⟩ := exists_ofChars_of_caret (gets.characters_of_bare bare) readPower
  exact (derived.term_of_isSingleTermAt single).not_ofChars_of_raised known.flat raised spelled

/-! ## Exponents that are put behind parentheses -/

theorem unit_power_of_group {e : UnitExpr} {k d : Nat} (gets : GetsExponent label n)
    (bare : ¬ IsBare label) (spells : Spells (characters label) e k d) (room : d < nestingLimit)
    (read : c.unit label = .ok s) (raised : s.dropOffset.pow n = .ok p) :
    (c.unit (power label n)).map Scale.dropOffset = .ok p := by
  obtain ⟨f, l, m, known⟩ := exists_readAs gets.named read
  obtain ⟨rfl, rfl⟩ := spells.unique known.spells
  have group : Derives .factor ('(' :: characters label ++ [')']) [] e k (d + 1) :=
    derives_group_iff.2 ⟨d, rfl, spells⟩
  obtain ⟨low, -⟩ := (Scale.pow_eq_ok_iff gets.other).1 raised
  rw [← scaleOf_toPower_of_pow known.scale raised]
  refine unit_of_factor (gets.characters_of_not_bare bare) group ?_ known.few room low
  have closing : ∀ b ∈ [')'], b ∉ strayChars :=
    clean_cons (by decide) (List.forall_mem_nil _)
  exact clean_cons (by decide) (clean_append known.clean closing)

theorem not_unit_of_full {u : Scale} (gets : GetsExponent label n) (bare : ¬ IsBare label)
    (full : ∀ e k d, Spells (characters label) e k d → nestingLimit ≤ d)
    (read : c.unit label = .ok s) : c.unit (power label n) ≠ .ok u := by
  intro readPower
  obtain ⟨e, k, d, known⟩ := exists_readAs gets.named read
  obtain ⟨g, spelled⟩ := exists_ofChars_of_caret (gets.characters_of_not_bare bare) readPower
  -- the group that is read first holds the whole label, one level deeper
  obtain ⟨m, group, -, flat⟩ :=
    (derives_group_iff.2 ⟨d, rfl, known.spells⟩).within_of_ofChars spelled
  obtain ⟨d', rfl, inside⟩ := derives_group_iff.1 group
  have deep := full e k d' inside
  omega

/-! ## All labels -/

/-- What keeps the label of a power from being read. -/
inductive Defeats (label : String) (n : Int) : Prop where
  | large {base : List Char} {k : Int} (other : n ≠ 1) (shown : exponent? label = some (base, k))
      (above : exponentLimit < (k * n).natAbs)
  | doubled (gets : GetsExponent label n) (bare : IsBare label) (raised : ¬ ReadsAsFactor label)
  | deep (gets : GetsExponent label n) (grouped : ¬ IsBare label)
      (full : ∀ e k d, Spells (characters label) e k d → nestingLimit ≤ d)

/-- No Greek middle dot is overlooked: none is taken for a letter of a name with an exponent, and
a label that gets an exponent without parentheses is no product by dots. -/
structure SeesDots (label : String) : Prop where
  base : ∀ base k, exponent? label = some (base, k) → greekDot ∉ base
  bare : IsBare label → ScansAlike label

theorem seesDots_of_dotless (dotless : greekDot ∉ label.toList) : SeesDots label where
  base base k shown mem := by
    refine dotless (mem_of_mem_trim ?_)
    rcases (isPower_of_exponent? shown).written with ⟨tail, same, -⟩ | ⟨raised, same, -⟩
    · exact same ▸ List.mem_append_left _ mem
    · exact same ▸ List.mem_append_left _ mem
  bare _ := scansAlike_of_dotless dotless

theorem unit_power_of_not_defeats (seen : SeesDots label) (read : c.unit label = .ok s)
    (raised : s.dropOffset.pow n = .ok p) (free : ¬ Defeats label n) :
    (c.unit (power label n)).map Scale.dropOffset = .ok p := by
  by_cases other : n = 1
  · -- the first power is the label, trimmed
    subst other
    cases raised
    have label : power label 1 = strip label := by simp [power]
    rw [label, unit_strip, read]
    rfl
  by_cases zero : n = 0
  · subst zero
    obtain ⟨-, -, -, rfl⟩ := (Scale.pow_eq_ok_iff other).1 raised
    have label : power label 0 = "" := by simp [power]
    rw [label, unit_empty, Dimension.pow_zero, zpow_zero]
    rfl
  cases named : isUnity label with
  | true =>
    have one := IsTrivial.dropOffset_eq_one (.inl named) read
    have label : power label n = "" := by simp [power, other, isUnity_strip, named]
    rw [label, unit_empty, ← Scale.dropOffset_of_pow rfl raised,
      Scale.dropOffset_eq_one_of_pow (s := s.dropOffset) one raised]
    rfl
  | false =>
    cases shown : exponent? label with
    | some parts =>
      obtain ⟨base, k⟩ := parts
      refine unit_power_of_exponent? (seen.base base k shown) shown read raised zero other ?_
      by_contra above
      exact free (.large other shown (by omega))
    | none =>
      have gets : GetsExponent label n := ⟨zero, other, named, shown⟩
      by_cases bare : IsBare label
      · refine unit_power_of_factor gets bare ?_ read raised
        by_contra doubled
        exact free (.doubled gets bare doubled)
      · by_contra refused
        refine free (.deep gets bare fun e k d spells => ?_)
        by_contra room
        exact refused (unit_power_of_group gets bare spells (by omega) read raised)

theorem Defeats.not_unit {u : Scale} (h : Defeats label n) (seen : SeesDots label)
    (read : c.unit label = .ok s) : c.unit (power label n) ≠ .ok u := by
  cases h with
  | large other shown above => exact not_unit_of_exponent? (seen.base _ _ shown) shown other above
  | doubled gets bare raised =>
    exact not_unit_of_no_factor gets bare (seen.bare bare) raised read
  | deep gets grouped full => exact not_unit_of_full gets grouped full read

/-- In every catalog, and for every label that names a unit there and in which no Greek middle dot
is overlooked: if the unit has the power `n`, then the label of the power names it, with the
dimension and the factor raised, unless one of the three things defeats it. In these cases it names
nothing. -/
theorem unit_power (seen : SeesDots label) (read : c.unit label = .ok s)
    (raised : s.dropOffset.pow n = .ok p) :
    (¬ Defeats label n → ∃ u, c.unit (power label n) = .ok u ∧
        u.dimension = s.dimension.pow n ∧ u.factor = s.factor ^ n) ∧
      (Defeats label n → ∀ u, c.unit (power label n) ≠ .ok u) := by
  refine ⟨fun free => ?_, fun defeated u => defeated.not_unit seen read⟩
  obtain ⟨u, readPower, same⟩ :=
    map_eq_ok_iff.1 (unit_power_of_not_defeats seen read raised free)
  have parts : p.dimension = s.dimension.pow n ∧ p.factor = s.factor ^ n := by
    rcases Scale.pow_cases raised with ⟨rfl, rfl⟩ | rfl
    · exact ⟨(Dimension.pow_one _).symm, (zpow_one _).symm⟩
    · exact ⟨rfl, rfl⟩
  subst same
  exact ⟨u, readPower, parts.1, parts.2⟩

/-- The inverse square of the newton is read back as such. -/
theorem unit_power_newton : power "kg*m/s^2" (-2) = "(kg*m/s^2)^-2" ∧
    ∃ u, Catalog.standard.unit (power "kg*m/s^2" (-2)) = .ok u ∧
      u.dimension = Dimension.force.pow (-2) ∧ u.factor = 1 := by
  have label : ofDimension Dimension.force = "kg*m/s^2" := by decide
  have read : Catalog.standard.unit "kg*m/s^2" = .ok (.linear Dimension.force) :=
    label ▸ unit_ofDimension Catalog.hasBaseUnits_standard (by decide)
  have raised : (Scale.linear Dimension.force).dropOffset.pow (-2) =
      .ok (.linear (Dimension.force.pow (-2))) := by
    decide +kernel
  have free : ¬ Defeats "kg*m/s^2" (-2) := by
    have none : exponent? "kg*m/s^2" = none := by decide
    have several : ¬ IsBare "kg*m/s^2" := by decide
    intro defeated
    cases defeated with
    | large other shown above =>
      rw [none] at shown
      cases shown
    | doubled gets bare raised => exact several bare
    | deep gets grouped full =>
      -- eight characters leave no room for so many parentheses
      obtain ⟨e, k, d, known⟩ := exists_readAs gets.named read
      have flat := known.spells.counts_le_length.2
      have length : (characters "kg*m/s^2").length = 8 := by decide
      have limit : nestingLimit = 32 := rfl
      have deep := full e k d known.spells
      omega
  have seen : SeesDots "kg*m/s^2" := seesDots_of_dotless (by decide)
  obtain ⟨u, readPower, dimension, factor⟩ := (unit_power seen read raised).1 free
  exact ⟨by decide, u, readPower, dimension, factor.trans (one_zpow _)⟩

theorem unit_stars (metre : c.named "m" = .ok (.linear .ofLength)) :
    c.unit "m**2" = .ok (.linear .area) := by
  have spelled : UnitExpr.ofText "m**2" = .ok (.pow (.name "m") 2) := by decide
  have square : (Scale.linear .ofLength).pow 2 = .ok (.linear .area) := by decide
  rw [Catalog.unit_of_expr spelled]
  simp only [Catalog.scaleOf, metre, Except.map, Scale.dropOffset, Scale.dimension_linear,
    Scale.factor_linear, ok_bind, square]

/-- A square that is written with stars is raised to a text with two powers, which names nothing. -/
theorem not_unit_power :
    ¬ ∀ (label : String) (n : Int) (s p : Scale), Catalog.standard.unit label = .ok s →
      s.dropOffset.pow n = .ok p →
      ∃ u, Catalog.standard.unit (power label n) = .ok u ∧ u.dimension = s.dimension.pow n ∧
        u.factor = s.factor ^ n := by
  intro always
  have metre : Catalog.standard.named "m" = .ok (.linear .ofLength) :=
    named_of_base Catalog.hasBaseUnits_standard (p := ("m", .ofLength)) (by simp [baseDimensions])
  have cubed : (Scale.linear .area).dropOffset.pow 3 = .ok (.linear (.pow .ofLength 6)) := by
    decide
  obtain ⟨u, readPower, -⟩ := always "m**2" 3 _ _ (unit_stars metre) cubed
  have label : power "m**2" 3 = "m**2^3" := by decide
  rw [label] at readPower
  have text : characters "m**2^3" = ['m', '*', '*', '2'] ++ '^' :: ['3'] := by decide
  obtain ⟨e, spelled⟩ := exists_ofChars_of_caret text readPower
  have refused : (ofChars ['m', '*', '*', '2', '^', '3']).toOption = none := by decide
  have read : ofChars ['m', '*', '*', '2', '^', '3'] = .ok e := spelled
  rw [read] at refused
  cases refused

end Label

end Metrology
