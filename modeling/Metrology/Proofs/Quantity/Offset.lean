import Mathlib.Tactic.NormNum
import Metrology.Proofs.Catalog.Homonyms
import Metrology.Proofs.Label.Power
import Metrology.Proofs.Quantity.Conversion

/-!
# Zeros of displayed scales

A label that names a scale with an offset belongs to quantities that are measured from its zero.
Arithmetic keeps label and offset together or gives up both, with one exception: a power of a power
whose exponents multiply to one is labelled with the name alone, although the offset is lost. Apart
from it, and from powers that hide a unit behind a Greek middle dot, the offset of every result is
the one that its label shows.
Main statement: `offset_of_calculated`.
-/

namespace Metrology

open Text UnitExpr

theorem Scale.offset_of_pow {s t : Scale} {n : Int} (h : s.pow n = .ok t) (other : n ≠ 1) :
    t.offset = 0 := by
  obtain ⟨-, -, -, rfl⟩ := (pow_eq_ok_iff other).1 h
  rfl

theorem Scale.dropOffset_of_pow_zero {s t : Scale} (h : s.pow 0 = .ok t) : t.dropOffset = one := by
  obtain ⟨-, -, -, rfl⟩ := (pow_eq_ok_iff (by decide)).1 h
  refine eq_of_parts ?_ ?_ rfl
  · simp [dropOffset, Dimension.pow, one, Dimension.one]
  · simp [dropOffset, one]

namespace Quantity

variable {c : Catalog} {a b q r : Quantity}

/-! ## Offsets that labels show -/

/-- If the label names a unit, the scale has the offset of that unit. -/
def ShowsOffset (c : Catalog) (q : Quantity) : Prop :=
  ∀ u, c.unit q.label = .ok u → q.scale.offset = u.offset

/-- What arithmetic keeps: the label shows the offset, a label without unit belongs to the unit one,
and no star stands at the ends of a label, where it would join with the star of a product. -/
structure Aligned (c : Catalog) (q : Quantity) : Prop where
  offset : q.ShowsOffset c
  unity : Label.IsTrivial q.label → q.scale.dropOffset = Scale.one
  ends : Label.isUnity q.label = false → Starless (Label.characters q.label)

theorem Aligned.withValue (h : q.Aligned c) (x : Rat) : (q.withValue x).Aligned c :=
  ⟨h.offset, h.unity, h.ends⟩

theorem Aligned.inUnit {x : Rat} {text : String} (h : Quantity.inUnit c x text = .ok q) :
    q.Aligned c := by
  obtain ⟨s, read, rfl⟩ := map_eq_ok_iff.1 h
  refine ⟨fun u read' => ?_, fun trivial => trivial.dropOffset_eq_one read,
    fun named => (Label.means_of_unit named read).starless⟩
  rw [read] at read'
  cases read'
  rfl

theorem Aligned.isUnity_eq_false (h : q.Aligned c) (scaled : ¬ q.isScalar = true) :
    Label.isUnity q.label = false := by
  cases unity : Label.isUnity q.label with
  | false => rfl
  | true => exact absurd (isScalar_iff.2 ⟨h.unity (.inl unity), unity⟩) scaled

/-- A label that is no single name shows no offset. -/
theorem showsOffset_of_unnamed {value : Rat} {scale : Scale} {label : String}
    (unnamed : ∀ name, UnitExpr.ofText label ≠ .ok (.name name)) (none : scale.offset = 0) :
    ShowsOffset c ⟨value, scale, label⟩ := by
  intro u read
  by_contra differ
  have offset : u.offset ≠ 0 := fun zero => differ (none.trans zero.symm)
  obtain ⟨-, name, spelled⟩ := name_of_offset_ne_zero read offset
  exact unnamed name spelled

/-! ## Products and quotients -/

/-- A composed label shows a unit, and no offset. -/
theorem Aligned.product (ha : a.Aligned c) (hb : b.Aligned c)
    (namedA : Label.isUnity a.label = false) (namedB : Label.isUnity b.label = false)
    (value : Rat) :
    Aligned c ⟨value, a.scale.mul b.scale, Label.product a.label b.label⟩ := by
  have back := ha.ends namedA
  have front := hb.ends namedB
  refine ⟨showsOffset_of_unnamed (Label.ofText_product_ne_name namedA namedB back front) rfl,
    fun trivial => ?_, fun _ => ?_⟩
  · rcases product_eq namedA namedB with ⟨rest, -, label⟩ | ⟨-, label⟩
    · exact absurd trivial (Label.not_isTrivial_of_mem (c := '/') (by simp [label]) (by decide))
    · exact absurd trivial (Label.not_isTrivial_of_mem (c := '*') (by simp [label]) (by decide))
  · have filled := Label.characters_ne_nil namedA
    rcases Label.characters_product namedA namedB with ⟨rest, shape, label⟩ | ⟨-, label⟩
    · dsimp only
      rw [label]
      refine .append back.front ?_ filled (List.cons_ne_nil _ _)
      have last := front.back
      rwa [shape, List.getLast?_cons_cons] at last
    · dsimp only
      rw [label]
      exact .joined back.front front.back filled (Label.characters_ne_nil namedB) '*'

theorem Aligned.quotient {left : String} {value : Rat} {scale : Scale}
    (front : Label.isUnity left = false → Starless (Label.characters left)) (hb : b.Aligned c)
    (named : Label.isUnity b.label = false) (none : scale.offset = 0) :
    Aligned c ⟨value, scale, Label.quotient left b.label⟩ := by
  refine ⟨showsOffset_of_unnamed (Label.ofText_quotient_ne_name named) none, fun trivial => ?_,
    fun _ => ?_⟩
  · exact absurd trivial
      (Label.not_isTrivial_of_mem (c := '/') (by simp [quotient_eq named]) (by decide))
  · dsimp only
    rw [Label.characters_quotient named]
    have dividend : (if Label.isUnity left = true then ['1'] else Label.characters left) ≠ [] ∧
        (if Label.isUnity left = true then ['1'] else Label.characters left).head? ≠ some '*' := by
      cases unity : Label.isUnity left with
      | true => simp
      | false => exact ⟨Label.characters_ne_nil unity, (front unity).front⟩
    have divisor : Symbol.form (divisorText (trim b.label.toList)) ≠ [] ∧
        (Symbol.form (divisorText (trim b.label.toList))).getLast? ≠ some '*' := by
      unfold divisorText
      split
      · exact ⟨Label.characters_ne_nil named, (hb.ends named).back⟩
      · rw [Label.form_group, List.getLast?_concat]
        exact ⟨by simp, by decide⟩
    exact .joined dividend.2 divisor.2 dividend.1 divisor.1 '/'

theorem Aligned.divInto {n : Rat} (hb : b.Aligned c) (h : b.divInto n = .ok r) : r.Aligned c := by
  obtain ⟨x, scale, inverse, rfl⟩ := divInto_cases h
  have none : scale.offset = 0 := Scale.offset_of_pow inverse (by decide)
  cases unity : Label.isUnity b.label with
  | false => exact .quotient (fun named => by cases named) hb unity none
  | true =>
    have label : Label.quotient "" b.label = "" := by
      simp only [Label.quotient, isUnity_strip, unity]
      rfl
    rw [label]
    refine ⟨fun u read => ?_, fun _ => ?_, fun named => by cases named⟩
    · rw [Label.unit_empty] at read
      cases read
      exact none
    · exact Scale.dropOffset_eq_one_of_pow (hb.unity (.inl unity)) inverse

/-! ## Powers -/

/-- A power of a power whose exponents multiply to one is labelled with the name alone. Where the
name is that of a scale with an offset, the label shows an offset that the power does not have. -/
def Collapses (c : Catalog) (q : Quantity) (n : Int) : Prop :=
  n ≠ 1 ∧ ∃ base k u, Label.exponent? q.label = some (base, k) ∧ k * n = 1 ∧
    c.unit (String.ofList base) = .ok u ∧ u.offset ≠ 0

/-- A name with a Greek middle dot and the exponent zero shows several units, of which a power that
is labelled as a pure number has kept some. -/
def HidesUnit (q r : Quantity) : Prop :=
  (∃ base, Label.exponent? q.label = some (base, 0) ∧ greekDot ∈ base) ∧
    Label.isUnity r.label = true ∧ r.scale.dropOffset ≠ Scale.one

theorem Aligned.first_pow (hq : q.Aligned c) (value : Rat) :
    Aligned c ⟨value, q.scale, strip q.label⟩ := by
  refine ⟨fun u read => ?_, fun trivial => ?_, fun named => ?_⟩
  · exact hq.offset u ((Label.unit_strip c q.label).symm.trans read)
  · rw [Label.IsTrivial, isUnity_strip, Label.trim_strip] at trivial
    exact hq.unity trivial
  · dsimp only at named ⊢
    rw [Label.characters_strip]
    exact hq.ends (isUnity_strip q.label ▸ named)

/-- The unit behind a label that is nothing but an exponent short of a name. -/
theorem Aligned.raise {front : List Char} {n m : Int} {scale : Scale} (hq : q.Aligned c)
    (raises : Label.Raises q.label n front m) (nonzero : m ≠ 0) (other : m ≠ 1)
    (none : scale.offset = 0) (one : q.scale.dropOffset = Scale.one → scale.dropOffset = Scale.one)
    (value : Rat) :
    Aligned c ⟨value, scale, String.ofList (front ++ '^' :: (toString m).toList)⟩ := by
  have integer := Number.isInteger_toString m
  have text := raises.text.2
  refine ⟨showsOffset_of_unnamed (fun name => ?_) none, fun trivial => ?_, fun _ => ?_⟩
  · rw [Label.ofText_eq_ofChars, text]
    exact fun read => other (eq_one_of_name integer read)
  · by_cases shows : Label.IsTrivial q.label
    · exact one (hq.unity shows)
    · exact absurd trivial (raises.not_isTrivial nonzero shows)
  · dsimp only
    rw [text]
    have first : (Symbol.form front).head? ≠ some '*' := by
      cases raises with
      | name shown =>
        have power := Label.isPower_of_exponent? shown
        exact fun star => Label.star_notMem_form power.name (List.mem_of_head? star)
      | term named plain => exact (hq.ends named).front
      | group =>
        rw [Label.form_group, List.cons_append]
        simp
    exact .joined first (getLast?_ne_star (plain_of_isInteger integer))
      (Symbol.form_ne_nil raises.tight.1) integer.characters.1 '^'

theorem Aligned.pow {n : Int} (hq : q.Aligned c) (h : q.pow n = .ok r)
    (kept : ¬ q.Collapses c n) (shown : ¬ q.HidesUnit r) : r.Aligned c := by
  obtain ⟨x, scale, power, rfl⟩ := pow_cases h
  by_cases first : n = 1
  · subst first
    cases power
    exact hq.first_pow x
  have none := Scale.offset_of_pow power first
  have one : q.scale.dropOffset = Scale.one → scale.dropOffset = Scale.one :=
    fun one => Scale.dropOffset_eq_one_of_pow one power
  -- every power but the first has lost its offset, so what counts is which label is left
  rcases Label.power_cases first with ⟨label, cause⟩ | ⟨base, k, parts, product, label⟩ |
    ⟨front, m, raises, nonzero, other, label⟩
  · -- nothing is left of the label
    rw [HidesUnit, label] at shown
    rw [label]
    refine ⟨fun u read => ?_, fun _ => ?_, fun named => by cases named⟩
    · rw [Label.unit_empty] at read
      cases read
      exact none
    -- the unit of the label was one before, or the power made it one
    rcases cause with rfl | unity | ⟨base, parts⟩
    · exact Scale.dropOffset_of_pow_zero power
    · exact one (hq.unity (.inl unity))
    · by_cases dot : greekDot ∈ base
      · by_contra differ
        exact shown ⟨⟨base, parts, dot⟩, rfl, differ⟩
      · exact one (hq.unity (.inr ⟨base, 0, Label.isPower_of_exponent? parts, .inr ⟨rfl, dot⟩⟩))
  · -- a name is left of the label
    have shape := Label.isPower_of_exponent? parts
    rw [label]
    refine ⟨fun u read => ?_, fun trivial => ?_, fun _ => ?_⟩
    · by_contra differ
      exact kept ⟨first, base, k, u, parts, product, read,
        fun zero => differ (none.trans zero.symm)⟩
    · by_cases unity : base = ['1']
      · exact one (hq.unity (.inr ⟨base, k, shape, .inl unity⟩))
      · exact absurd trivial (Label.not_isTrivial_of_name shape.name shape.filled unity)
    · have tight := tight_of_solid fun c mem => Label.isBlank_of_isBaseChar (shape.name c mem)
      dsimp only
      rw [Label.characters_ofList tight]
      have star := Label.star_notMem_form shape.name
      exact ⟨fun first => star (List.mem_of_head? first),
        fun last => star (List.mem_of_getLast? last)⟩
  · -- an exponent is written
    rw [label]
    exact hq.raise raises nonzero other none one x

/-- A power that collapses is labelled with the name of a scale whose offset it does not have. -/
theorem Collapses.not_showsOffset {n : Int} (collapses : q.Collapses c n) (h : q.pow n = .ok r) :
    ¬ r.ShowsOffset c := by
  obtain ⟨other, base, k, u, parts, product, read, offset⟩ := collapses
  obtain ⟨x, scale, power, rfl⟩ := pow_cases h
  have nonzero : n ≠ 0 := by
    rintro rfl
    simp at product
  have label : Label.power q.label n = String.ofList base := by
    rw [Label.power_of_exponent? parts nonzero other, product, Label.powerText, if_pos rfl]
  intro shows
  have same := shows u (by rw [label, read])
  exact offset (same.symm.trans (Scale.offset_of_pow power other))

/-- A power that hides a unit leaves the label of the other factor as it is, but not its offset. -/
theorem HidesUnit.not_showsOffset_mul {u : Scale} (hides : q.HidesUnit r)
    (read : c.unit b.label = .ok u) (offset : u.offset ≠ 0) :
    ¬ (r.mul (.quantity b)).ShowsOffset c := by
  obtain ⟨-, unity, differ⟩ := hides
  obtain ⟨-, name, spelled⟩ := name_of_offset_ne_zero read offset
  have named : ¬ Label.isUnity b.label = true :=
    fun unity => Label.ofText_ne_name_of_isUnity unity name spelled
  have composed : r.mul (.quantity b) =
      ⟨r.value * b.value, r.scale.mul b.scale, strip b.label⟩ := by
    have label : Label.product r.label b.label = strip b.label := by
      simp only [Label.product, isUnity_strip, if_pos unity, if_neg named]
    rw [mul, if_neg fun scalar => named (isScalar_iff.1 scalar).2,
      if_neg fun scalar => differ (isScalar_iff.1 scalar).1, label]
  rw [composed]
  intro shows
  exact offset (shows u ((Label.unit_strip c b.label).trans read)).symm

/-! ## Runs -/

/-- The quantities that are written in units of a catalog, and those that arithmetic leads to from
there, without powers that lose an offset or a unit that their label should show. -/
inductive Calculated (c : Catalog) : Quantity → Prop
  | inUnit {q : Quantity} {x : Rat} {text : String}
      (written : Quantity.inUnit c x text = .ok q) : Calculated c q
  | neg {q : Quantity} (h : Calculated c q) : Calculated c q.neg
  | add {q r : Quantity} {o : Amount} (h : Calculated c q) (sum : q.add o = .ok r) :
      Calculated c r
  | sub {q r : Quantity} {o : Amount} (h : Calculated c q) (difference : q.sub o = .ok r) :
      Calculated c r
  | mul_number {q : Quantity} (h : Calculated c q) (n : Rat) : Calculated c (q.mul (.number n))
  | div_number {q r : Quantity} {n : Rat} (h : Calculated c q)
      (divided : q.div (.number n) = .ok r) : Calculated c r
  | divInto {q r : Quantity} {n : Rat} (h : Calculated c q) (divided : q.divInto n = .ok r) :
      Calculated c r
  | mul {a b : Quantity} (ha : Calculated c a) (hb : Calculated c b) :
      Calculated c (a.mul (.quantity b))
  | div {a b r : Quantity} (ha : Calculated c a) (hb : Calculated c b)
      (divided : a.div (.quantity b) = .ok r) : Calculated c r
  | pow {q r : Quantity} {n : Int} (h : Calculated c q) (power : q.pow n = .ok r)
      (kept : ¬ q.Collapses c n) (shown : ¬ q.HidesUnit r) : Calculated c r

/-- One lemma for each step: what every run keeps. -/
theorem Calculated.aligned (h : Calculated c q) : q.Aligned c := by
  induction h with
  | inUnit written => exact .inUnit written
  | neg h ih => exact ih.withValue _
  | add h sum ih =>
    obtain ⟨x, rfl⟩ := add_cases sum
    exact ih.withValue x
  | sub h difference ih =>
    obtain ⟨x, rfl⟩ := sub_cases difference
    exact ih.withValue x
  | mul_number h n ih => exact ih.withValue _
  | div_number h divided ih =>
    obtain ⟨x, rfl⟩ := div_number_cases divided
    exact ih.withValue x
  | divInto h divided ih => exact ih.divInto divided
  | @mul a b ha hb ihA ihB =>
    rcases mul_cases a b with ⟨-, x, same⟩ | ⟨-, x, same⟩ | ⟨scaledA, scaledB, same⟩
    · exact same ▸ ihA.withValue x
    · exact same ▸ ihB.withValue x
    · rw [same]
      exact ihA.product ihB (ihA.isUnity_eq_false scaledA) (ihB.isUnity_eq_false scaledB) _
  | @div a b r ha hb divided ihA ihB =>
    rcases div_cases divided with ⟨-, x, rfl⟩ | ⟨-, -, reciprocal⟩ |
      ⟨-, scaledB, x, scale, quotient, rfl⟩
    · exact ihA.withValue x
    · exact ihB.divInto reciprocal
    · have none : scale.offset = 0 := congrArg Scale.offset (Scale.eq_of_div quotient).2
      exact .quotient ihA.ends ihB (ihB.isUnity_eq_false scaledB) none
  | pow h power kept shown ih => exact ih.pow power kept shown

/-- In every catalog, along every run of arithmetic, a quantity has the offset of the unit that its
label names. What is asked of the powers is needed: one that collapses is labelled with a scale that
it is not measured on, and so is what one that hides a unit multiplies. -/
theorem offset_of_calculated (h : Calculated c q) :
    q.ShowsOffset c ∧ ∀ (n : Int) (r : Quantity), q.pow n = .ok r →
      (q.Collapses c n → ¬ r.ShowsOffset c) ∧
      (q.HidesUnit r → ∀ (b : Quantity) (u : Scale), c.unit b.label = .ok u → u.offset ≠ 0 →
        ¬ (r.mul (.quantity b)).ShowsOffset c) := by
  refine ⟨h.aligned.offset, fun n r power => ⟨fun collapses => ?_, fun hides b u read offset => ?_⟩⟩
  · exact collapses.not_showsOffset power
  · exact hides.not_showsOffset_mul read offset

theorem standard_unit_celsius : Catalog.standard.unit "C" = .ok celsius := by
  obtain ⟨u, read, dimension, factor, offset⟩ :=
    Catalog.unit_of_listing (l := Catalog.celsius) (by simp) (by decide)
  refine read.trans (congrArg Except.ok (Scale.eq_of_parts dimension factor (offset.trans ?_)))
  norm_num [Catalog.celsius, celsius]

theorem inUnit_celsius (x : Rat) : inUnit Catalog.standard x "C" = .ok ⟨x, celsius, "C"⟩ :=
  inUnit_of_unit standard_unit_celsius x

/-- What is measured per degree. -/
def perDegree : Scale := .linear { temperature := -1 }

theorem celsius_pow : pow ⟨20, celsius, "C"⟩ (-1) = .ok ⟨1 / 20, perDegree, "C^-1"⟩ := by
  decide +kernel

/-- The opposite of a temperature in degrees Celsius is one, and a reciprocal is shown without
offset, until the reciprocal of it is taken. -/
theorem offset_of_celsius :
    ShowsOffset Catalog.standard (neg ⟨20, celsius, "C"⟩) ∧
      ShowsOffset Catalog.standard ⟨1 / 20, perDegree, "C^-1"⟩ ∧
      ∀ r, pow ⟨1 / 20, perDegree, "C^-1"⟩ (-1) = .ok r → ¬ r.ShowsOffset Catalog.standard := by
  have written := Calculated.inUnit (inUnit_celsius 20)
  have plain : Label.exponent? "C" = none := by decide
  have reciprocal : Calculated Catalog.standard ⟨1 / 20, perDegree, "C^-1"⟩ := by
    refine written.pow celsius_pow ?_ ?_
    · rintro ⟨-, base, k, u, shown, -⟩
      rw [plain] at shown
      cases shown
    · rintro ⟨⟨base, shown, -⟩, -⟩
      rw [plain] at shown
      cases shown
  obtain ⟨shows, powers⟩ := offset_of_calculated reciprocal
  refine ⟨(offset_of_calculated written.neg).1, shows, fun r power => (powers _ r power).1 ?_⟩
  have parts : Label.exponent? "C^-1" = some (['C'], -1) := by decide
  exact ⟨by decide, ['C'], -1, celsius, parts, by decide, standard_unit_celsius, by decide +kernel⟩

/-- The reciprocal of the reciprocal of 20 degrees Celsius is labelled as 20 degrees Celsius, but it
is 20 kelvin. -/
theorem not_showsOffset_reciprocal :
    ¬ ∀ (x : Rat) (text : String) (m n : Int) (a q r : Quantity),
      inUnit Catalog.standard x text = .ok a → a.pow m = .ok q → q.pow n = .ok r →
      r.ShowsOffset Catalog.standard := by
  intro always
  have back : pow ⟨1 / 20, perDegree, "C^-1"⟩ (-1) =
      .ok ⟨20, .linear Dimension.ofTemperature, "C"⟩ := by
    decide +kernel
  have shows := always _ _ _ _ _ _ _ (inUnit_celsius 20) celsius_pow back
  have same := shows celsius standard_unit_celsius
  exact absurd same (by decide +kernel)

end Quantity

end Metrology
