import Metrology.Proofs.Quantity.Displayed
import Metrology.Proofs.Setting
import Metrology.Proofs.Symbol.Normal

/-!
# Labels of spellings

Labels are composed as they are written and read in normal form, so composing should not ask which
of its spellings a label is in. For products it does not: what the label of a product is read from
is known from what the operands are read from (`characters_product_eq`). For quotients it matters
where a Greek middle dot is overlooked, which is a letter to the scan for several terms and a sign
to the reader. Then the divisor is left without parentheses, and only the first of its terms divides
(`unit_quotient_of_overlooked`).
Main statement: spellings of the operands give labels of the same unit, unless a dot is overlooked
in one divisor and not in the other; and then they do so only if the divisor is worth its first term
(`unit_product_and_quotient`).
-/

namespace Metrology

open Text UnitExpr

/-! ## Divisors without parentheses -/

namespace UnitExpr

variable {c : Catalog} {left right : List Char} {s t : Scale}

/-- The scale of the term that a text begins with, as it is read. -/
def FirstTerm (c : Catalog) (cs : List Char) (first : Scale) : Prop :=
  ∃ head rest e k d, cs = head ++ rest ∧ Derives .term head rest e k d ∧ c.scaleOf e = .ok first

theorem FirstTerm.factor_pos {first : Scale} (h : FirstTerm c right first) :
    0 < first.factor := by
  obtain ⟨head, rest, e, k, d, -, -, scale⟩ := h
  exact Catalog.factor_pos_of_scaleOf scale

/-- Behind a slash only the first term of a text divides; the others join as they did. -/
theorem Denotes.exists_quotient (hleft : Denotes c left [] s) (hright : Denotes c right [] t)
    (tight : Tight right) :
    ∃ first others, FirstTerm c right first ∧ t = first.mul others ∧ others.dropOffset = others ∧
      ∀ u, s.div first = .ok u → Denotes c (left ++ '/' :: right) [] (u.mul others) := by
  obtain ⟨e, k, d, derived, scale⟩ := hright
  obtain ⟨blanks, head, rest, f, l, m, first, others, rfl, hblanks, term, scale₀, rfl, goes⟩ :=
    derived.regrafts scale
  refine ⟨first, others.dropOffset, ?_, rfl, rfl, fun u divided => ?_⟩
  · have none : blanks = [] := by
      cases blanks with
      | nil => rfl
      | cons b blanks =>
        have solid : isBlank b = false := stopsAt_cons.1 tight.front
        rw [hblanks.of_cons.1] at solid
        cases solid
    exact ⟨head, rest, f, l, m, by simp [none], by simpa using term, scale₀⟩
  · have joins : Joins .per ([] ++ '/' :: blanks) head (rest ++ []) f :=
      joins_sign .nil rfl hblanks term
    have quotient := (hleft.of_isBoundary (b := '/') (by decide)
      (blanks ++ head ++ (rest ++ []))).of_joins joins scale₀ divided
    rw [Scale.mul_dropOffset]
    simpa using goes _ _ quotient

end UnitExpr

theorem Scale.exists_div (s : Scale) {t : Scale} (positive : 0 < t.factor) :
    ∃ u, s.div t = .ok u := by
  rw [Scale.div, if_neg positive.ne']
  exact ⟨_, rfl⟩

theorem Dimension.eq_one_of_mul_eq_div {a b d : Dimension}
    (h : (a.div b).mul d = a.div (b.mul d)) : d = one := by
  cases a
  cases b
  cases d
  simp only [div, mul, one, Dimension.mk.injEq] at h ⊢
  omega

/-- Dividing by the first of two factors alone makes a difference unless the other one is one. -/
theorem Scale.mul_of_div_eq_iff {s first others u v : Scale} (hs : 0 < s.factor)
    (hfirst : 0 < first.factor) (hothers : 0 < others.factor) (linear : others.dropOffset = others)
    (divided : s.div first = .ok u) (whole : s.div (first.mul others) = .ok v) :
    u.mul others = v ↔ others = one := by
  obtain ⟨-, rfl⟩ := eq_of_div divided
  obtain ⟨-, rfl⟩ := eq_of_div whole
  constructor
  · intro same
    have dimension : (s.dimension.div first.dimension).mul others.dimension =
        s.dimension.div (first.dimension.mul others.dimension) := congrArg Scale.dimension same
    have factor : s.factor / first.factor * others.factor =
        s.factor / (first.factor * others.factor) := congrArg Scale.factor same
    have square : others.factor * others.factor = 1 := by
      rw [← div_div, eq_div_iff hothers.ne', Rat.mul_assoc] at factor
      exact (mul_eq_left₀ (div_pos hs hfirst).ne').1 factor
    rw [← linear]
    refine eq_of_parts (Dimension.eq_one_of_mul_eq_div dimension) ?_ rfl
    refine (mul_self_eq_one_iff.1 square).resolve_right fun negative => ?_
    rw [negative] at hothers
    exact absurd hothers (by decide)
  · rintro rfl
    rw [mul_one, mul_one]
    rfl

namespace Label

variable {c : Catalog} {left right left' right' : String} {s t : Scale}

/-! ## Labels that are read from the same characters -/

/-- A label is that of a pure number if it is read as one. -/
theorem isUnity_iff_characters {label : String} :
    isUnity label = true ↔ characters label = [] ∨ characters label = ['1'] := by
  have empty {cs : List Char} : Symbol.form cs = [] ↔ cs = [] := by
    constructor
    · intro none
      by_contra filled
      exact Symbol.form_ne_nil filled none
    · rintro rfl
      exact Symbol.form_nil
  rw [isUnity_iff, characters, empty, form_eq_cons_iff (by decide)]
  simp [empty]

theorem isUnity_eq_false_iff_characters {label : String} :
    isUnity label = false ↔ ¬ (characters label = [] ∨ characters label = ['1']) := by
  rw [← isUnity_iff_characters, Bool.not_eq_true]

theorem isUnity_congr (same : characters left' = characters left) :
    isUnity left' = isUnity left := by
  rw [Bool.eq_iff_iff, isUnity_iff_characters, isUnity_iff_characters, same]

/-- What the label of a product is read from depends on nothing else of its operands. -/
theorem characters_product_congr (sameLeft : characters left' = characters left)
    (sameRight : characters right' = characters right) :
    characters (product left' right') = characters (product left right) := by
  have unityLeft := isUnity_congr sameLeft
  have unityRight := isUnity_congr sameRight
  cases hleft : isUnity left with
  | true =>
    simp only [product, isUnity_strip, unityLeft, unityRight, hleft, if_true]
    split
    · rfl
    · rw [characters_strip, characters_strip, sameRight]
  | false =>
    cases hright : isUnity right with
    | true =>
      simp only [product, isUnity_strip, unityLeft, unityRight, hleft, hright, if_true,
        Bool.false_eq_true, if_false]
      rw [characters_strip, characters_strip, sameLeft]
    | false =>
      rw [hleft] at unityLeft
      rw [hright] at unityRight
      rcases characters_product unityLeft unityRight with ⟨rest', shape', text'⟩ | ⟨other', text'⟩
      · rcases characters_product hleft hright with ⟨rest, shape, text⟩ | ⟨other, text⟩
        · rw [sameRight, shape] at shape'
          cases shape'
          rw [text, text', sameLeft]
        · exact absurd (sameRight ▸ shape') (other rest')
      · rcases characters_product hleft hright with ⟨rest, shape, text⟩ | ⟨other, text⟩
        · exact absurd (sameRight.trans shape) (other' rest)
        · rw [text, text', sameLeft, sameRight]

/-- What the label of a quotient is read from depends moreover on whether the divisor is written as
a single term. -/
theorem characters_quotient_congr (sameLeft : characters left' = characters left)
    (sameRight : characters right' = characters right)
    (terms : isSingleTermAt 0 (trim right'.toList) = isSingleTermAt 0 (trim right.toList)) :
    characters (quotient left' right') = characters (quotient left right) := by
  have unityLeft := isUnity_congr sameLeft
  have unityRight := isUnity_congr sameRight
  cases hright : isUnity right with
  | true =>
    simp only [quotient, isUnity_strip, unityLeft, unityRight, hright, if_true]
    split
    · rfl
    · rw [characters_strip, characters_strip, sameLeft]
  | false =>
    have divisor : Symbol.form (divisorText (trim right'.toList)) =
        Symbol.form (divisorText (trim right.toList)) := by
      have same : Symbol.form (trim right'.toList) = Symbol.form (trim right.toList) := sameRight
      unfold divisorText
      rw [terms]
      split
      · exact same
      · rw [form_group, form_group, same]
    rw [hright] at unityRight
    rw [characters_quotient hright, characters_quotient unityRight, divisor, unityLeft, sameLeft]

/-- A label without overlooked dots is written as a single term exactly if it is read as one. -/
theorem not_scansAlike_iff {label : String} : ¬ ScansAlike label ↔
    isSingleTermAt 0 (trim label.toList) = true ∧ isSingleTermAt 0 (characters label) = false := by
  unfold ScansAlike
  constructor
  · intro differ
    cases read : isSingleTermAt 0 (characters label) with
    | true =>
      -- normalization makes no single term of several
      rw [read, isSingleTermAt_of_form read] at differ
      exact absurd rfl differ
    | false =>
      rw [read] at differ
      exact ⟨by simpa using differ, rfl⟩
  · rintro ⟨written, read⟩ same
    rw [written, read] at same
    cases same

/-! ## Normal forms of labels -/

theorem characters_normalize (label : String) :
    characters (Symbol.normalize label) = characters label := by
  rw [normalize_eq_ofList]
  exact (characters_ofList (tight_form (tight_trim _))).trans (Symbol.form_form _)

theorem characters_eq_of_normalize {label label' : String}
    (same : Symbol.normalize label' = Symbol.normalize label) :
    characters label' = characters label := by
  rw [← characters_normalize, same, characters_normalize]

theorem unit_congr (same : characters left' = characters left) (hint : Option Dimension) :
    c.unit left' hint = c.unit left hint := by
  unfold Catalog.unit
  rw [normalize_eq_ofList, normalize_eq_ofList, same]

/-- Nothing is overlooked in a normal form. -/
theorem scansAlike_normalize (label : String) : ScansAlike (Symbol.normalize label) := by
  have text : trim (Symbol.normalize label).toList = characters label := by
    rw [normalize_eq_ofList, String.toList_ofList]
    exact (tight_form (tight_trim _)).trim_eq
  rw [ScansAlike, characters_normalize, text]

theorem terms_congr (sameRight : characters right' = characters right)
    (alike : ScansAlike right' ↔ ScansAlike right) :
    isSingleTermAt 0 (trim right'.toList) = isSingleTermAt 0 (trim right.toList) := by
  by_cases scans : ScansAlike right
  · have scans' := alike.2 scans
    rw [← scans, ← scans', sameRight]
  · have scans' := fun scans' => scans (alike.1 scans')
    rw [(not_scansAlike_iff.1 scans).1, (not_scansAlike_iff.1 scans').1]

/-! ## Overlooked dots -/

theorem isUnity_eq_false_of_overlooked {label : String} (overlooked : ¬ ScansAlike label) :
    isUnity label = false := by
  have several := (not_scansAlike_iff.1 overlooked).2
  rw [isUnity_eq_false_iff_characters]
  rintro (text | text)
  all_goals
    rw [text] at several
    cases several

/-- Behind a divisor in which a dot is overlooked, the label of the quotient is read as the quotient
by the first term of it, multiplied by the others. -/
theorem unit_quotient_of_overlooked (overlooked : ¬ ScansAlike right)
    (readLeft : c.unit left = .ok s) (readRight : c.unit right = .ok t)
    (limits : WithinLimits (Symbol.normalize (quotient left right))) (hint : Option Dimension) :
    ∃ first others u, FirstTerm c (characters right) first ∧ t.dropOffset = first.mul others ∧
      others.dropOffset = others ∧ s.div first = .ok u ∧
      (c.unit (quotient left right) hint).map Scale.dropOffset = .ok (u.mul others) := by
  have written := (not_scansAlike_iff.1 overlooked).1
  have named := isUnity_eq_false_of_overlooked overlooked
  have divisor := means_of_unit named readRight
  have dividend := Quantity.means_dividend readLeft
  obtain ⟨first, others, begins, product, linear, quotient⟩ :=
    dividend.denotes.exists_quotient divisor.denotes (tight_form (tight_trim _))
  obtain ⟨u, divided⟩ := s.exists_div begins.factor_pos
  have text : characters (Label.quotient left right) =
      (if isUnity left = true then ['1'] else characters left) ++ '/' :: characters right := by
    rw [characters_quotient named, divisorText, if_pos written]
    rfl
  have whole : Means c (characters (Label.quotient left right)) (u.mul others) := by
    rw [text]
    exact ⟨by simp, clean_append dividend.clean (clean_cons (by decide) divisor.clean),
      quotient u divided⟩
  exact ⟨first, others, u, begins, product, linear, divided,
    whole.unit_hint limits (ofText_quotient_ne_name named) hint⟩

/-- Spellings of the operands give labels of one and the same unit, among them their normal forms,
as long as dots are overlooked in neither or in both of the divisors. Where a dot is overlooked in
the divisor, its label is that of another unit than with the divisor in normal form, unless the
divisor is worth its first term. -/
theorem unit_product_and_quotient (c : Catalog) (left right : String) (hint : Option Dimension) :
    (∀ left' right', Symbol.normalize left' = Symbol.normalize left →
      Symbol.normalize right' = Symbol.normalize right →
      c.unit (product left' right') hint = c.unit (product left right) hint ∧
      ((ScansAlike right' ↔ ScansAlike right) →
        c.unit (quotient left' right') hint = c.unit (quotient left right) hint)) ∧
    c.unit (product left right) hint =
      c.unit (product (Symbol.normalize left) (Symbol.normalize right)) hint ∧
    (ScansAlike right → c.unit (quotient left right) hint =
      c.unit (quotient (Symbol.normalize left) (Symbol.normalize right)) hint) ∧
    (¬ ScansAlike right → ∀ s t, c.unit left = .ok s → c.unit right = .ok t →
      WithinLimits (Symbol.normalize (quotient left right)) →
      WithinLimits (Symbol.normalize (quotient (Symbol.normalize left) (Symbol.normalize right))) →
      ∃ first others u v, FirstTerm c (characters right) first ∧
        t.dropOffset = first.mul others ∧ s.div first = .ok u ∧ s.div t = .ok v ∧
        (c.unit (quotient left right) hint).map Scale.dropOffset = .ok (u.mul others) ∧
        (c.unit (quotient (Symbol.normalize left) (Symbol.normalize right)) hint).map
          Scale.dropOffset = .ok v ∧
        (u.mul others = v ↔ others = Scale.one)) := by
  have sameLeft := characters_normalize left
  have sameRight := characters_normalize right
  have alike := scansAlike_normalize right
  refine ⟨fun left' right' spelledLeft spelledRight => ⟨?_, fun scans => ?_⟩, ?_, fun scans => ?_,
    fun overlooked s t readLeft readRight limits limits' => ?_⟩
  · exact unit_congr (characters_product_congr (characters_eq_of_normalize spelledLeft)
      (characters_eq_of_normalize spelledRight)) hint
  · have spelledRight := characters_eq_of_normalize spelledRight
    exact unit_congr (characters_quotient_congr (characters_eq_of_normalize spelledLeft)
      spelledRight (terms_congr spelledRight scans)) hint
  · exact (unit_congr (characters_product_congr sameLeft sameRight) hint).symm
  · exact (unit_congr (characters_quotient_congr sameLeft sameRight
      (terms_congr sameRight (iff_of_true alike scans))) hint).symm
  · obtain ⟨first, others, u, begins, product, linear, divided, read⟩ :=
      unit_quotient_of_overlooked overlooked readLeft readRight limits hint
    have positive : 0 < t.dropOffset.factor := (Catalog.factor_pos_of_unit readRight : 0 < t.factor)
    rw [product] at positive
    obtain ⟨v, whole⟩ := s.exists_div positive
    have named : isUnity (Symbol.normalize right) = false :=
      (isUnity_congr sameRight).trans (isUnity_eq_false_of_overlooked overlooked)
    have readLeft' := (unit_congr sameLeft none).trans readLeft
    have readRight' := (unit_congr sameRight none).trans readRight
    have divided' : s.dropOffset.div t.dropOffset = .ok v := product ▸ whole
    have others_pos : 0 < others.factor := (mul_pos_iff_of_pos_left begins.factor_pos).1 positive
    refine ⟨first, others, u, v, begins, product, divided, divided', read, ?_, ?_⟩
    · exact unit_quotient hint (Quantity.means_dividend readLeft') (means_of_unit named readRight')
        named alike divided' limits'
    · exact Scale.mul_of_div_eq_iff (Catalog.factor_pos_of_unit readLeft) begins.factor_pos
        others_pos linear divided whole

/-! ## Metre and second with a Greek middle dot -/

theorem named_kilogram_metre_second :
    Catalog.standard.named "kg" = .ok (.linear .ofMass) ∧
      Catalog.standard.named "m" = .ok (.linear .ofLength) ∧
      Catalog.standard.named "s" = .ok (.linear .ofTime) := by
  have base {p : String × Dimension} (mem : p ∈ baseDimensions) :=
    named_of_base Catalog.hasBaseUnits_standard mem
  exact ⟨base (p := ("kg", .ofMass)) (by decide), base (p := ("m", .ofLength)) (by decide),
    base (p := ("s", .ofTime)) (by decide)⟩

/-- What texts of kilogram, metre and second are composed to and read as. With a Greek middle dot
the divisor is written as one term and read as two. -/
theorem texts_metre_second :
    (UnitExpr.ofText "kg" = .ok (.name "kg") ∧
      UnitExpr.ofText "m\u0387s" = .ok (.mul (.name "m") (.name "s")) ∧
      UnitExpr.ofText "kg/m\u0387s" = .ok (.mul (.div (.name "kg") (.name "m")) (.name "s")) ∧
      UnitExpr.ofText "kg/(m·s)" = .ok (.div (.name "kg") (.mul (.name "m") (.name "s")))) ∧
    (quotient "kg" "m\u0387s" = "kg/m\u0387s" ∧
      quotient (Symbol.normalize "kg") (Symbol.normalize "m\u0387s") = "kg/(m·s)") ∧
    isSingleTermAt 0 (trim "m\u0387s".toList) = true ∧
      isSingleTermAt 0 (characters "m\u0387s") = false := by
  decide +kernel

theorem unit_metre_second (kilogram : c.named "kg" = .ok (.linear .ofMass))
    (metre : c.named "m" = .ok (.linear .ofLength)) (second : c.named "s" = .ok (.linear .ofTime)) :
    c.unit "kg" = .ok (.linear .ofMass) ∧
      c.unit "m\u0387s" = .ok (.linear (.ofLength * .ofTime)) ∧
      c.unit "kg/m\u0387s" = .ok (.linear (.ofMass / .ofLength * .ofTime)) ∧
      c.unit "kg/(m·s)" = .ok (.linear (.ofMass / (.ofLength * .ofTime))) := by
  obtain ⟨⟨name, pair, bare, grouped⟩, -⟩ := texts_metre_second
  rw [Catalog.unit_of_name name, Catalog.unit_of_expr pair, Catalog.unit_of_expr bare,
    Catalog.unit_of_expr grouped]
  simp only [Catalog.scaleOf, kilogram, metre, second, Except.map, Scale.dropOffset,
    Scale.dimension_linear, Scale.factor_linear, ok_bind, Scale.linear_mul, Scale.linear_div,
    and_self]

theorem overlooked_metre_second : ¬ ScansAlike "m\u0387s" :=
  not_scansAlike_iff.2 texts_metre_second.2.2

theorem unit_product_and_quotient_metre_second :
    (Catalog.standard.unit (product (Symbol.normalize "kg") " \u00b5m·s") =
      Catalog.standard.unit (product "kg" " \u00b5m·s") ∧
    Catalog.standard.unit (quotient (Symbol.normalize "kg") " \u00b5m·s") =
      Catalog.standard.unit (quotient "kg" " \u00b5m·s")) ∧
    Catalog.standard.unit (quotient "kg" " \u00b5m·s") = Catalog.standard.unit
      (quotient (Symbol.normalize "kg") (Symbol.normalize " \u00b5m·s")) ∧
    ∃ first others u v, FirstTerm Catalog.standard (characters "m\u0387s") first ∧
      Scale.linear (.ofLength * .ofTime) = first.mul others ∧
      (Scale.linear .ofMass).div first = .ok u ∧
      (Scale.linear .ofMass).div (.linear (.ofLength * .ofTime)) = .ok v ∧
      (Catalog.standard.unit (quotient "kg" "m\u0387s")).map Scale.dropOffset =
        .ok (u.mul others) ∧
      (Catalog.standard.unit (quotient (Symbol.normalize "kg")
        (Symbol.normalize "m\u0387s"))).map Scale.dropOffset = .ok v ∧
      (u.mul others = v ↔ others = Scale.one) := by
  have alike : ScansAlike " \u00b5m·s" := scansAlike_of_dotless (by decide)
  obtain ⟨spellings, -, normal, -⟩ :=
    unit_product_and_quotient Catalog.standard "kg" " \u00b5m·s" none
  obtain ⟨products, quotients⟩ :=
    spellings (Symbol.normalize "kg") " \u00b5m·s" (Symbol.normalize_normalize _) rfl
  refine ⟨⟨products, quotients Iff.rfl⟩, normal alike, ?_⟩
  obtain ⟨kilogram, metre, second⟩ := named_kilogram_metre_second
  obtain ⟨dividend, divisor, -⟩ := unit_metre_second kilogram metre second
  have short : WithinLimits (Symbol.normalize (quotient "kg" "m\u0387s")) :=
    withinLimits_of_length_le (by decide +kernel)
  have short' : WithinLimits (Symbol.normalize
      (quotient (Symbol.normalize "kg") (Symbol.normalize "m\u0387s"))) :=
    withinLimits_of_length_le (by decide +kernel)
  exact (unit_product_and_quotient Catalog.standard "kg" "m\u0387s" none).2.2.2
    overlooked_metre_second _ _ dividend divisor short short'

/-- With a Greek middle dot between them, only the metre divides the kilogram; with the dot in
normal form, the product of metre and second does. -/
theorem not_unit_quotient_normalize :
    ¬ ∀ (c : Catalog) (left right : String) (s t : Scale), c.unit left = .ok s →
      c.unit right = .ok t → ∃ u v, c.unit (quotient left right) = .ok u ∧
        c.unit (quotient (Symbol.normalize left) (Symbol.normalize right)) = .ok v ∧
        u.dimension = v.dimension ∧ u.factor = v.factor := by
  intro always
  obtain ⟨kilogram, metre, second⟩ := named_kilogram_metre_second
  obtain ⟨dividend, divisor, bare, grouped⟩ := unit_metre_second kilogram metre second
  obtain ⟨u, v, raw, normal, dimension, -⟩ :=
    always Catalog.standard "kg" "m\u0387s" _ _ dividend divisor
  obtain ⟨-, labels, -⟩ := texts_metre_second
  rw [labels.1, bare] at raw
  rw [labels.2, grouped] at normal
  cases raw
  cases normal
  exact absurd dimension (by decide)

end Label

end Metrology
