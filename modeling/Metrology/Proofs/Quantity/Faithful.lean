import Metrology.Catalog.Builder
import Metrology.Proofs.Quantity.Steps
import Metrology.Proofs.Symbol
import Metrology.Proofs.UnitExpr.Composition

/-!
# Faithful labels

A quantity is faithful in a catalog when its label names its unit there. The label of a result is
composed as text and its scale is computed from scales, so faithfulness of a result says that
reading the composed text does to the parts what the operation did to the scales.
Main statement: the results of arithmetic on faithful quantities are faithful
(`faithful_of_arithmetic`).
-/

namespace Metrology

open Text UnitExpr

/-! ## Texts that name scales -/

/-- Whatever a text spells keeps to the limits on operators and parentheses. -/
def WithinLimits (text : String) : Prop :=
  ∀ e k d, Spells text.toList e k d → k ≤ operatorLimit ∧ d ≤ nestingLimit

theorem withinLimits_of_length_le {text : String} (short : text.toList.length ≤ 2 * nestingLimit) :
    WithinLimits text :=
  fun _ _ _ spells => spells.counts_of_length_le short

theorem Scale.dropOffset_eq_iff {s t : Scale} :
    s.dropOffset = t.dropOffset ↔ s.dimension = t.dimension ∧ s.factor = t.factor := by
  constructor
  · intro same
    have dimension := congrArg Scale.dimension same
    have factor := congrArg Scale.factor same
    exact ⟨dimension, factor⟩
  · rintro ⟨dimension, factor⟩
    exact eq_of_parts dimension factor rfl

/-- A unit text has the scale of the expression that it spells, apart from an offset that only a
single name keeps. -/
theorem Catalog.unit_eq_scaleOf {c : Catalog} {text : String} {e : UnitExpr}
    (nonempty : Symbol.normalize text ≠ "")
    (spelled : ofChars (Symbol.normalize text).toList = .ok e) :
    (c.unit text).map Scale.dropOffset = c.scaleOf e := by
  simp only [unit, nonempty, spelled, if_false]
  split
  · next symbol same =>
    cases same
    rfl
  · next e' _ same =>
    cases same
    cases scale : c.scaleOf e with
    | error f => rfl
    | ok s => exact congrArg Except.ok (dropOffset_of_scaleOf scale)
  · next same => cases same

theorem ofList_ne_empty {cs : List Char} (nonempty : cs ≠ []) : String.ofList cs ≠ "" := by
  intro same
  exact nonempty (by simpa using congrArg String.toList same)

/-- What names a unit spells an expression of its scale. -/
theorem Catalog.exists_of_unit {c : Catalog} {text : String} {cs : List Char} {s : Scale}
    (nonempty : cs ≠ []) (same : Symbol.normalize text = String.ofList cs)
    (h : c.unit text = .ok s) :
    ∃ e, ofChars cs = .ok e ∧ c.scaleOf e = .ok s.dropOffset := by
  have filled : Symbol.normalize text ≠ "" := same ▸ ofList_ne_empty nonempty
  cases read : ofChars (Symbol.normalize text).toList with
  | error f => simp [Catalog.unit, filled, read] at h
  | ok e =>
    have scale := Catalog.unit_eq_scaleOf (c := c) filled read
    rw [h] at scale
    rw [same, String.toList_ofList] at read
    exact ⟨e, read, scale.symm⟩

/-- A text that spells an expression with a scale. -/
structure Means (c : Catalog) (cs : List Char) (s : Scale) : Prop where
  nonempty : cs ≠ []
  clean : ∀ b ∈ cs, b ∉ strayChars
  denotes : Denotes c cs [] s

theorem Means.of_unit {c : Catalog} {text : String} {cs : List Char} {s : Scale}
    (nonempty : cs ≠ []) (tight : Tight cs) (same : Symbol.normalize text = String.ofList cs)
    (h : c.unit text = .ok s) : Means c cs s.dropOffset := by
  obtain ⟨e, read, scale⟩ := Catalog.exists_of_unit nonempty same h
  obtain ⟨clean, k, d, ⟨front, blanks, rfl, hblanks, derived⟩, -, -⟩ := spells_of_ofChars read
  -- no blanks are left at the end of the text
  obtain rfl := tight.eq_nil_of_append hblanks
  rw [List.append_nil] at nonempty clean ⊢
  exact ⟨nonempty, clean, e, k, d, derived, scale⟩

theorem Means.unit {c : Catalog} {text : String} {cs : List Char} {s : Scale} (h : Means c cs s)
    (same : Symbol.normalize text = String.ofList cs) (limits : WithinLimits (String.ofList cs)) :
    (c.unit text).map Scale.dropOffset = .ok s := by
  obtain ⟨e, k, d, derived, scale⟩ := h.denotes
  have spells : Spells cs e k d := ⟨cs, [], (List.append_nil cs).symm, .nil, derived⟩
  obtain ⟨short, flat⟩ := limits e k d (by simpa using spells)
  rw [Catalog.unit_eq_scaleOf (e := e) _ _, scale]
  · rw [same]
    exact ofList_ne_empty h.nonempty
  · rw [same, String.toList_ofList]
    exact ofChars_of_spells h.clean spells short flat

/-- A text in normal form that spells an expression with a scale. -/
structure Names (c : Catalog) (cs : List Char) (s : Scale) : Prop where
  nonempty : cs ≠ []
  normal : Symbol.IsNormal cs
  clean : ∀ b ∈ cs, b ∉ strayChars
  denotes : Denotes c cs [] s

theorem Names.means {c : Catalog} {cs : List Char} {s : Scale} (h : Names c cs s) : Means c cs s :=
  ⟨h.nonempty, h.clean, h.denotes⟩

theorem Means.names {c : Catalog} {cs : List Char} {s : Scale} (h : Means c cs s)
    (normal : Symbol.IsNormal cs) : Names c cs s :=
  ⟨h.nonempty, normal, h.clean, h.denotes⟩

theorem Names.of_unit {c : Catalog} {text : String} {cs : List Char} {s : Scale}
    (nonempty : cs ≠ []) (normal : Symbol.IsNormal cs)
    (same : Symbol.normalize text = String.ofList cs) (h : c.unit text = .ok s) :
    Names c cs s.dropOffset :=
  (Means.of_unit nonempty normal.tight same h).names normal

theorem Names.unit {c : Catalog} {cs : List Char} {s : Scale} (h : Names c cs s)
    (limits : WithinLimits (String.ofList cs)) :
    (c.unit (String.ofList cs)).map Scale.dropOffset = .ok s :=
  h.means.unit (Symbol.normalize_of_isNormal h.normal) limits

/-! ## Composed texts -/

theorem clean_append {a b : List Char} (ha : ∀ c ∈ a, c ∉ strayChars)
    (hb : ∀ c ∈ b, c ∉ strayChars) : ∀ c ∈ a ++ b, c ∉ strayChars := by
  intro c mem
  rcases List.mem_append.1 mem with mem | mem
  · exact ha c mem
  · exact hb c mem

theorem clean_cons {c : Char} {b : List Char} (hc : c ∈ joiners) (hb : ∀ c ∈ b, c ∉ strayChars) :
    ∀ d ∈ c :: b, d ∉ strayChars := by
  have first : joiners.all (fun c => !strayChars.contains c) = true := by decide
  refine List.forall_mem_cons.2 ⟨?_, hb⟩
  simpa using List.all_eq_true.1 first c hc

theorem clean_of_cons {c : Char} {b : List Char} (h : ∀ d ∈ c :: b, d ∉ strayChars) :
    ∀ d ∈ b, d ∉ strayChars :=
  (List.forall_mem_cons.1 h).2

/-- A text in normal form that is joined to another one, or to the end of one. -/
theorem Symbol.IsNormal.append_cons {c : Char} {a b : List Char} (ha : IsNormal a)
    (nonempty : a ≠ []) (hc : c ∈ joiners) (back : Tight (c :: b))
    (fixed : (canonical b).map foldMicro = b) : IsNormal (a ++ c :: b) := by
  refine ⟨?_, fixed_append_cons hc ha.fixed fixed⟩
  have tight := ha.tight.append back nonempty (List.cons_ne_nil c b) []
  rwa [List.append_nil] at tight

theorem tight_cons {c : Char} {b : List Char} (solid : isBlank c = false) (hb : Tight b) :
    Tight (c :: b) := by
  refine ⟨stopsAt_cons.2 solid, ?_⟩
  rw [List.reverse_cons]
  cases back : b.reverse with
  | nil => exact stopsAt_cons.2 solid
  | cons d rest =>
    have stop := hb.back
    rw [back] at stop
    exact stopsAt_cons.2 (stopsAt_cons.1 stop)

theorem clean_divisorText {right : List Char} (h : ∀ c ∈ right, c ∉ strayChars) :
    ∀ c ∈ divisorText right, c ∉ strayChars := by
  unfold divisorText
  split
  · exact h
  · exact clean_cons (by decide) (clean_append h (clean_cons (by decide) (List.forall_mem_nil _)))

namespace Means

variable {c : Catalog} {left right rest : List Char} {s t u : Scale}

theorem one (c : Catalog) : Means c ['1'] Scale.one where
  nonempty := by simp
  clean := clean_cons (by decide) (List.forall_mem_nil _)
  denotes := denotes_one c

theorem product (hleft : Means c left s) (hright : Means c right t) :
    Means c (left ++ '*' :: right) (s.mul t) where
  nonempty := by simp
  clean := clean_append hleft.clean (clean_cons (by decide) hright.clean)
  denotes := hleft.denotes.product hright.denotes

theorem product_of_slash (hleft : Means c left s) (hright : Means c ('1' :: '/' :: rest) t) :
    Means c (left ++ '/' :: rest) (s.mul t) where
  nonempty := by simp
  clean := clean_append hleft.clean
    (clean_cons (by decide) (clean_of_cons (clean_of_cons hright.clean)))
  denotes := hleft.denotes.product_of_slash hright.denotes

theorem quotient (hleft : Means c left s) (hright : Means c right t) (quotient : s.div t = .ok u) :
    Means c (left ++ '/' :: divisorText right) u where
  nonempty := by simp
  clean := clean_append hleft.clean (clean_cons (by decide) (clean_divisorText hright.clean))
  denotes := hleft.denotes.quotient hright.denotes quotient

end Means

theorem Names.product {c : Catalog} {left right : List Char} {s t : Scale}
    (hleft : Names c left s) (hright : Names c right t) :
    Names c (left ++ '*' :: right) (s.mul t) :=
  (hleft.means.product hright.means).names <| hleft.normal.append_cons hleft.nonempty (by decide)
    (tight_cons (by decide) hright.normal.tight) hright.normal.fixed

theorem Names.product_of_slash {c : Catalog} {left rest : List Char} {s t : Scale}
    (hleft : Names c left s) (hright : Names c ('1' :: '/' :: rest) t) :
    Names c (left ++ '/' :: rest) (s.mul t) := by
  refine (hleft.means.product_of_slash hright.means).names ?_
  have slash := Symbol.fixed_of_cons (by decide) hright.normal.fixed
  refine hleft.normal.append_cons hleft.nonempty (by decide) ⟨stopsAt_cons.2 (by decide), ?_⟩
    (Symbol.fixed_of_cons (by decide) slash)
  have back := hright.normal.tight.back
  rw [List.reverse_cons] at back
  exact (stopsAt_append (by simp) _).1 back

theorem tight_divisorText {right : List Char} (h : Tight right) : Tight (divisorText right) := by
  unfold divisorText
  split
  · exact h
  · refine ⟨stopsAt_cons.2 (by decide), ?_⟩
    rw [List.reverse_append]
    exact stopsAt_cons.2 (by decide)

theorem isNormal_divisorText {right : List Char} (h : Symbol.IsNormal right) :
    Symbol.IsNormal (divisorText right) := by
  refine ⟨tight_divisorText h.tight, ?_⟩
  unfold divisorText
  split
  · exact h.fixed
  · have opened : (canonical ('(' :: right)).map Symbol.foldMicro = '(' :: right :=
      Symbol.fixed_append_cons (c := '(') (by decide) (a := []) rfl h.fixed
    exact Symbol.fixed_append_cons (c := ')') (by decide) opened (b := []) rfl

theorem Names.quotient {c : Catalog} {left right : List Char} {s t u : Scale}
    (hleft : Names c left s) (hright : Names c right t) (quotient : s.div t = .ok u) :
    Names c (left ++ '/' :: divisorText right) u :=
  (hleft.means.quotient hright.means quotient).names <|
    hleft.normal.append_cons hleft.nonempty (by decide)
      (tight_cons (by decide) (isNormal_divisorText hright.normal).tight)
      (isNormal_divisorText hright.normal).fixed

theorem names_one (c : Catalog) : Names c ['1'] Scale.one :=
  (Means.one c).names ⟨⟨stopsAt_cons.2 (by decide), stopsAt_cons.2 (by decide)⟩, rfl⟩

/-! ## Labels of results -/

theorem strip_strip (s : String) : strip (strip s) = strip s := by
  rw [strip, strip, String.toList_ofList, (tight_trim s.toList).trim_eq]

theorem isUnity_strip (s : String) : Label.isUnity (strip s) = Label.isUnity s := by
  rw [Label.isUnity, Label.isUnity, strip_strip]

theorem isUnity_iff {s : String} :
    Label.isUnity s = true ↔ trim s.toList = [] ∨ trim s.toList = ['1'] := by
  have empty : strip s = "" ↔ trim s.toList = [] := by
    rw [← String.toList_inj, strip, String.toList_ofList]
    rfl
  have one : strip s = "1" ↔ trim s.toList = ['1'] := by
    rw [← String.toList_inj, strip, String.toList_ofList]
    rfl
  simp [Label.isUnity, empty, one]

/-- The label of a product of two units that are not one. -/
theorem product_eq {left right : String} (hleft : Label.isUnity left = false)
    (hright : Label.isUnity right = false) :
    (∃ rest, trim right.toList = '1' :: '/' :: rest ∧
      Label.product left right = String.ofList (trim left.toList ++ '/' :: rest)) ∨
    (∀ rest, trim right.toList ≠ '1' :: '/' :: rest) ∧
      Label.product left right = String.ofList (trim left.toList ++ '*' :: trim right.toList) := by
  simp only [Label.product, isUnity_strip, hleft, hright, Bool.false_eq_true, if_false]
  split
  · next rest shape =>
    left
    refine ⟨rest, by simpa [strip] using shape, String.toList_inj.1 ?_⟩
    simp [strip]
  · next other =>
    right
    refine ⟨fun rest shape => other rest (by simpa [strip] using shape), String.toList_inj.1 ?_⟩
    simp [strip]

/-- The label of a quotient whose divisor is not one. -/
theorem quotient_eq {left right : String} (hright : Label.isUnity right = false) :
    Label.quotient left right =
      String.ofList ((if Label.isUnity left = true then ['1'] else trim left.toList) ++
        '/' :: divisorText (trim right.toList)) := by
  simp only [Label.quotient, isUnity_strip, hright, Bool.false_eq_true, if_false]
  refine String.toList_inj.1 ?_
  simp only [Label.isSingleTerm, divisorText, strip, String.toList_append, String.toList_ofList]
  split
  · split
    · simp
    · simp
  · split
    · simp
    · simp

/-! ## Faithful quantities -/

namespace Quantity

variable {c : Catalog} {q r : Quantity}

/-- The label of a quantity, read in a catalog, has the dimension and the factor of its unit. -/
def Faithful (c : Catalog) (q : Quantity) : Prop :=
  ∃ s, c.unit q.label = .ok s ∧ s.dimension = q.dimension ∧ s.factor = q.scale.factor

/-- Normalization only trims the label of a quantity. -/
def HasNormalLabel (q : Quantity) : Prop := Symbol.normalize q.label = strip q.label

/-- The label of a pure number is normalized by trimming it. -/
theorem hasNormalLabel_of_isUnity (unity : Label.isUnity q.label = true) : q.HasNormalLabel := by
  unfold HasNormalLabel Symbol.normalize strip
  rcases isUnity_iff.1 unity with text | text
  · rw [text]
    decide
  · rw [text]
    decide

theorem faithful_iff :
    q.Faithful c ↔ (c.unit q.label).map Scale.dropOffset = .ok q.scale.dropOffset := by
  simp only [Faithful, map_eq_ok_iff, Scale.dropOffset_eq_iff, dimension]

/-- Only the label and the unit of a quantity decide whether it is faithful. -/
theorem Faithful.withValue (h : q.Faithful c) (x : Rat) : (q.withValue x).Faithful c := h

theorem Faithful.names (h : q.Faithful c) (normal : q.HasNormalLabel)
    (named : Label.isUnity q.label = false) : Names c (trim q.label.toList) q.scale.dropOffset := by
  obtain ⟨s, read, same⟩ := h
  rw [← Scale.dropOffset_eq_iff.2 same]
  refine .of_unit ?_ (Symbol.isNormal_of_normalize_eq_strip normal) normal read
  intro empty
  simp [Label.isUnity, strip, empty] at named

theorem faithful_of_names {value : Rat} {scale s : Scale} {label : String} {cs : List Char}
    (limits : WithinLimits label) (text : label = String.ofList cs) (same : s = scale.dropOffset)
    (h : Names c cs s) : Faithful c { value, scale, label } := by
  subst text
  rw [faithful_iff]
  exact same ▸ h.unit limits

/-- A faithful quantity whose label names no unit has none. -/
theorem Faithful.dropOffset_eq_one (h : q.Faithful c) (normal : q.HasNormalLabel)
    (unity : Label.isUnity q.label = true) : q.scale.dropOffset = Scale.one := by
  have one : (c.unit q.label).map Scale.dropOffset = .ok Scale.one := by
    have text : Symbol.normalize q.label = "" ∨ Symbol.normalize q.label = "1" := by
      rw [normal]
      simpa [Label.isUnity] using unity
    rcases text with empty | digit
    · simp only [Catalog.unit, empty, if_true]
      rfl
    · refine Catalog.unit_eq_scaleOf (e := .one) ?_ ?_
      · simp [digit]
      · rw [digit]
        rfl
  rw [faithful_iff.1 h] at one
  exact Except.ok.inj one

/-- A quantity of the unit one whose label names no unit is a pure number, and no other is. -/
theorem isScalar_iff :
    q.isScalar = true ↔ q.scale.dropOffset = Scale.one ∧ Label.isUnity q.label = true := by
  have same : q.scale.dropOffset = Scale.one ↔
      q.scale.dimension = Dimension.one ∧ q.scale.factor = 1 :=
    Scale.dropOffset_eq_iff (t := Scale.one)
  simp [same, Quantity.isScalar, isDimensionless, Scale.isDimensionless]

theorem Faithful.isScalar (h : q.Faithful c) (normal : q.HasNormalLabel)
    (unity : Label.isUnity q.label = true) : q.isScalar = true :=
  isScalar_iff.2 ⟨h.dropOffset_eq_one normal unity, unity⟩

theorem Faithful.isUnity_eq_false (h : q.Faithful c) (normal : q.HasNormalLabel)
    (scaled : ¬ q.isScalar = true) : Label.isUnity q.label = false := by
  cases unity : Label.isUnity q.label with
  | false => rfl
  | true => exact absurd (h.isScalar normal unity) scaled

/-! ## Results of arithmetic -/

variable {a b : Quantity}

theorem Faithful.mul (ha : a.Faithful c) (hb : b.Faithful c) (na : a.HasNormalLabel)
    (nb : b.HasNormalLabel) (limits : WithinLimits (a.mul (.quantity b)).label) :
    (a.mul (.quantity b)).Faithful c := by
  rcases mul_cases a b with ⟨-, x, same⟩ | ⟨-, x, same⟩ | ⟨scalarA, scalarB, same⟩
  · exact same ▸ ha.withValue x
  · exact same ▸ hb.withValue x
  have namedA := ha.isUnity_eq_false na scalarA
  have namedB := hb.isUnity_eq_false nb scalarB
  have left := ha.names na namedA
  have right := hb.names nb namedB
  have scale := Scale.dropOffset_mul a.scale b.scale
  rw [same] at limits ⊢
  dsimp only at limits
  rcases product_eq namedA namedB with ⟨rest, shape, label⟩ | ⟨-, label⟩
  · rw [shape] at right
    exact faithful_of_names limits label scale (left.product_of_slash right)
  · exact faithful_of_names limits label scale (left.product right)

theorem Faithful.divInto {n : Rat} (hb : b.Faithful c) (nb : b.HasNormalLabel)
    (h : b.divInto n = .ok r) (limits : WithinLimits r.label) : r.Faithful c := by
  obtain ⟨x, scale, inverse, rfl⟩ := divInto_cases h
  dsimp only at limits
  have reciprocal := Scale.one_div_of_inverse inverse
  cases unity : Label.isUnity b.label with
  | true =>
    -- the label stays empty, and the unit is one
    have label : Label.quotient "" b.label = "" := by
      simp only [Label.quotient, isUnity_strip, unity]
      rfl
    rw [hb.dropOffset_eq_one nb unity] at reciprocal
    have one : Scale.one.div Scale.one = .ok Scale.one := by decide +kernel
    rw [one, Except.ok.injEq] at reciprocal
    rw [faithful_iff, label]
    dsimp only
    rw [← reciprocal]
    rfl
  | false =>
    have right := hb.names nb unity
    have label : Label.quotient "" b.label = _ := quotient_eq unity
    exact faithful_of_names limits label rfl ((names_one c).quotient right reciprocal)

theorem Faithful.div (ha : a.Faithful c) (hb : b.Faithful c) (na : a.HasNormalLabel)
    (nb : b.HasNormalLabel) (h : a.div (.quantity b) = .ok r) (limits : WithinLimits r.label) :
    r.Faithful c := by
  rcases div_cases h with ⟨-, x, rfl⟩ | ⟨-, -, reciprocal⟩ |
    ⟨scalarA, scalarB, x, scale, quotient, rfl⟩
  · exact ha.withValue x
  · exact hb.divInto nb reciprocal limits
  dsimp only at limits
  have namedA := ha.isUnity_eq_false na scalarA
  have namedB := hb.isUnity_eq_false nb scalarB
  have label : Label.quotient a.label b.label = _ := quotient_eq namedB
  rw [if_neg (by simp [namedA])] at label
  have same : a.scale.dropOffset.div b.scale.dropOffset = .ok scale.dropOffset := by
    rw [Scale.dropOffset_div, quotient, Scale.dropOffset_of_div quotient]
  exact faithful_of_names limits label rfl
    ((ha.names na namedA).quotient (hb.names nb namedB) same)

/-- Sums, differences, multiples and fractions keep the label with the unit. -/
theorem Faithful.add (ha : a.Faithful c) {o : Amount} (h : a.add o = .ok r) : r.Faithful c := by
  obtain ⟨x, rfl⟩ := add_cases h
  exact ha.withValue x

theorem Faithful.sub (ha : a.Faithful c) {o : Amount} (h : a.sub o = .ok r) : r.Faithful c := by
  obtain ⟨x, rfl⟩ := sub_cases h
  exact ha.withValue x

theorem Faithful.div_number (ha : a.Faithful c) {n : Rat} (h : a.div (.number n) = .ok r) :
    r.Faithful c := by
  obtain ⟨x, rfl⟩ := div_number_cases h
  exact ha.withValue x

/-- In every catalog, the results of arithmetic on faithful quantities are faithful again, as long
as a composed label keeps to the limits of unit texts. -/
theorem faithful_of_arithmetic (ha : a.Faithful c) (hb : b.Faithful c) (na : a.HasNormalLabel)
    (nb : b.HasNormalLabel) (n : Rat) :
    (WithinLimits (a.mul (.quantity b)).label → (a.mul (.quantity b)).Faithful c) ∧
      (∀ r, a.div (.quantity b) = .ok r → WithinLimits r.label → r.Faithful c) ∧
      (∀ r, b.divInto n = .ok r → WithinLimits r.label → r.Faithful c) ∧
      (a.mul (.number n)).Faithful c ∧
      (∀ r, a.div (.number n) = .ok r → r.Faithful c) ∧
      (∀ r, a.add (.quantity b) = .ok r → r.Faithful c) ∧
      (∀ r, a.sub (.quantity b) = .ok r → r.Faithful c) ∧
      a.neg.Faithful c := by
  refine ⟨ha.mul hb na nb, fun r h => ha.div hb na nb h, fun r h => hb.divInto nb h,
    ha.withValue _, fun r h => ha.div_number h, fun r h => ha.add h, fun r h => ha.sub h,
    ha.withValue _⟩

/-- A catalog of two units. -/
def metreAndSecond : Catalog :=
  (Builder.run {} [.define (.plain "length" .ofLength "m" "metre" 1),
    .define (.plain "time" .ofTime "s" "second" 1)]).catalog

/-- Six metres times three per second, divided by it, and its reciprocal. -/
theorem faithful_metres_per_second :
    let a : Quantity := ⟨6, .linear .ofLength, "m"⟩
    let b : Quantity := ⟨3, .linear .frequency, " 1/s "⟩
    (a.mul (.quantity b)).label = "m/s" ∧ (a.mul (.quantity b)).Faithful metreAndSecond ∧
      (∃ r, a.div (.quantity b) = .ok r ∧ r.label = "m/(1/s)" ∧ r.Faithful metreAndSecond) ∧
      ∃ r, b.divInto 1 = .ok r ∧ r.label = "1/(1/s)" ∧ r.Faithful metreAndSecond := by
  intro a b
  have ha : a.Faithful metreAndSecond := ⟨.linear .ofLength, by decide, rfl, rfl⟩
  have hb : b.Faithful metreAndSecond := ⟨.linear .frequency, by decide +kernel, rfl, rfl⟩
  have na : a.HasNormalLabel := by
    unfold HasNormalLabel
    decide
  have nb : b.HasNormalLabel := by
    unfold HasNormalLabel
    decide
  obtain ⟨product, quotient, reciprocal, -⟩ := faithful_of_arithmetic ha hb na nb 1
  have divided : a.div (.quantity b) =
      .ok ⟨2, .linear (Dimension.ofLength.mul .ofTime), "m/(1/s)"⟩ := by
    decide +kernel
  have inverted : b.divInto 1 = .ok ⟨1 / 3, .linear .ofTime, "1/(1/s)"⟩ := by decide +kernel
  refine ⟨by decide, product (withinLimits_of_length_le (by decide)),
    ⟨_, divided, rfl, quotient _ divided (withinLimits_of_length_le (by decide))⟩,
    ⟨_, inverted, rfl, reciprocal _ inverted (withinLimits_of_length_le (by decide))⟩⟩

end Quantity

end Metrology
