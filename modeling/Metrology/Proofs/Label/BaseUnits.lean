import Mathlib.Algebra.BigOperators.Group.List.Basic
import Metrology.Proofs.Dimension
import Metrology.Proofs.Label.Power
import Metrology.Proofs.Number.Integer
import Metrology.Proofs.Quantity.Faithful
import Metrology.Proofs.Symbol.Normal

/-!
# Labels in base units

The label of a coherent unit in base units is read back as this unit in every catalog that has the
base units (`unit_ofDimension`). A factor of the label is a base unit to a power; factors that are
joined by stars mean their product, and each slash divides by the one factor behind it, whatever
stands in front. Numerator and denominator together make up the dimension (`prod_factors_div`).
-/

namespace Metrology

open Text UnitExpr

/-! ## Base units -/

/-- The base units with the dimensions that they measure. -/
def baseDimensions : List (String × Dimension) := [
  ("kg", .ofMass), ("m", .ofLength), ("s", .ofTime), ("A", .ofCurrent), ("K", .ofTemperature),
  ("mol", .ofAmount), ("cd", .ofLuminosity)]

/-- The dimension of a base unit. -/
def dimensionOfBase (base : String) : Dimension := (baseDimensions.lookup base).getD .one

/-- The symbols of the base units mean the coherent units of their dimensions without a hint. -/
def Catalog.HasBaseUnits (c : Catalog) : Prop :=
  ∀ p ∈ baseDimensions, ∃ r, c.get? p.1 = some r ∧ r.entry.scale = Scale.linear p.2

/-- The characters of base units and their exponents. -/
def factorChars : List Char :=
  ['^', '0', '1', '2', '3', '4', '5', '6', '7', '8', '9', 'A', 'K', 'c', 'd', 'g', 'k', 'l', 'm',
    'o', 's']

theorem plain_of_factorChar {c : Char} (h : c ∈ factorChars) : isSettled c = true ∧
    isBlank c = false ∧ c ∉ strayChars ∧ c ∉ ['*', '/', '·', '(', ')', '\u00b5'] := by
  have plain : factorChars.all (fun c => isSettled c && !isBlank c && !strayChars.contains c &&
      !List.contains ['*', '/', '·', '(', ')', '\u00b5'] c) = true := by
    decide
  simpa [and_assoc] using List.all_eq_true.1 plain c h

theorem dimensionOfBase_of_mem : ∀ p ∈ baseDimensions, dimensionOfBase p.1 = p.2 := by decide

/-- Whether a text is made of the characters of base units and their exponents. -/
def isFactorText (cs : List Char) : Bool := cs.all factorChars.contains

theorem forall_of_isFactorText {cs : List Char} (h : isFactorText cs = true) :
    ∀ c ∈ cs, c ∈ factorChars := by
  simpa [isFactorText] using h

theorem chars_of_base : ∀ p ∈ baseDimensions,
    p.1.toList.length ≤ 3 ∧ isFactorText p.1.toList = true := by
  decide

theorem isName_of_base : ∀ p ∈ baseDimensions, isName p.1.toList = true := by decide

/-! ## Powers of base units -/

namespace Scale

theorem linear_mul (d e : Dimension) : (linear d).mul (linear e) = linear (d * e) :=
  eq_of_parts rfl (Rat.mul_one 1) rfl

theorem linear_div (d e : Dimension) : (linear d).div (linear e) = .ok (linear (d / e)) := by
  rw [div, factor_linear, if_neg (by decide)]
  exact congrArg Except.ok (eq_of_parts rfl (by simp) rfl)

theorem linear_pow {d : Dimension} {f : Rat} {n : Int} (nonzero : f ≠ 0)
    (low : n.natAbs ≤ exponentLimit) (small : (d.pow n).maxExponent ≤ exponentLimit) :
    (linear d f).pow n = .ok (linear (d ^ n) (f ^ n)) := by
  by_cases first : n = 1
  · subst first
    rw [zpow_one, zpow_one]
    rfl
  · exact (pow_eq_ok_iff first).2 ⟨low, small, .inl nonzero, rfl⟩

end Scale

theorem maxExponent_pow_of_base (n : Int) :
    ∀ p ∈ baseDimensions, (p.2.pow n).maxExponent = n.natAbs := by
  intro p mem
  simp only [baseDimensions, List.mem_cons, List.not_mem_nil, or_false] at mem
  rcases mem with rfl | rfl | rfl | rfl | rfl | rfl | rfl
  all_goals simp [Dimension.maxExponent, Dimension.toList, Dimension.pow, Dimension.ofMass,
    Dimension.ofLength, Dimension.ofTime, Dimension.ofCurrent, Dimension.ofTemperature,
    Dimension.ofAmount, Dimension.ofLuminosity]

/-- The digits of an exponent within the limit. -/
theorem digits_of_exponent : ∀ n ≤ exponentLimit,
    (Nat.toDigits 10 n).length ≤ 2 ∧ isFactorText (Nat.toDigits 10 n) = true := by
  decide

theorem toList_toString (n : Nat) : (toString (n : Int)).toList = Nat.toDigits 10 n :=
  Nat.toList_repr

/-! ## Factors -/

/-- A text of characters that no normalization touches. -/
theorem isNormal_of_factorChars {cs : List Char} (plain : ∀ c ∈ cs, c ∈ factorChars) :
    Symbol.IsNormal cs where
  tight := tight_of_solid fun c mem => (plain_of_factorChar (plain c mem)).2.1
  fixed := by
    rw [canonical_of_settled fun c mem => (plain_of_factorChar (plain c mem)).1]
    refine Symbol.map_foldMicro_of_not_mem fun mem => ?_
    exact (plain_of_factorChar (plain _ mem)).2.2.2 (by simp)

theorem isSingleTermAt_of_factorChars {cs : List Char} (plain : ∀ c ∈ cs, c ∈ factorChars) :
    Label.isSingleTermAt 0 cs = true := by
  -- without parentheses the depth stays zero
  induction cs with
  | nil => rfl
  | cons c cs ih =>
    obtain ⟨first, rest⟩ := List.forall_mem_cons.1 plain
    obtain ⟨-, solid, -, apart⟩ := plain_of_factorChar first
    simp only [List.mem_cons, List.not_mem_nil, or_false, not_or] at apart
    obtain ⟨star, slash, dot, opening, closing, -⟩ := apart
    rw [isSingleTermAt_cons (fun same => absurd same star)]
    simp [star, slash, dot, opening, closing, solid, ih rest]

/-- A text that names the coherent unit of a dimension, and that divides as one term. -/
structure IsFactor (c : Catalog) (text : String) (d : Dimension) : Prop where
  names : Names c text.toList (.linear d)
  chars : ∀ a ∈ text.toList, a ∈ factorChars
  short : text.toList.length ≤ 6

theorem IsFactor.divisorText {c : Catalog} {text : String} {d : Dimension}
    (h : IsFactor c text d) : divisorText text.toList = text.toList := by
  rw [UnitExpr.divisorText, if_pos (isSingleTermAt_of_factorChars h.chars)]

variable {c : Catalog}

theorem named_of_base (hc : c.HasBaseUnits) {p : String × Dimension} (mem : p ∈ baseDimensions) :
    c.named p.1 = .ok (.linear p.2) := by
  obtain ⟨r, found, scale⟩ := hc p mem
  simp only [Catalog.named, found, scale]

theorem chars_of_factorText {p : String × Dimension} (mem : p ∈ baseDimensions) {n : Nat}
    (low : n ≤ exponentLimit) :
    (∀ a ∈ (Label.factorText p.1 n).toList, a ∈ factorChars) ∧
      (Label.factorText p.1 n).toList.length ≤ 6 := by
  obtain ⟨three, base⟩ := chars_of_base p mem
  obtain ⟨two, digits⟩ := digits_of_exponent n low
  unfold Label.factorText
  split
  · exact ⟨forall_of_isFactorText base, by omega⟩
  · have text : (p.1 ++ "^" ++ toString (n : Int)).toList =
        p.1.toList ++ '^' :: Nat.toDigits 10 n := by
      rw [String.toList_append, String.toList_append, toList_toString, List.append_assoc]
      rfl
    rw [text]
    constructor
    · refine List.forall_mem_append.2 ⟨forall_of_isFactorText base, ?_⟩
      exact List.forall_mem_cons.2 ⟨by simp [factorChars], forall_of_isFactorText digits⟩
    · rw [List.length_append, List.length_cons]
      omega

/-- A base unit to a power names the coherent unit of the power of its dimension. -/
theorem isFactor_of_base (hc : c.HasBaseUnits) {p : String × Dimension}
    (mem : p ∈ baseDimensions) {n : Nat} (above : 0 < n) (low : n ≤ exponentLimit) :
    IsFactor c (Label.factorText p.1 n) (p.2 ^ (n : Int)) := by
  obtain ⟨chars, short⟩ := chars_of_factorText mem low
  have name := isName_of_base p mem
  have clean : ∀ a ∈ (Label.factorText p.1 n).toList, a ∉ strayChars :=
    fun a listed => (plain_of_factorChar (chars a listed)).2.2.1
  have base : c.scaleOf (.name (String.ofList p.1.toList)) = .ok (.linear p.2) := by
    rw [String.ofList_toList, Catalog.scaleOf, named_of_base hc mem]
    rfl
  suffices denotes : Denotes c (Label.factorText p.1 n).toList [] (.linear (p.2 ^ (n : Int))) by
    refine ⟨⟨?_, isNormal_of_factorChars chars, clean, denotes⟩, chars, short⟩
    -- what is derived takes at least one character
    obtain ⟨e, k, d, derived, -⟩ := denotes
    have length := derived.counts_le_length.1
    exact List.length_pos_iff.1 (by omega)
  unfold Label.factorText
  split
  · next first =>
    rw [first, zpow_one]
    exact ⟨_, 0, 0, .single .nil (.bare (derives_of_isName name (.nil _))), base⟩
  · next other =>
    -- the exponent is neither the first nor the zeroth, so the power is kept
    have raised : (UnitExpr.name (String.ofList p.1.toList)).toPower n =
        .pow (.name (String.ofList p.1.toList)) n := by
      rw [toPower, if_neg other, if_neg (by omega)]
    have factor : Derives .factor p.1.toList ([] ++ ['^'] ++ (toString (n : Int)).toList ++ []) _ 0
        0 :=
      derives_of_isName name (stopsAt_cons.2 (by decide))
    have term := Derives.power factor .nil (.inl rfl) (Label.exponent_toString (n := (n : Int)) low)
    rw [raised] at term
    have derived : Derives .expression (p.1 ++ "^" ++ toString (n : Int)).toList []
        (.pow (.name (String.ofList p.1.toList)) n) 0 0 := by
      simpa using Derives.single .nil term
    have power : (Scale.linear p.2).pow n = .ok (.linear (p.2 ^ (n : Int))) := by
      have raised := Scale.linear_pow (f := 1) (n := (n : Int)) one_ne_zero low
        ((maxExponent_pow_of_base n p mem).trans_le low)
      rw [raised, one_zpow]
    refine ⟨_, 0, 0, derived, ?_⟩
    rw [Catalog.scaleOf, base]
    exact power

/-! ## Products and quotients of factors -/

theorem intercalate_cons_cons (sep text next : String) (rest : List String) :
    sep.intercalate (text :: next :: rest) = sep.intercalate ((text ++ sep ++ next) :: rest) := by
  rw [String.intercalate_cons_cons, String.intercalate_cons_append]

theorem names_times {text : String} {d : Dimension} (left : Names c text.toList (.linear d))
    {factors : List (String × Dimension)} (h : ∀ t ∈ factors, IsFactor c t.1 t.2) :
    Names c ("*".intercalate (text :: factors.map Prod.fst)).toList
      (.linear (d * (factors.map Prod.snd).prod)) := by
  -- the text in front takes up the first factor, with its dimension, at every step
  induction factors generalizing text d with
  | nil => simpa using left
  | cons t factors ih =>
    obtain ⟨first, rest⟩ := List.forall_mem_cons.1 h
    have joined := left.product first.names
    rw [Scale.linear_mul] at joined
    have shape : text.toList ++ '*' :: t.1.toList = (text ++ "*" ++ t.1).toList := by simp
    rw [shape] at joined
    have whole := ih joined rest
    rw [List.map_cons, intercalate_cons_cons, List.map_cons, List.prod_cons, ← mul_assoc]
    exact whole

/-- Each slash divides by the factor behind it. -/
theorem names_per {text : String} {d : Dimension} (left : Names c text.toList (.linear d))
    {factors : List (String × Dimension)} (h : ∀ t ∈ factors, IsFactor c t.1 t.2) :
    Names c ("/".intercalate (text :: factors.map Prod.fst)).toList
      (.linear (d / (factors.map Prod.snd).prod)) := by
  induction factors generalizing text d with
  | nil => simpa using left
  | cons t factors ih =>
    obtain ⟨first, rest⟩ := List.forall_mem_cons.1 h
    have joined := left.quotient first.names (Scale.linear_div d t.2)
    rw [first.divisorText] at joined
    have shape : text.toList ++ '/' :: t.1.toList = (text ++ "/" ++ t.1).toList := by simp
    rw [shape] at joined
    have whole := ih joined rest
    rw [List.map_cons, intercalate_cons_cons, List.map_cons, List.prod_cons, ← div_div]
    exact whole

/-- Every factor adds no more than seven characters, the sign in front of it included. -/
theorem length_intercalate {sep : String} (text : String) (single : sep.toList.length = 1)
    {factors : List (String × Dimension)} (h : ∀ t ∈ factors, IsFactor c t.1 t.2) :
    (sep.intercalate (text :: factors.map Prod.fst)).toList.length ≤
      text.toList.length + 7 * factors.length := by
  induction factors generalizing text with
  | nil => simp
  | cons t factors ih =>
    obtain ⟨first, rest⟩ := List.forall_mem_cons.1 h
    have short := first.short
    have whole := ih (text ++ sep ++ t.1) rest
    rw [List.map_cons, intercalate_cons_cons, List.length_cons]
    simp only [String.toList_append, List.length_append] at whole
    omega

/-! ## Numerator and denominator -/

/-- The factors of base units with positive exponents, with their dimensions. -/
def factors (units : List (String × Int)) : List (String × Dimension) :=
  units.filterMap fun (base, n) =>
    if 0 < n then some (Label.factorText base n, dimensionOfBase base ^ n) else none

/-- Base units with their exponents negated. -/
def inverted (units : List (String × Int)) : List (String × Int) :=
  units.map fun (base, n) => (base, -n)

theorem factors_cons (p : String × Int) (units : List (String × Int)) :
    factors (p :: units) =
      if 0 < p.2 then (Label.factorText p.1 p.2, dimensionOfBase p.1 ^ p.2) :: factors units
      else factors units := by
  by_cases above : 0 < p.2
  · simp [factors, above]
  · simp [factors, above]

theorem inverted_cons (p : String × Int) (units : List (String × Int)) :
    inverted (p :: units) = (p.1, -p.2) :: inverted units := rfl

theorem mem_factors {units : List (String × Int)} {t : String × Dimension}
    (mem : t ∈ factors units) :
    ∃ p ∈ units, 0 < p.2 ∧ t = (Label.factorText p.1 p.2, dimensionOfBase p.1 ^ p.2) := by
  obtain ⟨⟨base, n⟩, listed, made⟩ := List.mem_filterMap.1 mem
  obtain ⟨above, same⟩ := Option.ite_none_right_eq_some.1 made
  cases same
  exact ⟨(base, n), listed, above, rfl⟩

/-- The text in front of the slashes. -/
def numerator (above : List (String × Dimension)) : String :=
  if above = [] then "1" else "*".intercalate (above.map Prod.fst)

/-- The label of a coherent unit has the factors with positive exponents in its numerator and the
others, inverted, behind slashes. -/
theorem ofDimension_eq (d : Dimension) :
    Label.ofDimension d =
      let above := factors (Label.baseUnits d)
      let below := factors (inverted (Label.baseUnits d))
      if above = [] ∧ below = [] then ""
      else "/".intercalate (numerator above :: below.map Prod.fst) := by
  have above : (Label.baseUnits d).filterMap (fun (base, n) =>
      if 0 < n then some (Label.factorText base n) else none) =
        (factors (Label.baseUnits d)).map Prod.fst := by
    simp only [factors, List.map_filterMap, apply_ite, Option.map_some, Option.map_none]
  have below : (Label.baseUnits d).filterMap (fun (base, n) =>
      if n < 0 then some (Label.factorText base (-n)) else none) =
        (factors (inverted (Label.baseUnits d))).map Prod.fst := by
    simp only [factors, inverted, List.map_filterMap, List.filterMap_map, Function.comp_def,
      apply_ite, Option.map_some, Option.map_none, neg_pos]
  simp only [Label.ofDimension, numerator, above, below, List.map_eq_nil_iff]

/-- Numerator and denominator make up the product of all powers. -/
theorem prod_factors_div (units : List (String × Int)) :
    ((factors units).map Prod.snd).prod / ((factors (inverted units)).map Prod.snd).prod =
      (units.map fun p => dimensionOfBase p.1 ^ p.2).prod := by
  induction units with
  | nil => exact div_one 1
  | cons p units ih =>
    rw [List.map_cons, List.prod_cons, ← ih, inverted_cons, factors_cons, factors_cons]
    -- the sign of the exponent says on which side of the line the power stands
    rcases lt_trichotomy p.2 0 with below | zero | above
    · rw [if_neg (not_lt_of_gt below), if_pos (neg_pos.2 below), List.map_cons, List.prod_cons,
        zpow_neg, div_mul_eq_div_div, div_inv_eq_mul, mul_comm, mul_div_assoc]
    · simp [zero]
    · rw [if_pos above, if_neg (by omega), List.map_cons, List.prod_cons, mul_div_assoc]

theorem length_factors_add (units : List (String × Int)) :
    (factors units).length + (factors (inverted units)).length ≤ units.length := by
  induction units with
  | nil => exact Nat.le_refl 0
  | cons p units ih =>
    rw [inverted_cons, factors_cons, factors_cons]
    dsimp only
    split
    · next above =>
      rw [if_neg (by omega), List.length_cons, List.length_cons]
      omega
    · split
      · rw [List.length_cons, List.length_cons]
        omega
      · rw [List.length_cons]
        omega

/-! ## Whole labels -/

/-- The powers of all base units make up the dimension. -/
theorem prod_baseUnits (d : Dimension) :
    ((Label.baseUnits d).map fun p => dimensionOfBase p.1 ^ p.2).prod = d := by
  have product (a b : Dimension) : a * b = a.mul b := rfl
  have power (a : Dimension) (n : Int) : a ^ n = a.pow n := rfl
  simp only [Label.baseUnits, List.map_cons, List.map_nil, List.prod_cons, List.prod_nil, mul_one]
  simp [dimensionOfBase, baseDimensions, List.lookup_cons, product, power, Dimension.mul,
    Dimension.pow, Dimension.ofMass, Dimension.ofLength, Dimension.ofTime, Dimension.ofCurrent,
    Dimension.ofTemperature, Dimension.ofAmount, Dimension.ofLuminosity]

/-- No exponent is larger than the largest. -/
theorem natAbs_le_maxExponent {d : Dimension} {n : Int} (mem : n ∈ d.toList) :
    n.natAbs ≤ d.maxExponent := by
  unfold Dimension.maxExponent
  generalize d.toList = exponents at mem ⊢
  induction exponents with
  | nil => cases mem
  | cons m ms ih =>
    rw [List.foldr_cons]
    rcases List.mem_cons.1 mem with rfl | mem
    · exact Nat.le_max_left _ _
    · exact (ih mem).trans (Nat.le_max_right _ _)

theorem mem_baseUnits {d : Dimension} {p : String × Int} (mem : p ∈ Label.baseUnits d) :
    p.2 ∈ d.toList ∧ ∃ e, (p.1, e) ∈ baseDimensions := by
  simp only [Label.baseUnits, List.mem_cons, List.not_mem_nil, or_false] at mem
  rcases mem with rfl | rfl | rfl | rfl | rfl | rfl | rfl
  all_goals simp [Dimension.toList, baseDimensions]

theorem isFactor_of_mem (hc : c.HasBaseUnits) {units : List (String × Int)}
    (bases : ∀ p ∈ units, ∃ e, (p.1, e) ∈ baseDimensions)
    (small : ∀ p ∈ units, p.2.natAbs ≤ exponentLimit) :
    ∀ t ∈ factors units, IsFactor c t.1 t.2 := by
  intro t mem
  obtain ⟨⟨base, n⟩, listed, above, rfl⟩ := mem_factors mem
  obtain ⟨e, known⟩ := bases _ listed
  have low := small _ listed
  dsimp only at above known low ⊢
  obtain ⟨k, rfl⟩ := Int.eq_ofNat_of_zero_le (le_of_lt above)
  rw [dimensionOfBase_of_mem _ known]
  exact isFactor_of_base hc known (by omega) (by omega)

theorem isFactor_of_baseUnits (hc : c.HasBaseUnits) {d : Dimension}
    (small : d.maxExponent ≤ exponentLimit) :
    (∀ t ∈ factors (Label.baseUnits d), IsFactor c t.1 t.2) ∧
      ∀ t ∈ factors (inverted (Label.baseUnits d)), IsFactor c t.1 t.2 := by
  constructor
  · exact isFactor_of_mem hc (fun p mem => (mem_baseUnits mem).2) fun p mem =>
      (natAbs_le_maxExponent (mem_baseUnits mem).1).trans small
  · refine isFactor_of_mem hc (fun p mem => ?_) fun p mem => ?_
    all_goals obtain ⟨p, listed, rfl⟩ := List.mem_map.1 mem
    · exact (mem_baseUnits listed).2
    · rw [Int.natAbs_neg]
      exact (natAbs_le_maxExponent (mem_baseUnits listed).1).trans small

theorem names_numerator {above : List (String × Dimension)}
    (h : ∀ t ∈ above, IsFactor c t.1 t.2) :
    Names c (numerator above).toList (.linear (above.map Prod.snd).prod) ∧
      (numerator above).toList.length ≤ 1 + 7 * above.length := by
  cases above with
  | nil => exact ⟨names_one c, Nat.le_refl 1⟩
  | cons t above =>
    obtain ⟨first, rest⟩ := List.forall_mem_cons.1 h
    refine ⟨names_times first.names rest, (length_intercalate t.1 rfl rest).trans ?_⟩
    have short := first.short
    rw [List.length_cons]
    omega

/-- The label of a coherent unit that has factors names this unit. -/
theorem names_ofDimension (hc : c.HasBaseUnits) {d : Dimension}
    (small : d.maxExponent ≤ exponentLimit)
    (filled : ¬ (factors (Label.baseUnits d) = [] ∧ factors (inverted (Label.baseUnits d)) = [])) :
    Names c (Label.ofDimension d).toList (.linear d) ∧
      (Label.ofDimension d).toList.length ≤ 2 * nestingLimit := by
  obtain ⟨above, below⟩ := isFactor_of_baseUnits hc small
  obtain ⟨front, short⟩ := names_numerator above
  have whole := names_per front below
  rw [prod_factors_div, prod_baseUnits] at whole
  rw [ofDimension_eq, if_neg filled]
  refine ⟨whole, (length_intercalate (numerator _) rfl below).trans ?_⟩
  -- each of the seven base units is a factor on one side at most
  have seven := length_factors_add (Label.baseUnits d)
  have count : (Label.baseUnits d).length = 7 := rfl
  have limit : nestingLimit = 32 := rfl
  omega

/-- Only a temperature has units with an offset. -/
theorem unit_eq_linear {text : String} {d : Dimension} (other : d ≠ .ofTemperature)
    (h : (c.unit text).map Scale.dropOffset = .ok (.linear d)) : c.unit text = .ok (.linear d) := by
  obtain ⟨s, read, same⟩ := map_eq_ok_iff.1 h
  have dimension : s.dimension = d := congrArg Scale.dimension same
  have factor : s.factor = 1 := congrArg Scale.factor same
  subst dimension
  rw [read]
  exact congrArg Except.ok (Scale.eq_of_parts rfl factor (s.offset_eq_zero other))

/-- In every catalog that has the base units, the label of a coherent unit in base units is read as
this unit. -/
theorem unit_ofDimension (hc : c.HasBaseUnits) {d : Dimension}
    (small : d.maxExponent ≤ exponentLimit) :
    c.unit (Label.ofDimension d) = .ok (.linear d) := by
  by_cases bare : factors (Label.baseUnits d) = [] ∧ factors (inverted (Label.baseUnits d)) = []
  · -- no factors at all make up a pure number, which is shown without a label
    have product := prod_factors_div (Label.baseUnits d)
    rw [bare.1, bare.2, prod_baseUnits] at product
    rw [ofDimension_eq, if_pos bare, Label.unit_empty, ← product]
    rfl
  by_cases temperature : d = .ofTemperature
  · -- a single name keeps its offset, and this one has none
    subst temperature
    have label : Label.ofDimension .ofTemperature = "K" := by decide
    have spelled : UnitExpr.ofText "K" = .ok (.name "K") := by decide
    have kelvin : ("K", Dimension.ofTemperature) ∈ baseDimensions := by simp [baseDimensions]
    rw [label, Catalog.unit_of_name spelled none, named_of_base hc kelvin]
  · obtain ⟨names, short⟩ := names_ofDimension hc small bare
    have read := names.unit (withinLimits_of_length_le (by rwa [String.ofList_toList]))
    rw [String.ofList_toList] at read
    exact unit_eq_linear temperature read

end Metrology
