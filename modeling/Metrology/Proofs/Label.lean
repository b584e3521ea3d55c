import Metrology.Proofs.Catalog.Units
import Metrology.Proofs.Quantity.Faithful
import Metrology.Proofs.Text.Signs
import Metrology.Proofs.UnitExpr.SingleName

/-!
# Composed labels in normal form

What the label of a product or a quotient is read as, in terms of what the labels of the operands
are read as (`characters_product`, `characters_quotient`). Labels are composed as they are written
and read in normal form. The two agree except about the Greek middle dot, which is a sign only in
normal form: a divisor with such a dot is not put in parentheses, although it is read as several
terms (`scansAlike_of_dotless`).
-/

namespace Metrology

open Text UnitExpr

namespace Label

/-- The characters that a label is read from. -/
def characters (label : String) : List Char := Symbol.form (trim label.toList)

theorem normalize_eq_ofList (label : String) :
    Symbol.normalize label = String.ofList (characters label) := rfl

theorem characters_ofList {cs : List Char} (h : Tight cs) :
    characters (String.ofList cs) = Symbol.form cs := by
  rw [characters, String.toList_ofList, h.trim_eq]

theorem trim_ne_nil {label : String} (named : isUnity label = false) : trim label.toList ≠ [] := by
  intro empty
  simp [isUnity, strip, empty] at named

theorem characters_ne_nil {label : String} (named : isUnity label = false) :
    characters label ≠ [] :=
  Symbol.form_ne_nil (trim_ne_nil named)

theorem trim_strip (label : String) : trim (strip label).toList = trim label.toList := by
  rw [strip, String.toList_ofList, (tight_trim label.toList).trim_eq]

theorem characters_strip (label : String) : characters (strip label) = characters label := by
  rw [characters, trim_strip]
  rfl

theorem unit_strip (c : Catalog) (label : String) : c.unit (strip label) = c.unit label := by
  unfold Catalog.unit
  rw [normalize_eq_ofList, normalize_eq_ofList, characters_strip]

theorem unit_empty (c : Catalog) (hint : Option Dimension := none) :
    c.unit "" hint = .ok Scale.one := by
  unfold Catalog.unit
  exact if_pos (by decide)

theorem form_joined {c : Char} (h : c ∈ joiners) (front rest : List Char) :
    Symbol.form (front ++ c :: rest) = Symbol.form front ++ c :: Symbol.form rest :=
  Symbol.form_append_cons (isInert_of_mem_joiners h).isBarrier (Symbol.foldMicro_of_mem_joiners h)
    front rest

theorem form_cons {c : Char} (h : c ∈ joiners) (rest : List Char) :
    Symbol.form (c :: rest) = c :: Symbol.form rest :=
  form_joined h [] rest

/-- A joiner of the normal form was there before. -/
theorem form_eq_cons_iff {c : Char} (h : c ∈ joiners) {cs rest : List Char} :
    Symbol.form cs = c :: rest ↔ ∃ rest', cs = c :: rest' ∧ Symbol.form rest' = rest := by
  constructor
  · intro shape
    obtain ⟨front, rest', rfl, first⟩ :=
      List.eq_append_cons_of_mem (Symbol.mem_of_mem_form h (shape ▸ List.mem_cons_self))
    rw [form_joined h] at shape
    cases front with
    | nil => exact ⟨rest', rfl, (List.cons.inj shape).2⟩
    | cons d front =>
      -- the first joiner does not stand behind anything
      obtain ⟨e, tail, filled⟩ :=
        List.exists_cons_of_ne_nil (Symbol.form_ne_nil (List.cons_ne_nil d front))
      rw [filled] at shape
      obtain rfl := (List.cons.inj shape).1
      exact absurd (Symbol.mem_of_mem_form h (filled ▸ List.mem_cons_self)) first
  · rintro ⟨rest', rfl, rfl⟩
    exact form_cons h rest'

theorem form_group (cs : List Char) :
    Symbol.form ('(' :: cs ++ [')']) = '(' :: Symbol.form cs ++ [')'] := by
  rw [List.cons_append, form_cons (by decide), form_joined (by decide)]
  rfl

/-- As many terms are found in the label as in its normal form, one or several. -/
def ScansAlike (label : String) : Prop :=
  isSingleTermAt 0 (characters label) = isSingleTermAt 0 (trim label.toList)

theorem form_divisorText {cs : List Char}
    (alike : isSingleTermAt 0 (Symbol.form cs) = isSingleTermAt 0 cs) :
    Symbol.form (divisorText cs) = divisorText (Symbol.form cs) := by
  unfold divisorText
  rw [alike]
  split
  · rfl
  · exact form_group cs

theorem tight_joined {c : Char} {front rest : List Char} (hfront : Tight front)
    (hrest : Tight rest) (filled : front ≠ []) (solid : isBlank c = false) :
    Tight (front ++ c :: rest) := by
  have whole := hfront.append (tight_cons solid hrest) filled (List.cons_ne_nil c rest) []
  rwa [List.append_nil] at whole

theorem characters_product {left right : String} (hleft : isUnity left = false)
    (hright : isUnity right = false) :
    (∃ rest, characters right = '1' :: '/' :: rest ∧
      characters (product left right) = characters left ++ '/' :: rest) ∨
    (∀ rest, characters right ≠ '1' :: '/' :: rest) ∧
      characters (product left right) = characters left ++ '*' :: characters right := by
  have filled := trim_ne_nil hleft
  rcases product_eq hleft hright with ⟨rest, shape, label⟩ | ⟨other, label⟩
  · left
    have back := tight_trim right.toList
    rw [shape] at back
    have tight : Tight (trim left.toList ++ '/' :: rest) := by
      refine ⟨(stopsAt_append filled _).2 (tight_trim _).front, ?_⟩
      have last := back.back
      rw [List.reverse_cons] at last
      have last := (stopsAt_append (by simp) _).1 last
      rw [List.reverse_append]
      exact (stopsAt_append (by simp) _).2 last
    refine ⟨Symbol.form rest, ?_, ?_⟩
    · rw [characters, shape, form_cons (by decide), form_cons (by decide)]
    · rw [label, characters_ofList tight, form_joined (by decide)]
      rfl
  · right
    refine ⟨fun rest shape => ?_, ?_⟩
    · -- the signs of a reciprocal were there before
      obtain ⟨tail, text, shape⟩ := (form_eq_cons_iff (by decide)).1 shape
      obtain ⟨rest', rfl, -⟩ := (form_eq_cons_iff (by decide)).1 shape
      exact other rest' text
    · rw [label, characters_ofList (tight_joined (tight_trim _) (tight_trim _) filled (by decide)),
        form_joined (by decide)]
      rfl

theorem characters_quotient {left right : String} (hright : isUnity right = false) :
    characters (quotient left right) =
      (if isUnity left = true then ['1'] else characters left) ++
        '/' :: Symbol.form (divisorText (trim right.toList)) := by
  have divisor := tight_divisorText (tight_trim right.toList)
  rw [quotient_eq hright]
  split
  · have one : Tight ['1'] := ⟨stopsAt_cons.2 (by decide), stopsAt_cons.2 (by decide)⟩
    rw [characters_ofList (tight_joined one divisor (by simp) (by decide)), form_joined (by decide)]
    rfl
  · next named =>
    have filled := trim_ne_nil (by simpa using named)
    rw [characters_ofList (tight_joined (tight_trim _) divisor filled (by decide)),
      form_joined (by decide)]
    rfl

theorem mem_of_mem_trim {c : Char} {cs : List Char} (mem : c ∈ trim cs) : c ∈ cs := by
  have back := List.mem_reverse.1 ((List.dropWhile_sublist _).subset (List.mem_reverse.1 mem))
  exact (List.dropWhile_sublist _).subset back

/-- Only a Greek middle dot is no sign as it is written and one as it is read. -/
theorem scansAlike_of_dotless {label : String} (dotless : greekDot ∉ label.toList) :
    ScansAlike label :=
  isSingleTermAt_form (fun mem => dotless (mem_of_mem_trim mem)) 0

theorem characters_quotient_of_scansAlike {left right : String} (hright : isUnity right = false)
    (alike : ScansAlike right) :
    characters (quotient left right) =
      (if isUnity left = true then ['1'] else characters left) ++
        '/' :: divisorText (characters right) := by
  rw [characters_quotient hright, form_divisorText alike]
  rfl

theorem means_of_unit {c : Catalog} {label : String} {s : Scale} (named : isUnity label = false)
    (h : c.unit label = .ok s) : Means c (characters label) s.dropOffset :=
  .of_unit (characters_ne_nil named) (tight_form (tight_trim _)) (normalize_eq_ofList label) h

end Label

/-! ## What labels mean -/

namespace Means

variable {c : Catalog} {cs : List Char} {s : Scale}

/-- What spells an expression neither begins nor ends with a star. -/
theorem starless (h : Means c cs s) : Starless cs := by
  obtain ⟨e, k, d, derived, -⟩ := h.denotes
  exact ⟨derived.head?_ne_star.2, derived.getLast?_ne_star⟩

/-- A label that is no single name is read alike behind every hint. -/
theorem unit_hint {label : String} (h : Means c (Label.characters label) s)
    (limits : WithinLimits (Symbol.normalize label))
    (unnamed : ∀ name, UnitExpr.ofText label ≠ .ok (.name name)) (hint : Option Dimension) :
    (c.unit label hint).map Scale.dropOffset = .ok s := by
  rcases Catalog.unit_cases c label with ⟨name, read⟩ | plain
  · exact absurd read (unnamed name)
  · rw [plain]
    exact h.unit (Label.normalize_eq_ofList label) limits

end Means

/-! ## Composed labels are no single names -/

namespace Label

theorem ofText_eq_ofChars (label : String) :
    UnitExpr.ofText label = ofChars (characters label) := by
  rw [UnitExpr.ofText, normalize_eq_ofList, String.toList_ofList]

/-- The label of a pure number is no name. -/
theorem ofText_ne_name_of_isUnity {label : String} (unity : isUnity label = true) (name : String) :
    UnitExpr.ofText label ≠ .ok (.name name) := by
  intro spelled
  rw [ofText_eq_ofChars, characters] at spelled
  rcases isUnity_iff.1 unity with text | text
  all_goals
    rw [text] at spelled
    cases spelled

theorem ofText_product_ne_name {left right : String} (hleft : isUnity left = false)
    (hright : isUnity right = false) (back : Starless (characters left))
    (front : Starless (characters right)) (name : String) :
    UnitExpr.ofText (product left right) ≠ .ok (.name name) := by
  rw [ofText_eq_ofChars]
  rcases characters_product hleft hright with ⟨rest, -, label⟩ | ⟨-, label⟩
  · rw [label]
    exact not_name_of_slash (by simp) name
  · rw [label]
    exact not_name_of_star back.back front.front name

theorem ofText_quotient_ne_name {left right : String} (hright : isUnity right = false)
    (name : String) : UnitExpr.ofText (quotient left right) ≠ .ok (.name name) := by
  rw [ofText_eq_ofChars, characters_quotient hright]
  exact not_name_of_slash (by simp) name

variable {c : Catalog} {left right : String} {s t u : Scale} (hint : Option Dimension)

/-- The label of a product is read as the product of what the labels of the operands are read as. -/
theorem unit_product (hleft : Means c (characters left) s) (hright : Means c (characters right) t)
    (namedLeft : isUnity left = false) (namedRight : isUnity right = false)
    (limits : WithinLimits (Symbol.normalize (product left right))) :
    (c.unit (product left right) hint).map Scale.dropOffset = .ok (s.mul t) := by
  have unnamed := ofText_product_ne_name namedLeft namedRight hleft.starless hright.starless
  refine Means.unit_hint ?_ limits unnamed hint
  rcases characters_product namedLeft namedRight with ⟨rest, shape, label⟩ | ⟨-, label⟩
  · rw [shape] at hright
    rw [label]
    exact hleft.product_of_slash hright
  · rw [label]
    exact hleft.product hright

/-- The label of a quotient is read as the quotient, as long as a divisor that is read as several
terms is put in parentheses. -/
theorem unit_quotient
    (hleft : Means c (if isUnity left = true then ['1'] else characters left) s)
    (hright : Means c (characters right) t) (named : isUnity right = false)
    (alike : ScansAlike right) (divided : s.div t = .ok u)
    (limits : WithinLimits (Symbol.normalize (quotient left right))) :
    (c.unit (quotient left right) hint).map Scale.dropOffset = .ok u := by
  refine Means.unit_hint ?_ limits (ofText_quotient_ne_name named) hint
  rw [characters_quotient_of_scansAlike named alike]
  exact hleft.quotient hright divided

end Label

end Metrology
