import Mathlib.Data.Bool.AllAny
import Metrology.Proofs.Symbol
import Metrology.Proofs.Text.Barriers

/-!
# The signs of a text in normal form

Normalization changes names, but it leaves operators, parentheses and superscripts where they are,
and a blank a blank (`sameSigns_form`). So a text and its normal form are trimmed alike
(`tight_form`), and the scan for signs outside parentheses finds the same in both
(`isSingleTermAt_form`), unless the text has a Greek middle dot, which becomes an operator. Then
it may find more in the normal form, but never less (`isSingleTermAt_of_form`).
-/

namespace Metrology

open Text Label

namespace Symbol

/-- The normal form of a text without blanks around it. -/
def form (cs : List Char) : List Char := (canonical cs).map foldMicro

theorem form_nil : form [] = [] := rfl

/-- Normalization treats what stands in front of a barrier and behind it apart. -/
theorem form_append_cons {c c' : Char} (h : IsBarrier c c') (folded : foldMicro c' = c')
    (front rest : List Char) : form (front ++ c :: rest) = form front ++ c' :: form rest := by
  rw [form, h.canonical_append_cons, List.map_append, List.map_cons, folded]
  rfl

theorem form_ne_nil {cs : List Char} (nonempty : cs ≠ []) : form cs ≠ [] := by
  simpa [form] using canonical_ne_nil nonempty

theorem foldMicro_of_isBaseChar_eq_false {c : Char} (h : isBaseChar c = false) :
    foldMicro c = c := by
  refine if_neg ?_
  rintro rfl
  cases h

/-- Joiners come about from nothing else. -/
theorem mem_of_mem_form {c : Char} (h : c ∈ joiners) {cs : List Char} (mem : c ∈ form cs) :
    c ∈ cs := by
  have apart : ∀ c ∈ joiners, covers letterRanges c.toNat = false ∧
      (∀ q ∈ replaced, Char.ofNat q.2 ≠ c) ∧ c ≠ '\x00' ∧ c ≠ '\u03bc' :=
    List.all_iff_forall_prop.1 (by decide)
  obtain ⟨letter, target, nonzero, greek⟩ := apart c h
  by_contra absent
  have others : ∀ d ∈ cs, d ≠ c := fun d listed same => absent (same ▸ listed)
  obtain ⟨d, listed, folded⟩ := List.mem_map.1 mem
  have other := (isKept_ne letter target nonzero).of_mem_canonical others d listed
  unfold foldMicro at folded
  split at folded
  · exact greek folded.symm
  · exact other folded

theorem isPlain_foldMicro {c : Char} (h : isPlain c = true) : isPlain (foldMicro c) = true := by
  unfold foldMicro
  split
  · decide
  · exact h

theorem forall_isPlain_form {cs : List Char} (plain : ∀ c ∈ cs, isPlain c = true) :
    ∀ c ∈ form cs, isPlain c = true := by
  intro c mem
  obtain ⟨d, listed, rfl⟩ := List.mem_map.1 mem
  exact isPlain_foldMicro (forall_isPlain_canonical plain d listed)

/-- No digit takes the place of another character in front of a text. -/
theorem exists_first_of_form {c : Char} (whole : Canonical.decompose c = [c])
    (base : Canonical.combiningClass c = 0) (other : isDecimalDigit c = false) (rest : List Char) :
    ∃ d rest', form (c :: rest) = d :: rest' ∧ isDecimalDigit d = false := by
  obtain ⟨d, rest', begins, kept⟩ :=
    isKept_not_digit.exists_first_of_canonical whole base other rest
  refine ⟨foldMicro d, rest'.map foldMicro, by rw [form, begins, List.map_cons], ?_⟩
  unfold foldMicro
  split
  · decide
  · exact kept

end Symbol

open Metrology.Symbol

/-! ## The same signs -/

/-- The texts differ in their names only, apart from the kinds of blank and Greek middle dots. -/
inductive SameSigns : List Char → List Char → Prop where
  | nil : SameSigns [] []
  | sign {c : Char} {raw normal : List Char} (sign : isBaseChar c = false)
      (rest : SameSigns raw normal) : SameSigns (c :: raw) (c :: normal)
  | blank {c c' : Char} {raw normal : List Char} (hc : isBlank c = true) (hc' : isBlank c' = true)
      (rest : SameSigns raw normal) : SameSigns (c :: raw) (c' :: normal)
  | dot {raw normal : List Char} (rest : SameSigns raw normal) :
      SameSigns (greekDot :: raw) ('·' :: normal)
  | run {name name' raw normal : List Char} (filled : name ≠ []) (filled' : name' ≠ [])
      (plain : ∀ c ∈ name, isPlain c = true) (plain' : ∀ c ∈ name', isPlain c = true)
      (rest : SameSigns raw normal) : SameSigns (name ++ raw) (name' ++ normal)

namespace SameSigns

variable {raw normal raw' normal' : List Char}

theorem of_form {name : List Char} (plain : ∀ c ∈ name, isPlain c = true)
    (rest : SameSigns raw normal) : SameSigns (name ++ raw) (form name ++ normal) := by
  by_cases empty : name = []
  · subst empty
    exact rest
  · exact .run empty (form_ne_nil empty) plain (forall_isPlain_form plain) rest

theorem append (h : SameSigns raw normal) (h' : SameSigns raw' normal') :
    SameSigns (raw ++ raw') (normal ++ normal') := by
  induction h with
  | nil => exact h'
  | sign sign rest ih => exact .sign sign ih
  | blank hc hc' rest ih => exact .blank hc hc' ih
  | dot rest ih => exact .dot ih
  | run filled filled' plain plain' rest ih =>
    simpa only [List.append_assoc] using ih.run filled filled' plain plain'

theorem reverse (h : SameSigns raw normal) : SameSigns raw.reverse normal.reverse := by
  induction h with
  | nil => exact .nil
  | sign sign rest ih =>
    rw [List.reverse_cons, List.reverse_cons]
    exact ih.append (.sign sign .nil)
  | blank hc hc' rest ih =>
    rw [List.reverse_cons, List.reverse_cons]
    exact ih.append (.blank hc hc' .nil)
  | dot rest ih =>
    rw [List.reverse_cons, List.reverse_cons]
    exact ih.append (.dot .nil)
  | @run name name' raw normal filled filled' plain plain' rest ih =>
    have back : SameSigns (name.reverse ++ []) (name'.reverse ++ []) :=
      .run (by simpa using filled) (by simpa using filled') (by simpa using plain)
        (by simpa using plain') .nil
    rw [List.append_nil, List.append_nil] at back
    rw [List.reverse_append, List.reverse_append]
    exact ih.append back

theorem isBlank_eq_false_of_isPlain {c : Char} (h : isPlain c = true) : isBlank c = false := by
  cases blank : isBlank c with
  | false => rfl
  | true =>
    rw [isPlain, isBaseChar_of_isBlank blank] at h
    cases h

/-- A blank stands in front of both texts or of neither. -/
theorem stopsAt_isBlank (h : SameSigns raw normal) (stop : StopsAt isBlank raw) :
    StopsAt isBlank normal := by
  cases h with
  | nil => exact stop
  | sign sign rest => exact stopsAt_cons.2 (stopsAt_cons.1 stop)
  | blank hc hc' rest =>
    rw [stopsAt_cons, hc] at stop
    cases stop
  | dot rest => exact stopsAt_cons.2 (by decide)
  | run filled filled' plain plain' rest =>
    obtain ⟨c, tail, rfl⟩ := List.exists_cons_of_ne_nil filled'
    exact stopsAt_cons.2 (isBlank_eq_false_of_isPlain (plain' c List.mem_cons_self))

theorem tight (h : SameSigns raw normal) (tight : Tight raw) : Tight normal :=
  ⟨h.stopsAt_isBlank tight.front, h.reverse.stopsAt_isBlank tight.back⟩

/-- Apart from the sign that stands for a Greek middle dot, every sign was there before. -/
theorem mem_of_sign (h : SameSigns raw normal) {c : Char} (mem : c ∈ normal)
    (sign : isBaseChar c = false) (solid : isBlank c = false) (other : c ≠ '·') : c ∈ raw := by
  induction h with
  | nil => exact mem
  | sign _ rest ih =>
    rcases List.mem_cons.1 mem with rfl | mem
    · exact List.mem_cons_self
    · exact List.mem_cons_of_mem _ (ih mem)
  | blank hc hc' rest ih =>
    rcases List.mem_cons.1 mem with rfl | mem
    · rw [hc'] at solid
      cases solid
    · exact List.mem_cons_of_mem _ (ih mem)
  | dot rest ih =>
    rcases List.mem_cons.1 mem with rfl | mem
    · exact absurd rfl other
    · exact List.mem_cons_of_mem _ (ih mem)
  | run filled filled' plain plain' rest ih =>
    rcases List.mem_append.1 mem with name | mem
    · have base := (Bool.and_eq_true_iff.1 (plain' c name)).1
      rw [sign] at base
      cases base
    · exact List.mem_append_right _ (ih mem)

end SameSigns

/-- A text has the signs of its normal form. -/
theorem sameSigns_form (cs : List Char) : SameSigns cs (form cs) := by
  -- the name that is being read is passed along until a sign ends it
  suffices h : ∀ name, (∀ c ∈ name, isPlain c = true) →
      SameSigns (name ++ cs) (form (name ++ cs)) by
    simpa using h []
  induction cs with
  | nil =>
    intro name plain
    simpa [form_nil] using SameSigns.nil.of_form plain
  | cons c cs ih =>
    intro name plain
    cases kind : isPlain c with
    | true =>
      have whole := ih (name ++ [c]) (List.forall_mem_append.2 ⟨plain, by simpa using kind⟩)
      simpa using whole
    | false =>
      have rest := ih [] (List.forall_mem_nil _)
      rw [List.nil_append] at rest
      by_cases dot : c = greekDot
      · subst dot
        rw [form_append_cons isBarrier_greekDot (by decide)]
        exact rest.dot.of_form plain
      have sign : isBaseChar c = false := by simpa [isPlain, dot] using kind
      cases blank : isBlank c with
      | true =>
        obtain ⟨c', blank', barrier⟩ := isBarrier_of_isBlank blank
        have folded := foldMicro_of_isBaseChar_eq_false (isBaseChar_of_isBlank blank')
        rw [form_append_cons barrier folded]
        exact (rest.blank blank blank').of_form plain
      | false =>
        rw [form_append_cons (isBarrier_of_sign sign blank) (foldMicro_of_isBaseChar_eq_false sign)]
        exact (rest.sign sign).of_form plain

theorem tight_form {cs : List Char} (h : Tight cs) : Tight (form cs) := (sameSigns_form cs).tight h

/-! ## The scan for single terms -/

/-- The scan takes one character at a time, two stars apart. -/
theorem isSingleTermAt_cons {c : Char} {rest : List Char}
    (single : c = '*' → rest.head? ≠ some '*') (depth : Int) :
    isSingleTermAt depth (c :: rest) =
      if c = '(' then isSingleTermAt (depth + 1) rest
      else if c = ')' then isSingleTermAt (depth - 1) rest
      else if depth = 0 ∧ (c = '*' ∨ c = '/' ∨ c = '·' ∨ isBlank c = true) then false
      else isSingleTermAt depth rest := by
  rw [isSingleTermAt]
  rintro rest' rfl rfl
  exact single rfl rfl

theorem isSingleTermAt_blank_cons {c : Char} (blank : isBlank c = true) (depth : Int)
    (rest : List Char) :
    isSingleTermAt depth (c :: rest) = if depth = 0 then false else isSingleTermAt depth rest := by
  have sign : ∀ d ∈ ['*', '(', ')'], c ≠ d := by
    rintro d mem rfl
    have solid : ['*', '(', ')'].any isBlank = false := by decide
    exact List.any_eq_false.1 solid c mem blank
  rw [isSingleTermAt_cons (fun same => absurd same (sign _ (by simp)))]
  simp [sign, blank]

theorem isBaseChar_of_isPlain {c : Char} (h : isPlain c = true) : isBaseChar c = true :=
  (Bool.and_eq_true_iff.1 h).1

theorem isSingleTermAt_name {name : List Char} (base : ∀ c ∈ name, isBaseChar c = true)
    (depth : Int) (rest : List Char) :
    isSingleTermAt depth (name ++ rest) = isSingleTermAt depth rest := by
  induction name with
  | nil => rfl
  | cons c name ih =>
    obtain ⟨first, others⟩ := List.forall_mem_cons.1 base
    simp only [isBaseChar, Bool.not_eq_true', Bool.or_eq_false_iff, beq_eq_false_iff_ne] at first
    obtain ⟨⟨⟨⟨⟨⟨⟨star, slash⟩, dot⟩, -⟩, opening⟩, closing⟩, blank⟩, -⟩ := first
    rw [List.cons_append, isSingleTermAt_cons (fun same => absurd same star)]
    simp [star, slash, dot, opening, closing, blank, ih others]

/-- What the scan finds in two texts is in a relation, from their first characters on and, where
these are stars, from the second ones on. -/
structure Scans (rel : Bool → Bool → Prop) (raw normal : List Char) : Prop where
  whole : ∀ depth, rel (isSingleTermAt depth normal) (isSingleTermAt depth raw)
  tail : (raw.head? ≠ some '*' ∧ normal.head? ≠ some '*') ∨
    ∃ raw' normal', raw = '*' :: raw' ∧ normal = '*' :: normal' ∧
      ∀ depth, rel (isSingleTermAt depth normal') (isSingleTermAt depth raw')

theorem head?_ne_star_of_isBlank {c : Char} (blank : isBlank c = true) (rest : List Char) :
    (c :: rest).head? ≠ some '*' := by
  rintro same
  cases Option.some.inj same
  cases blank

theorem head?_ne_star_of_isPlain {name : List Char} (filled : name ≠ [])
    (plain : ∀ c ∈ name, isPlain c = true) (rest : List Char) :
    (name ++ rest).head? ≠ some '*' := by
  obtain ⟨c, tail, rfl⟩ := List.exists_cons_of_ne_nil filled
  intro same
  cases Option.some.inj same
  cases plain '*' List.mem_cons_self

namespace Scans

variable {rel : Bool → Bool → Prop} (refl : ∀ b, rel b b) {raw normal : List Char}

include refl

theorem step (h : ∀ depth, rel (isSingleTermAt depth normal) (isSingleTermAt depth raw)) {c : Char}
    (single : c = '*' → raw.head? ≠ some '*') (single' : c = '*' → normal.head? ≠ some '*')
    (depth : Int) : rel (isSingleTermAt depth (c :: normal)) (isSingleTermAt depth (c :: raw)) := by
  rw [isSingleTermAt_cons single, isSingleTermAt_cons single']
  split
  · exact h (depth + 1)
  split
  · exact h (depth - 1)
  split
  · exact refl false
  · exact h depth

theorem cons (h : Scans rel raw normal) (c : Char) : Scans rel (c :: raw) (c :: normal) := by
  by_cases star : c = '*'
  · subst star
    refine ⟨fun depth => ?_, .inr ⟨raw, normal, rfl, rfl, h.whole⟩⟩
    rcases h.tail with ⟨single, single'⟩ | ⟨raw', normal', rfl, rfl, tail⟩
    · exact step refl h.whole (fun _ => single) (fun _ => single') depth
    · -- the two stars are one power sign
      exact tail depth
  · exact ⟨step refl h.whole (absurd · star) (absurd · star),
      .inl ⟨by simpa using star, by simpa using star⟩⟩

theorem blank (h : Scans rel raw normal) {c c' : Char} (hc : isBlank c = true)
    (hc' : isBlank c' = true) : Scans rel (c :: raw) (c' :: normal) := by
  refine ⟨fun depth => ?_,
    .inl ⟨head?_ne_star_of_isBlank hc raw, head?_ne_star_of_isBlank hc' normal⟩⟩
  rw [isSingleTermAt_blank_cons hc, isSingleTermAt_blank_cons hc']
  split_ifs
  · exact refl false
  · exact h.whole depth

/-- Only a Greek middle dot that has become a sign may make several terms of a single one. -/
theorem of_sameSigns (h : SameSigns raw normal) (dot : greekDot ∈ raw → ∀ b, rel false b) :
    Scans rel raw normal := by
  induction h with
  | nil => exact ⟨fun _ => refl true, .inl ⟨by simp, by simp⟩⟩
  | @sign c raw normal sign rest ih =>
    exact (ih fun mem => dot (List.mem_cons_of_mem _ mem)).cons refl c
  | blank hc hc' rest ih =>
    exact (ih fun mem => dot (List.mem_cons_of_mem _ mem)).blank refl hc hc'
  | @dot raw normal rest ih =>
    have behind := ih fun mem => dot (List.mem_cons_of_mem _ mem)
    refine ⟨fun depth => ?_, .inl ⟨by simp [greekDot], by simp⟩⟩
    have passed : isSingleTermAt depth ([greekDot] ++ raw) = isSingleTermAt depth raw :=
      isSingleTermAt_name (List.forall_mem_singleton.2 (by decide)) depth raw
    rw [List.singleton_append] at passed
    rw [passed, isSingleTermAt_cons (fun same => absurd same (by decide))]
    -- outside parentheses the sign ends the term that the dot is a part of
    by_cases outside : depth = 0
    · simpa [outside] using dot List.mem_cons_self _
    · simpa [outside, isBlank] using behind.whole depth
  | @run name name' raw normal filled filled' plain plain' rest ih =>
    -- names are passed over, whatever they have become
    have rest := ih fun mem => dot (List.mem_append_right _ mem)
    refine ⟨fun depth => ?_, .inl ⟨?_, ?_⟩⟩
    · rw [isSingleTermAt_name fun c mem => isBaseChar_of_isPlain (plain c mem),
        isSingleTermAt_name fun c mem => isBaseChar_of_isPlain (plain' c mem)]
      exact rest.whole depth
    · exact head?_ne_star_of_isPlain filled plain raw
    · exact head?_ne_star_of_isPlain filled' plain' normal

end Scans

/-- Without Greek middle dots, a text is a single term if its normal form is one. -/
theorem isSingleTermAt_form {cs : List Char} (dotless : greekDot ∉ cs) (depth : Int) :
    isSingleTermAt depth (form cs) = isSingleTermAt depth cs :=
  (Scans.of_sameSigns (fun _ => rfl) (sameSigns_form cs) fun mem => absurd mem dotless).whole depth

/-- What is a single term in normal form is one as it is written. -/
theorem isSingleTermAt_of_form {cs : List Char} {depth : Int}
    (single : isSingleTermAt depth (form cs) = true) : isSingleTermAt depth cs = true := by
  have scans : Scans (fun b b' => b = true → b' = true) cs (form cs) :=
    .of_sameSigns (fun _ => id) (sameSigns_form cs) fun _ _ absurdity => nomatch absurdity
  exact scans.whole depth single

end Metrology
