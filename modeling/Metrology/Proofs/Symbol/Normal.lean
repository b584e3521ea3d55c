import Metrology.Proofs.Text.Recomposition
import Metrology.Proofs.Text.Signs

/-!
# Normalization happens once

The normal form of a text is in normal form itself: nothing changes when it is normalized again
(`normalize_normalize`). So a symbol is found under its normal form exactly where it is found.
The micro sign and Greek mu take no part in composition, and folding the one into the other does
not disturb the canonical form around them. Most symbols of units are in canonical form for a reason
that takes no search in the tables (`quickForm_eq`), and in normal form for a reason that is seen
from their single characters (`normalize_of_isUnchanged`).
-/

namespace Metrology

open Text Text.Canonical

/-- Only a pair of the table is joined, where syllables are out of the question. -/
theorem Text.Canonical.join?_of_unpaired {a b : Char}
    (apart : a.toNat < leadBase ∨ b.toNat < leadBase ∨ 0x11FF < b.toNat)
    (unpaired : ∀ p ∈ composites, p.2.1 ≠ a.toNat ∨ p.2.2 ≠ b.toNat) : join? a b = none := by
  rw [join?, joinSyllable?_of_apart apart, List.find?_eq_none.2]
  · exact ite_self none
  · intro p mem
    simpa [imp_iff_not_or] using unpaired p mem

namespace Symbol

/-- The letters in symbols of units that are folded or not settled: the micro sign, Greek mu and
omega, and the signs for degrees. -/
def unitLetters : List Char := ['\u00b5', '\u03bc', '\u03a9', '\u2103', '\u2109']

/-- The letters are taken for what they are, and join nothing in front of them. -/
theorem whole_of_unitLetter {c : Char} (h : c ∈ unitLetters) :
    decompose c = [c] ∧ combiningClass c = 0 ∧ (c.toNat < leadBase ∨ 0x11FF < c.toNat) ∧
      ∀ p ∈ composites, p.2.2 ≠ c.toNat := by
  have looked : unitLetters.all (fun c => decompose c == [c] && combiningClass c == 0 &&
      (decide (c.toNat < leadBase) || decide (0x11FF < c.toNat)) &&
      composites.all fun p => p.2.2 != c.toNat) = true := by
    decide +kernel
  simpa [and_assoc] using List.all_eq_true.1 looked c h

theorem isLeading_of_unitLetter {c : Char} (h : c ∈ unitLetters) : IsLeading c := by
  obtain ⟨written, base, apart, second⟩ := whole_of_unitLetter h
  exact .of_whole written base fun b => join?_of_unpaired (.inr apart) fun p mem =>
    .inr (second p mem)

theorem isBarrier_of_unitLetter {c : Char} (h : c ∈ unitLetters) (low : c.toNat < leadBase)
    (first : ∀ p ∈ composites, p.2.1 ≠ c.toNat) : IsBarrier c c := by
  obtain ⟨written, base, apart, second⟩ := whole_of_unitLetter h
  exact ⟨written, base, fun d => join?_of_unpaired (.inl low) fun p mem => .inl (first p mem),
    fun d => join?_of_unpaired (.inr apart) fun p mem => .inr (second p mem)⟩

/-- No pair of the table begins with one of the two signs for micro. -/
theorem first_ne_micro : ∀ p ∈ composites, p.2.1 ≠ 0xB5 ∧ p.2.1 ≠ 0x3BC := by decide +kernel

theorem isBarrier_micro : IsBarrier '\u00b5' '\u00b5' :=
  isBarrier_of_unitLetter (by simp [unitLetters]) (by decide) fun p mem => (first_ne_micro p mem).1

theorem isBarrier_mu : IsBarrier '\u03bc' '\u03bc' :=
  isBarrier_of_unitLetter (by simp [unitLetters]) (by decide) fun p mem => (first_ne_micro p mem).2

theorem map_foldMicro_of_not_mem {cs : List Char} (h : '\u00b5' ∉ cs) : cs.map foldMicro = cs := by
  rw [List.map_congr_left (g := id), List.map_id]
  intro c mem
  refine if_neg ?_
  rintro rfl
  exact h mem

/-- What stands in front of the first micro sign of a canonical form, and what stands behind it,
are canonical forms. -/
theorem fixed_of_micro {front rest : List Char} (first : '\u00b5' ∉ front)
    (fixed : canonical (front ++ '\u00b5' :: rest) = front ++ '\u00b5' :: rest) :
    canonical front = front ∧ canonical rest = rest := by
  rw [isBarrier_micro.canonical_append_cons] at fixed
  rcases List.append_eq_append_iff.1 fixed with ⟨more, shape, tail⟩ | ⟨more, shape, tail⟩
  · cases more with
    | nil => exact ⟨by simpa using shape.symm, (List.cons.inj tail).2⟩
    | cons c more =>
      obtain rfl := (List.cons.inj tail).1
      exact absurd (by rw [shape]; simp) first
  · cases more with
    | nil => exact ⟨by simpa using shape, (List.cons.inj tail).2.symm⟩
    | cons c more =>
      -- a micro sign that the front had gained would be gained once more
      obtain rfl := (List.cons.inj tail).1
      have twice := canonical_canonical front
      rw [shape, isBarrier_micro.canonical_append_cons, shape] at twice
      have lengths := congrArg List.length twice
      simp only [List.length_append, List.length_cons] at lengths
      omega

/-- Folding micro signs leaves a canonical form canonical. -/
theorem canonical_map_foldMicro {cs : List Char} (fixed : canonical cs = cs) :
    canonical (cs.map foldMicro) = cs.map foldMicro := by
  induction length : cs.length using Nat.strong_induction_on generalizing cs with
  | _ n ih =>
    by_cases micro : '\u00b5' ∈ cs
    · obtain ⟨front, rest, rfl, first⟩ := List.eq_append_cons_of_mem micro
      obtain ⟨fixedFront, fixedRest⟩ := fixed_of_micro first fixed
      rw [List.length_append, List.length_cons] at length
      have folded : foldMicro '\u00b5' = '\u03bc' := rfl
      rw [List.map_append, List.map_cons, map_foldMicro_of_not_mem first, folded,
        isBarrier_mu.canonical_append_cons, fixedFront, ih rest.length (by omega) fixedRest rfl]
    · rw [map_foldMicro_of_not_mem micro, fixed]

theorem foldMicro_foldMicro (c : Char) : foldMicro (foldMicro c) = foldMicro c := by
  unfold foldMicro
  split
  · decide
  · rfl

theorem form_form (cs : List Char) : form (form cs) = form cs := by
  rw [form, form, canonical_map_foldMicro (canonical_canonical cs), List.map_map]
  exact List.map_congr_left fun c _ => foldMicro_foldMicro c

/-- The normal form of a text is in normal form itself. -/
theorem normalize_normalize (s : String) : normalize (normalize s) = normalize s := by
  have once : normalize s = String.ofList (form (trim s.toList)) := rfl
  rw [once]
  exact normalize_of_isNormal ⟨tight_form (tight_trim s.toList), form_form (trim s.toList)⟩

/-! ## The quick way -/

/-- The characters of a symbol in normal form, without a look into the tables where the symbol has
no characters that might need it. -/
def quickForm (cs : List Char) : List Char :=
  if cs.all (fun c => isSettled c || unitLetters.contains c) then cs.map foldMicro else form cs

theorem quickForm_eq (cs : List Char) : quickForm cs = form cs := by
  unfold quickForm
  split
  · next plain =>
    have leading : ∀ c ∈ cs, IsLeading c := by
      intro c mem
      rcases Bool.or_eq_true_iff.1 (List.all_eq_true.1 plain c mem) with settled | greek
      · exact .of_isSettled settled
      · exact isLeading_of_unitLetter (List.contains_iff_mem.1 greek)
    rw [form, canonical_eq_recompose, recompose_of_leading leading]
  · rfl

theorem toList_normalize (s : String) : (normalize s).toList = quickForm (trim s.toList) := by
  rw [normalize, String.toList_ofList, quickForm_eq]
  rfl

/-- Whether it can be seen from the single characters that a text is in normal form. -/
def isUnchanged (cs : List Char) : Bool :=
  cs.all fun c => (isSettled c || unitLetters.contains c) && foldMicro c == c && !isBlank c

theorem normalize_of_isUnchanged {s : String} (h : isUnchanged s.toList = true) :
    normalize s = s := by
  have each : ∀ c ∈ s.toList, ((isSettled c = true ∨ c ∈ unitLetters) ∧ foldMicro c = c) ∧
      isBlank c = false := by
    simpa [isUnchanged] using h
  have tight := tight_of_solid fun c mem => (each c mem).2
  have settled : s.toList.all (fun c => isSettled c || unitLetters.contains c) = true := by
    simpa using fun c mem => (each c mem).1.1
  rw [← String.toList_inj, toList_normalize, tight.trim_eq, quickForm, if_pos settled]
  exact (List.map_congr_left fun c mem => (each c mem).1.2).trans (List.map_id _)

end Symbol

end Metrology
