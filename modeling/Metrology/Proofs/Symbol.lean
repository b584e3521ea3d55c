import Metrology.Proofs.Text.Canonical
import Metrology.Proofs.Text.Runs
import Metrology.Symbol

/-!
# Texts in normal form

A text is in the normal form of symbols when no blank stands at its ends and no character of it
changes. Two texts of this form that a sign or a parenthesis joins make another one
(`Tight.append`, `fixed_append_cons`).
-/

namespace Metrology

namespace Text

/-- No blank stands at either end of a text. -/
structure Tight (cs : List Char) : Prop where
  front : StopsAt isBlank cs
  back : StopsAt isBlank cs.reverse

instance (cs : List Char) : Decidable (Tight cs) :=
  decidable_of_iff (StopsAt isBlank cs ∧ StopsAt isBlank cs.reverse)
    ⟨fun h => ⟨h.1, h.2⟩, fun h => ⟨h.front, h.back⟩⟩

theorem skipBlanks_of_stopsAt {cs : List Char} (h : StopsAt isBlank cs) : skipBlanks cs = cs := by
  cases cs with
  | nil => rfl
  | cons c cs => exact skipBlanks_cons_of_not cs (stopsAt_cons.1 h)

theorem tight_of_solid {cs : List Char} (h : ∀ c ∈ cs, isBlank c = false) : Tight cs := by
  have stops {cs : List Char} (h : ∀ c ∈ cs, isBlank c = false) : StopsAt isBlank cs :=
    fun c mem => h c (List.mem_of_mem_head? mem)
  exact ⟨stops h, stops (by simpa using h)⟩

theorem Tight.trim_eq {cs : List Char} (h : Tight cs) : trim cs = cs := by
  rw [trim, skipBlanks_of_stopsAt h.front, skipBlanksRight, skipBlanks_of_stopsAt h.back,
    List.reverse_reverse]

/-- Blanks around a text that has none at its ends are cut off. -/
theorem Tight.trim_append {cs blanks : List Char} (h : Tight cs) (filled : cs ≠ [])
    (hblanks : Blanks blanks) : trim (cs ++ blanks) = cs := by
  rw [trim, skipBlanks_of_stopsAt ((stopsAt_append filled _).2 h.front), skipBlanksRight,
    List.reverse_append, skipBlanks_append hblanks.reverse, skipBlanks_of_stopsAt h.back,
    List.reverse_reverse]

theorem trim_append {blanks : List Char} (hblanks : Blanks blanks) (cs : List Char) :
    trim (blanks ++ cs) = trim cs := by
  rw [trim, skipBlanks_append hblanks, trim]

theorem mem_skipBlanks {c : Char} (solid : isBlank c = false) {cs : List Char} (mem : c ∈ cs) :
    c ∈ skipBlanks cs := by
  obtain ⟨blanks, hblanks, whole⟩ := exists_blanks cs
  rw [whole] at mem
  rcases List.mem_append.1 mem with blank | kept
  · rw [hblanks c blank] at solid
    cases solid
  · exact kept

/-- Only blanks are lost in trimming. -/
theorem mem_trim {c : Char} (solid : isBlank c = false) {cs : List Char} (mem : c ∈ cs) :
    c ∈ trim cs := by
  rw [trim, skipBlanksRight, List.mem_reverse]
  apply mem_skipBlanks solid
  rw [List.mem_reverse]
  exact mem_skipBlanks solid mem

theorem tight_trim (cs : List Char) : Tight (trim cs) := by
  refine ⟨?_, ?_⟩
  · have whole := stopsAt_dropWhile isBlank cs
    obtain ⟨blanks, -, back⟩ := exists_blanks (skipBlanks cs).reverse
    have front : skipBlanks cs = trim cs ++ blanks.reverse := by
      rw [← List.reverse_reverse (skipBlanks cs), back, List.reverse_append]
      rfl
    cases trimmed : trim cs with
    | nil => exact .nil isBlank
    | cons c rest =>
      rw [trimmed] at front
      rw [← skipBlanks, front] at whole
      exact stopsAt_cons.2 (stopsAt_cons.1 whole)
  · rw [trim, skipBlanksRight, List.reverse_reverse]
    exact stopsAt_dropWhile isBlank _

theorem Tight.append {a b : List Char} (ha : Tight a) (hb : Tight b) (left : a ≠ [])
    (right : b ≠ []) (between : List Char) : Tight (a ++ between ++ b) := by
  refine ⟨?_, ?_⟩
  · rw [List.append_assoc]
    exact (stopsAt_append left _).2 ha.front
  · rw [List.reverse_append]
    exact (stopsAt_append (by simpa using right) _).2 hb.back

/-- A text that ends in no blank spells no expression in front of blanks. -/
theorem Tight.eq_nil_of_append {text blanks : List Char} (h : Tight (text ++ blanks))
    (hblanks : Blanks blanks) : blanks = [] := by
  cases last : blanks.reverse with
  | nil => simpa using last
  | cons c rest =>
    have stop := h.back
    rw [List.reverse_append, last, List.cons_append] at stop
    have blank := hblanks c (List.mem_reverse.1 (by simp [last]))
    rw [stopsAt_cons.1 stop] at blank
    cases blank

end Text

namespace Symbol

open Text

/-- A text that normalization leaves as it is. -/
structure IsNormal (cs : List Char) : Prop where
  tight : Tight cs
  fixed : (canonical cs).map foldMicro = cs

theorem normalize_of_isNormal {cs : List Char} (h : IsNormal cs) :
    normalize (String.ofList cs) = String.ofList cs := by
  rw [normalize, String.toList_ofList, h.tight.trim_eq, h.fixed]

theorem isNormal_of_normalize_eq_strip {s : String} (h : normalize s = strip s) :
    IsNormal (trim s.toList) := by
  refine ⟨tight_trim _, ?_⟩
  have same := congrArg String.toList h
  simpa [normalize, strip] using same

theorem foldMicro_of_mem_joiners {c : Char} (h : c ∈ joiners) : foldMicro c = c := by
  have micro : '\u00b5' ∉ joiners := by decide
  have differ : c ≠ '\u00b5' := fun same => micro (same ▸ h)
  exact if_neg differ

/-- Joining splits into the characters in front of a joiner and those behind it. -/
theorem fixed_append_cons {c : Char} (h : c ∈ joiners) {a b : List Char}
    (ha : (canonical a).map foldMicro = a) (hb : (canonical b).map foldMicro = b) :
    (canonical (a ++ c :: b)).map foldMicro = a ++ c :: b := by
  rw [canonical_append_cons (isInert_of_mem_joiners h), List.map_append, List.map_cons, ha, hb,
    foldMicro_of_mem_joiners h]

theorem fixed_of_cons {c : Char} (h : c ∈ joiners) {b : List Char}
    (hb : (canonical (c :: b)).map foldMicro = c :: b) : (canonical b).map foldMicro = b := by
  have split := canonical_append_cons (isInert_of_mem_joiners h) [] b
  rw [List.nil_append] at split
  rw [split, List.map_append, List.map_cons, foldMicro_of_mem_joiners h] at hb
  have empty : (canonical []).map foldMicro = [] := rfl
  rw [empty, List.nil_append] at hb
  exact (List.cons.inj hb).2

end Symbol

end Metrology
