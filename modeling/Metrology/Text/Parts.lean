/-!
# Parts of a text

Cutting a text at a mark, and joining parts with one. Cutting goes by the first occurrence of
the mark, so the part in front never contains it.
-/

namespace Metrology.Text

/-- What follows `mark` in a text that begins with it. -/
def after? : (mark cs : List Char) → Option (List Char)
  | [], cs => some cs
  | _ :: _, [] => none
  | m :: mark, c :: cs => if m = c then after? mark cs else none

/-- The parts before and after the first occurrence of `mark`, if there is one. -/
def cut (mark : List Char) : List Char → Option (List Char × List Char)
  | [] => (after? mark []).map fun rest => ([], rest)
  | c :: cs =>
    match after? mark (c :: cs) with
    | some rest => some ([], rest)
    | none => (cut mark cs).map fun (front, rest) => (c :: front, rest)

/-- The parts of a text before and after the first occurrence of `mark`. -/
def cutString (mark s : String) : Option (String × String) :=
  (cut mark.toList s.toList).map fun (front, rest) => (String.ofList front, String.ofList rest)

theorem after?_append (mark rest : List Char) : after? mark (mark ++ rest) = some rest := by
  induction mark with
  | nil => rfl
  | cons m mark ih => simp [after?, ih]

theorem eq_append_of_after? {mark cs rest : List Char} (h : after? mark cs = some rest) :
    cs = mark ++ rest := by
  induction mark generalizing cs with
  | nil =>
    rw [after?, Option.some.injEq] at h
    exact h
  | cons m mark ih =>
    cases cs with
    | nil => exact nomatch h
    | cons c cs =>
      rw [after?] at h
      split at h
      · rename_i same
        rw [same, ih h, List.cons_append]
      · exact nomatch h

/-- A text begins with `mark` exactly when `mark` in front of something makes it. -/
theorem after?_eq_some_iff {mark cs rest : List Char} :
    after? mark cs = some rest ↔ cs = mark ++ rest := by
  constructor
  · intro h
    exact eq_append_of_after? h
  · intro h
    rw [h]
    exact after?_append mark rest

/-- Nothing but the mark is lost in a cut. -/
theorem eq_append_of_cut {mark cs front rest : List Char} (h : cut mark cs = some (front, rest)) :
    cs = front ++ mark ++ rest := by
  induction cs generalizing front with
  | nil =>
    simp only [cut, Option.map_eq_some_iff, Prod.mk.injEq] at h
    obtain ⟨r, hr, rfl, rfl⟩ := h
    exact eq_append_of_after? hr
  | cons c cs ih =>
    rw [cut] at h
    split at h
    · rename_i r hr
      simp only [Option.some.injEq, Prod.mk.injEq] at h
      obtain ⟨rfl, rfl⟩ := h
      exact eq_append_of_after? hr
    · simp only [Option.map_eq_some_iff, Prod.mk.injEq] at h
      obtain ⟨⟨f, r⟩, hcut, rfl, rfl⟩ := h
      rw [ih hcut]
      rfl

end Metrology.Text
