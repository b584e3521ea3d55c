import Metrology.Proofs.Text.Decomposition

/-!
# The canonical form is a normal form

Marks in order stay in order (`orderMarks_of_ordered`), and what was put together is taken apart
into what it was put together from (`orderMarks_flatMap_compose`). So the canonical form of a
canonical form is the form itself (`canonical_canonical`).

A mark may be put together with a base across the marks in between, and taking it apart again
leaves it in front of them. They are of smaller classes, so ordering brings it back
(`orderMarks_past`).
-/

namespace Metrology.Text

namespace Canonical

/-! ## Marks in order -/

/-- In an ordered text, a mark of smaller class does not follow a character of larger class. -/
def Follows (c d : Char) : Prop := combiningClass d = 0 ∨ combiningClass c ≤ combiningClass d

/-- A text with its marks in order. -/
def Ordered (cs : List Char) : Prop := cs.IsChain Follows

theorem Ordered.tail {c : Char} {cs : List Char} (h : Ordered (c :: cs)) : Ordered cs :=
  List.IsChain.tail h

theorem ordered_cons {c : Char} {cs : List Char} :
    Ordered (c :: cs) ↔ (∀ d ∈ cs.head?, Follows c d) ∧ Ordered cs :=
  List.isChain_cons

/-- What stands first after a character was put in. -/
theorem head?_insertMark (c : Char) (cs : List Char) :
    (insertMark c cs).head? = some c ∨
      (insertMark c cs).head? = cs.head? ∧
        ∀ d ∈ cs.head?, 0 < combiningClass d ∧ combiningClass d < combiningClass c := by
  cases cs with
  | nil => exact .inl rfl
  | cons d cs =>
    unfold insertMark
    split
    · next smaller => exact .inr ⟨rfl, by simpa using smaller⟩
    · exact .inl rfl

theorem ordered_insertMark (c : Char) {cs : List Char} (h : Ordered cs) :
    Ordered (insertMark c cs) := by
  induction cs with
  | nil => exact .singleton c
  | cons d cs ih =>
    obtain ⟨first, rest⟩ := ordered_cons.1 h
    unfold insertMark
    split
    · next smaller =>
      refine ordered_cons.2 ⟨fun e mem => ?_, ih rest⟩
      rcases head?_insertMark c cs with front | ⟨front, -⟩
      · obtain rfl : c = e := by simpa [front] using mem
        exact .inr smaller.2.le
      · rw [front] at mem
        exact first e mem
    · next stays =>
      refine ordered_cons.2 ⟨fun e mem => ?_, h⟩
      obtain rfl : d = e := by simpa using mem
      by_cases base : combiningClass d = 0
      · exact .inl base
      · exact .inr (Nat.not_lt.1 fun smaller => stays ⟨Nat.pos_of_ne_zero base, smaller⟩)

theorem ordered_orderMarks (cs : List Char) : Ordered (orderMarks cs) := by
  induction cs with
  | nil => exact .nil
  | cons c cs ih => exact ordered_insertMark c ih

theorem insertMark_of_ordered {c : Char} {cs : List Char} (h : Ordered (c :: cs)) :
    insertMark c cs = c :: cs := by
  cases cs with
  | nil => rfl
  | cons d cs =>
    have follows : Follows c d := (ordered_cons.1 h).1 d rfl
    rw [insertMark, if_neg]
    rintro ⟨mark, smaller⟩
    rcases follows with base | larger
    · omega
    · omega

theorem orderMarks_of_ordered {cs : List Char} (h : Ordered cs) : orderMarks cs = cs := by
  induction cs with
  | nil => rfl
  | cons c cs ih =>
    have step : orderMarks (c :: cs) = insertMark c (orderMarks cs) := rfl
    rw [step, ih h.tail, insertMark_of_ordered h]

/-! ## Marks that pass each other -/

/-- The order in which two marks are put in does not count if their classes differ. -/
theorem insertMark_insertMark {h c : Char} (mark : 0 < combiningClass h)
    (smaller : combiningClass h < combiningClass c) (cs : List Char) :
    insertMark h (insertMark c cs) = insertMark c (insertMark h cs) := by
  have behind : ¬ (0 < combiningClass c ∧ combiningClass c < combiningClass h) := by omega
  induction cs with
  | nil => simp [insertMark, mark, smaller, behind]
  | cons d cs ih =>
    by_cases first : 0 < combiningClass d ∧ combiningClass d < combiningClass h
    · have second : 0 < combiningClass d ∧ combiningClass d < combiningClass c := by omega
      simp only [insertMark, if_pos first, if_pos second, ih]
    · by_cases second : 0 < combiningClass d ∧ combiningClass d < combiningClass c
      · have larger : ¬ combiningClass d < combiningClass h := fun less => first ⟨second.1, less⟩
        simp [insertMark, second, larger, mark, smaller]
      · simp [insertMark, first, second, mark, smaller, behind]

theorem orderMarks_append_congr (front : List Char) {a b : List Char}
    (h : orderMarks a = orderMarks b) : orderMarks (front ++ a) = orderMarks (front ++ b) := by
  rw [orderMarks, List.foldr_append, orderMarks, List.foldr_append]
  exact congrArg (fun cs => List.foldr insertMark cs front) h

/-- A mark passes marks of smaller classes. -/
theorem orderMarks_past {held : List Char} {c : Char}
    (smaller : ∀ h ∈ held, 0 < combiningClass h ∧ combiningClass h < combiningClass c)
    (cs : List Char) : orderMarks (held ++ c :: cs) = orderMarks (c :: (held ++ cs)) := by
  induction held with
  | nil => rfl
  | cons h held ih =>
    obtain ⟨first, rest⟩ := List.forall_mem_cons.1 smaller
    calc orderMarks (h :: held ++ c :: cs)
        = insertMark h (orderMarks (held ++ c :: cs)) := rfl
      _ = insertMark h (insertMark c (orderMarks (held ++ cs))) := by rw [ih rest]; rfl
      _ = insertMark c (insertMark h (orderMarks (held ++ cs))) :=
          insertMark_insertMark first.1 first.2 _
      _ = orderMarks (c :: (h :: held ++ cs)) := rfl

/-! ## Taking apart what was put together -/

/-- The marks held behind a base, and the rest of an ordered text: the last of them has the
largest class, and what comes next is no smaller. -/
structure Waiting (held cs : List Char) : Prop where
  marks : ∀ h ∈ held, 0 < combiningClass h
  last : ∀ h ∈ held, ∀ d ∈ held.getLast?, combiningClass h ≤ combiningClass d
  next : ∀ h ∈ held, ∀ c ∈ cs.head?, Follows h c
  ordered : Ordered cs

theorem Waiting.nil {cs : List Char} (h : Ordered cs) : Waiting [] cs where
  marks := List.forall_mem_nil _
  last := List.forall_mem_nil _
  next := List.forall_mem_nil _
  ordered := h

/-- A mark that is put together with the base has a larger class than all marks in between. -/
theorem Waiting.smaller {held cs : List Char} {c : Char} (h : Waiting held cs)
    (past : joinsPast held c = true) :
    ∀ d ∈ held, 0 < combiningClass d ∧ combiningClass d < combiningClass c := by
  intro d mem
  refine ⟨h.marks d mem, ?_⟩
  obtain ⟨l, last⟩ := Option.isSome_iff_exists.1
    (List.getLast?_isSome.2 (List.ne_nil_of_mem mem))
  rw [joinsPast, last] at past
  exact Nat.lt_of_le_of_lt (h.last d mem l last) (of_decide_eq_true past)

theorem Waiting.joined {held cs : List Char} {c : Char} (h : Waiting held (c :: cs))
    (past : joinsPast held c = true) : Waiting held cs where
  marks := h.marks
  last := h.last
  next d mem e first := by
    rcases (ordered_cons.1 h.ordered).1 e first with base | larger
    · exact .inl base
    · exact .inr ((h.smaller past d mem).2.le.trans larger)
  ordered := h.ordered.tail

theorem Waiting.held {held cs : List Char} {c : Char} (h : Waiting held (c :: cs))
    (mark : combiningClass c ≠ 0) : Waiting (held ++ [c]) cs := by
  have below : ∀ d ∈ held ++ [c], combiningClass d ≤ combiningClass c := by
    refine List.forall_mem_append.2 ⟨fun d mem => ?_, by simp⟩
    exact (h.next d mem c rfl).resolve_left mark
  constructor
  · exact List.forall_mem_append.2 ⟨h.marks, by simpa using Nat.pos_of_ne_zero mark⟩
  · intro d mem l last
    obtain rfl : c = l := by simpa using last
    exact below d mem
  · intro d mem e first
    rcases (ordered_cons.1 h.ordered).1 e first with base | larger
    · exact .inl base
    · exact .inr ((below d mem).trans larger)
  · exact h.ordered.tail

/-- A text in which every character is taken apart as far as it goes. -/
def Apart (cs : List Char) : Prop := ∀ c ∈ cs, decompose c = [c]

theorem Apart.flatMap {cs : List Char} (h : Apart cs) : cs.flatMap decompose = cs := by
  induction cs with
  | nil => rfl
  | cons c cs ih =>
    obtain ⟨first, rest⟩ := List.forall_mem_cons.1 h
    rw [List.flatMap_cons, first, ih rest]
    rfl

theorem Apart.nil_append {cs : List Char} (h : Apart cs) : Apart ([] ++ cs) := h

/-- What is put together behind a base is taken apart into the same characters, up to the order
of marks. -/
theorem orderMarks_composeFrom (base : Char) {held cs : List Char} (apart : Apart (held ++ cs))
    (waiting : Waiting held cs) :
    orderMarks ((composeFrom base held cs).flatMap decompose) =
      orderMarks (decompose base ++ held ++ cs) := by
  induction cs generalizing base held with
  | nil =>
    rw [List.append_nil] at apart ⊢
    rw [composeFrom, List.flatMap_cons, apart.flatMap]
  | cons c cs ih =>
    obtain ⟨apartHeld, apartRest⟩ := List.forall_mem_append.1 apart
    obtain ⟨apartC, apartCs⟩ := List.forall_mem_cons.1 apartRest
    unfold composeFrom
    split
    · next joined join =>
      split at join
      · next past =>
        -- the mark is taken apart from the base in front of the marks that it has passed
        have parts := decompose_of_join? join
        rw [apartC] at parts
        rw [ih joined (List.forall_mem_append.2 ⟨apartHeld, apartCs⟩) (waiting.joined past), parts]
        simp only [List.append_assoc, List.singleton_append]
        exact orderMarks_append_congr _ (orderMarks_past (waiting.smaller past) cs).symm
      · cases join
    · split
      · have rest := ih c (Apart.nil_append apartCs) (.nil waiting.ordered.tail)
        rw [apartC] at rest
        rw [List.flatMap_append, List.flatMap_cons, Apart.flatMap apartHeld]
        exact orderMarks_append_congr _ rest
      · next mark =>
        have regrouped : held ++ [c] ++ cs = held ++ c :: cs := by simp
        rw [ih base (by rwa [regrouped]) (waiting.held mark)]
        simp

theorem orderMarks_compose {cs : List Char} (apart : Apart cs) (ordered : Ordered cs) :
    orderMarks ((compose cs).flatMap decompose) = orderMarks cs := by
  induction cs with
  | nil => rfl
  | cons c cs ih =>
    obtain ⟨first, rest⟩ := List.forall_mem_cons.1 apart
    unfold compose
    split
    · rw [orderMarks_composeFrom c (Apart.nil_append rest) (.nil ordered.tail), first]
      rfl
    · rw [List.flatMap_cons, first]
      exact orderMarks_append_congr [c] (ih rest ordered.tail)

theorem recompose_recompose (cs : List Char) : recompose (recompose cs) = recompose cs := by
  have apart : Apart (orderMarks (cs.flatMap decompose)) := by
    intro c mem
    obtain ⟨d, -, taken⟩ := List.mem_flatMap.1 ((orderMarks_perm _).mem_iff.1 mem)
    exact decompose_of_mem_decompose taken
  have ordered := ordered_orderMarks (cs.flatMap decompose)
  calc recompose (recompose cs)
      = compose (orderMarks ((compose (orderMarks (cs.flatMap decompose))).flatMap decompose)) :=
        rfl
    _ = compose (orderMarks (orderMarks (cs.flatMap decompose))) := by
        rw [orderMarks_compose apart ordered]
    _ = recompose cs := by
        rw [orderMarks_of_ordered ordered]
        rfl

end Canonical

open Canonical

/-- The canonical form of a canonical form is the form itself. -/
theorem canonical_canonical (cs : List Char) : canonical (canonical cs) = canonical cs := by
  rw [canonical_eq_recompose, canonical_eq_recompose, recompose_recompose]

end Metrology.Text
