import Mathlib.Data.List.Infix
import Metrology.Text.Parts

/-!
# Where a text is cut

A text is cut if it holds the mark (`cut_eq_none_iff`), and then at the first occurrence, the one
that no other ends before (`cut_append_of_first`). A word with a blank on each side occurs in two
texts with a blank between them only where it occurs in one of them with this blank
(`spaced_infix_append_cons`).
-/

namespace Metrology.Text

/-! ## A character in a row of texts -/

/-- A character of two texts in a row stands in one of them. -/
theorem split_append {a b pre post : List Char} {c : Char} (h : a ++ b = pre ++ c :: post) :
    (∃ middle, a = pre ++ c :: middle ∧ post = middle ++ b) ∨
      ∃ middle, b = middle ++ c :: post ∧ pre = a ++ middle := by
  rcases List.append_eq_append_iff.1 h with ⟨middle, rfl, same⟩ | ⟨middle, rfl, same⟩
  · exact .inr ⟨middle, same, rfl⟩
  · cases middle with
    | nil => exact .inr ⟨[], same.symm, (List.append_nil _).symm.trans (by simp)⟩
    | cons d middle =>
      obtain ⟨rfl, rfl⟩ := List.cons.inj same
      exact .inl ⟨middle, rfl, rfl⟩

theorem ne_of_class {p : Char → Bool} {cs pre post : List Char} {c : Char} (holds : p c = true)
    (none : ∀ c ∈ cs, p c = false) : cs ≠ pre ++ c :: post := by
  rintro rfl
  have other := none c (by simp)
  rw [holds] at other
  cases other

/-- A character of a class in the middle of a text, where what stands around it has none. -/
theorem split_middle {p : Char → Bool} {sub pre post : List Char} {c : Char}
    (front back : List Char) (h : front ++ sub ++ back = pre ++ c :: post) (holds : p c = true)
    (hfront : ∀ c ∈ front, p c = false) (hback : ∀ c ∈ back, p c = false) :
    ∃ pre' post', sub = pre' ++ c :: post' ∧ pre = front ++ pre' ∧ post = post' ++ back := by
  rcases split_append h with ⟨middle, first, rfl⟩ | ⟨middle, last, -⟩
  · rcases split_append first with ⟨middle', first, -⟩ | ⟨middle', inside, rfl⟩
    · exact absurd first (ne_of_class holds hfront)
    · exact ⟨middle', middle, inside, rfl, rfl⟩
  · exact absurd last (ne_of_class holds hback)

/-- A character of a class on one side of a text that has none. -/
theorem split_around {p : Char → Bool} {left gap right pre post : List Char} {c : Char}
    (h : left ++ gap ++ right = pre ++ c :: post) (holds : p c = true)
    (hgap : ∀ c ∈ gap, p c = false) :
    (∃ middle, left = pre ++ c :: middle ∧ post = middle ++ (gap ++ right)) ∨
      ∃ middle, right = middle ++ c :: post ∧ pre = left ++ gap ++ middle := by
  rw [List.append_assoc] at h
  rcases split_append h with before | ⟨middle, behind, rfl⟩
  · exact .inl before
  · rcases split_append behind with ⟨inner, inside, -⟩ | ⟨inner, last, rfl⟩
    · exact absurd inside (ne_of_class holds hgap)
    · exact .inr ⟨inner, last, by rw [List.append_assoc]⟩

/-! ## The first occurrence -/

theorem after?_eq_none_iff {mark cs : List Char} : after? mark cs = none ↔ ¬ mark <+: cs := by
  rw [Option.eq_none_iff_forall_ne_some]
  constructor
  · rintro absent ⟨rest, rfl⟩
    exact absent rest (after?_append mark rest)
  · intro absent rest found
    exact absent ⟨rest, (eq_append_of_after? found).symm⟩

/-- A text is cut exactly if it holds the mark. -/
theorem cut_eq_none_iff {mark cs : List Char} : cut mark cs = none ↔ ¬ mark <:+: cs := by
  induction cs with
  | nil => rw [cut, Option.map_eq_none_iff, after?_eq_none_iff, List.infix_nil, List.prefix_nil]
  | cons c cs ih =>
    rw [cut, List.infix_cons_iff, not_or, ← ih, ← after?_eq_none_iff]
    cases after? mark (c :: cs) with
    | none => simp
    | some rest => simp

/-- A text is cut at an occurrence of the mark that no other ends before. -/
theorem cut_append_of_first {start : List Char} {last : Char} {front : List Char}
    (first : ¬ (start ++ [last]) <:+: front ++ start) (rest : List Char) :
    cut (start ++ [last]) (front ++ (start ++ [last]) ++ rest) = some (front, rest) := by
  induction front with
  | nil =>
    have found := after?_append (start ++ [last]) rest
    rw [List.nil_append]
    cases whole : start ++ [last] ++ rest with
    | nil => simp at whole
    | cons c cs =>
      rw [whole] at found
      rw [cut, found]
  | cons c front ih =>
    rw [List.cons_append, List.infix_cons_iff, not_or] at first
    obtain ⟨here, later⟩ := first
    have absent : after? (start ++ [last]) (c :: (front ++ (start ++ [last]) ++ rest)) = none := by
      rw [after?_eq_none_iff]
      intro found
      -- an occurrence that begins here would end before the one that follows
      refine here (List.prefix_of_prefix_length_le found ⟨last :: rest, by simp⟩ ?_)
      simp only [List.length_append, List.length_cons, List.length_nil]
      omega
    rw [List.cons_append, List.cons_append, cut, absent, ih later]
    rfl

/-- A mark does not reach across a character that it does not hold. -/
theorem infix_append_cons {mark x y : List Char} {c : Char} (absent : c ∉ mark)
    (h : mark <:+: x ++ c :: y) : mark <:+: x ∨ mark <:+: y := by
  have begins {r : List Char} (sub : r ⊆ mark) (hr : r <+: c :: y) : r = [] := by
    cases r with
    | nil => rfl
    | cons d r =>
      obtain rfl := (List.cons_prefix_cons.1 hr).1
      exact absurd (sub List.mem_cons_self) absent
  rcases List.infix_append_iff.1 h with inside | inside | ⟨l, r, rfl, hl, hr⟩
  · exact .inl inside
  · rcases List.infix_cons_iff.1 inside with front | inside
    · exact .inl (begins (List.Subset.refl mark) front ▸ List.nil_infix)
    · exact .inr inside
  · obtain rfl := begins (List.subset_append_right l r) hr
    exact .inl (by simpa using hl.isInfix)

/-! ## Words between blanks -/

/-- A word with a blank on each side. -/
def spaced (word : List Char) : List Char := ' ' :: word ++ [' ']

/-- A mark without blanks does not reach across a word between blanks. -/
theorem infix_append_spaced {mark word a b : List Char} (absent : ' ' ∉ mark)
    (h : mark <:+: a ++ spaced word ++ b) : mark <:+: a ∨ mark <:+: word ∨ mark <:+: b := by
  have shape : a ++ spaced word ++ b = a ++ ' ' :: (word ++ ' ' :: b) := by simp [spaced]
  rw [shape] at h
  exact (infix_append_cons absent h).imp_right (infix_append_cons absent)

/-- Where two texts are joined by a blank, a word between blanks does not reach across it, but it
may end with it. -/
theorem spaced_infix_append_cons (word : List Char) {x y : List Char} (solid : ' ' ∉ word)
    (h : spaced word <:+: x ++ ' ' :: y) :
    spaced word <:+: x ∨ ' ' :: word <:+ x ∨ spaced word <:+: ' ' :: y := by
  rcases List.infix_append_iff.1 h with inside | inside | ⟨l, r, split, hl, hr⟩
  · exact .inl inside
  · exact .inr (.inr inside)
  · cases r with
    | nil =>
      rw [List.append_nil] at split
      exact .inl (split ▸ hl).isInfix
    | cons c r =>
      obtain rfl := (List.cons_prefix_cons.1 hr).1
      rcases split_append split with ⟨middle, inside, -⟩ | ⟨middle, last, rfl⟩
      · -- the blank in front of the word is all that can stand in front of another blank
        cases l with
        | nil => exact .inr (.inr (split ▸ hr.isInfix))
        | cons d l =>
          obtain rfl := (List.cons.inj inside).1
          exact absurd (by rw [(List.cons.inj inside).2]; simp) solid
      · cases middle with
        | nil => exact .inr (.inl (by simpa using hl))
        | cons d middle => simp at last

/-- A word between blanks that occurs around another one is on one side of it, shares a blank with
it, or is in it. -/
theorem spaced_infix_joined (word other : List Char) {a b : List Char} (solid : ' ' ∉ word)
    (h : spaced word <:+: a ++ spaced other ++ b) :
    spaced word <:+: a ∨ ' ' :: word <:+ a ∨ spaced word <:+: spaced other ∨
      word ++ [' '] <+: b ∨ spaced word <:+: b := by
  have shape : a ++ spaced other ++ b = a ++ ' ' :: (other ++ ' ' :: b) := by simp [spaced]
  have front : ' ' :: other <+: spaced other := List.prefix_append _ _
  rw [shape] at h
  refine (spaced_infix_append_cons word solid h).imp_right (Or.imp_right fun behind => ?_)
  rw [← List.cons_append] at behind
  rcases spaced_infix_append_cons word solid behind with inside | ending | last
  · exact .inl (inside.trans front.isInfix)
  · exact .inl (List.suffix_concat_iff.2 (.inr ⟨_, rfl, ending⟩)).isInfix
  · rcases List.infix_cons_iff.1 last with beginning | inside
    · exact .inr (.inl (List.cons_prefix_cons.1 beginning).2)
    · exact .inr (.inr inside)

end Metrology.Text
