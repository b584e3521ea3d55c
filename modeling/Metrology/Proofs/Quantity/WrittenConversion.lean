import Metrology.Proofs.Symbol
import Metrology.Proofs.Text.Parts
import Metrology.Quantity.Written
import Metrology.UnitExpr.Reader

/-!
# Written conversions

A text is read as a conversion where it holds a mark with something on both sides of it. The first
kind of mark that occurs decides, and of this kind the first occurrence (`conversion_eq_ok_iff`).
Two marks are words, and these words are names too. So two unit texts that a mark joins may hold
another mark across the joint; they are split where they were joined in all other cases, and in
these where the other mark stands (`conversion_of_joined`). No rule of splitting could do better for
all of them, because one text can be joined in two ways (`no_split`).
-/

namespace Metrology

namespace Text

theorem cutString_eq_none_iff {mark s : String} :
    cutString mark s = none ↔ ¬ mark.toList <:+: s.toList := by
  rw [cutString, Option.map_eq_none_iff, cut_eq_none_iff]

/-- Nothing but the mark is lost in a cut. -/
theorem eq_append_of_cutString {mark s front rest : String}
    (h : cutString mark s = some (front, rest)) : s = front ++ mark ++ rest := by
  obtain ⟨⟨front, rest⟩, found, parts⟩ := Option.map_eq_some_iff.1 h
  cases parts
  apply String.toList_inj.1
  rw [eq_append_of_cut found]
  simp

/-- A text is cut at an occurrence of the mark that no other ends before. -/
theorem cutString_append_of_first {mark front : String} {start : List Char} {last : Char}
    (whole : mark.toList = start ++ [last]) (first : ¬ mark.toList <:+: front.toList ++ start)
    (rest : String) : cutString mark (front ++ mark ++ rest) = some (front, rest) := by
  rw [whole] at first
  rw [cutString, String.toList_append, String.toList_append, whole, cut_append_of_first first]
  simp

theorem trim_eq_nil_iff {cs : List Char} : trim cs = [] ↔ Blanks cs := by
  constructor
  · intro empty
    have back : Blanks (skipBlanks cs).reverse :=
      skipBlanks_eq_nil_iff.1 (List.reverse_eq_nil_iff.1 empty)
    obtain ⟨blanks, hblanks, front⟩ := exists_blanks cs
    rw [front]
    exact hblanks.append (by simpa using back.reverse)
  · intro blanks
    rw [trim, skipBlanks_of_blanks blanks]
    rfl

theorem strip_eq_empty_iff {s : String} : strip s = "" ↔ Blanks s.toList := by
  rw [strip, ← String.ofList_nil, String.ofList_inj, trim_eq_nil_iff]

/-- A text is trimmed exactly if no blank stands at its ends. -/
theorem strip_eq_self_iff {s : String} : strip s = s ↔ Tight s.toList := by
  constructor
  · intro trimmed
    have same := congrArg String.toList trimmed
    rw [strip, String.toList_ofList] at same
    rw [← same]
    exact tight_trim _
  · intro tight
    rw [strip, tight.trim_eq, String.ofList_toList]

/-- A trimmed text has more than blanks in front of a blank in it. -/
theorem strip_ne_empty_of_front {front ending : String}
    (h : strip (front ++ ending) = front ++ ending)
    (blank : ¬ StopsAt isBlank ending.toList) : strip front ≠ "" := by
  have tight := (strip_eq_self_iff.1 h).front
  rw [String.toList_append] at tight
  rw [ne_eq, strip_eq_empty_iff]
  intro blanks
  cases shape : front.toList with
  | nil => exact blank (by simpa [shape] using tight)
  | cons c cs =>
    have solid : isBlank c = false := by simpa [shape, StopsAt] using tight
    rw [blanks c (by simp [shape])] at solid
    cases solid

/-- A trimmed text has more than blanks behind a blank in it. -/
theorem strip_ne_empty_of_back {beginning rest : String}
    (h : strip (beginning ++ rest) = beginning ++ rest)
    (blank : ¬ StopsAt isBlank beginning.toList.reverse) : strip rest ≠ "" := by
  have tight := (strip_eq_self_iff.1 h).back
  rw [String.toList_append, List.reverse_append] at tight
  rw [ne_eq, strip_eq_empty_iff]
  intro blanks
  cases shape : rest.toList.reverse with
  | nil => exact blank (by simpa [shape] using tight)
  | cons c cs =>
    have solid : isBlank c = false := by simpa [shape, StopsAt] using tight
    rw [blanks c (by rw [← List.mem_reverse, shape]; simp)] at solid
    cases solid

end Text

namespace Written

open Text

/-! ## Where a conversion is split -/

/-- What is split is split at the first occurrence of the first kind of mark that occurs, and
something stands on both sides of it. -/
theorem conversion_eq_ok_iff {text source target : String} :
    conversion text = .ok (source, target) ↔
      ∃ before mark after front rest, conversionMarks = before ++ mark :: after ∧
        (∀ other ∈ before, ¬ other.toList <:+: text.toList) ∧
        cutString mark text = some (front, rest) ∧ strip front ≠ "" ∧ strip rest ≠ "" ∧
        strip front = source ∧ strip rest = target := by
  unfold conversion
  constructor
  · intro split
    split at split
    · next front rest first =>
      obtain ⟨before, mark, after, marks, cut, none⟩ := List.findSome?_eq_some_iff.1 first
      dsimp only at split
      split at split
      · cases split
      · next filled =>
        rw [not_or] at filled
        cases split
        exact ⟨before, mark, after, front, rest, marks,
          fun other mem => cutString_eq_none_iff.1 (none other mem), cut, filled.1, filled.2, rfl,
          rfl⟩
    · cases split
  · rintro ⟨before, mark, after, front, rest, marks, none, cut, source, target, rfl, rfl⟩
    have first : conversionMarks.findSome? (fun mark => cutString mark text) = some (front, rest) :=
      List.findSome?_eq_some_iff.2 ⟨before, mark, after, marks, cut,
        fun other mem => cutString_eq_none_iff.2 (none other mem)⟩
    rw [first]
    exact if_neg (not_or.2 ⟨source, target⟩)

section Split

variable (before : List String) (mark : String) (start : List Char) (last : Char)
  {after : List String} {front rest : String}

/-- What stands on the sides of an occurrence is what is split, if no other kind of mark comes first
and no other occurrence ends before this one. -/
theorem conversion_of_first (marks : conversionMarks = before ++ mark :: after)
    (whole : mark.toList = start ++ [last])
    (absent : ∀ other ∈ before, ¬ other.toList <:+: (front ++ mark ++ rest).toList)
    (first : ¬ mark.toList <:+: front.toList ++ start) (source : strip front ≠ "")
    (target : strip rest ≠ "") :
    conversion (front ++ mark ++ rest) = .ok (strip front, strip rest) :=
  conversion_eq_ok_iff.2 ⟨before, mark, after, front, rest, marks, absent,
    cutString_append_of_first whole first rest, source, target, rfl, rfl⟩

end Split

/-- Behind a text without an arrow, the arrow that joins is the first of all marks. -/
theorem conversion_arrow {a b : String} (ha : strip a = a) (hb : strip b = b) (filledA : a ≠ "")
    (filledB : b ≠ "") (absent : ¬ "->".toList <:+: a.toList) :
    conversion (a ++ "->" ++ b) = .ok (a, b) := by
  have start : "->".toList = ['-'] ++ ['>'] := by decide
  have first : ¬ "->".toList <:+: a.toList ++ ['-'] := by
    rw [List.infix_concat_iff, not_or]
    refine ⟨?_, absent⟩
    rw [start, List.suffix_concat_iff]
    rintro (empty | ⟨t, same, -⟩)
    · cases empty
    · cases (List.append_inj' same rfl).2
  have split : conversion (a ++ "->" ++ b) = .ok (strip a, strip b) :=
    conversion_of_first [] "->" ['-'] '>' rfl start (by simp) first (ha.symm ▸ filledA)
      (hb.symm ▸ filledB)
  rwa [ha, hb] at split

/-! ## Joined texts -/

/-- A unit text as a side of a conversion: not empty, without blanks around it, and without a mark
in it. -/
structure IsSide (s : String) : Prop where
  trimmed : strip s = s
  filled : s ≠ ""
  unmarked : ∀ mark ∈ conversionMarks, ¬ mark.toList <:+: s.toList

instance (s : String) : Decidable (IsSide s) :=
  decidable_of_iff (strip s = s ∧ s ≠ "" ∧ ∀ mark ∈ conversionMarks, ¬ mark.toList <:+: s.toList)
    ⟨fun h => ⟨h.1, h.2.1, h.2.2⟩, fun h => ⟨h.trimmed, h.filled, h.unmarked⟩⟩

/-- Two texts that make another mark with the one that joins them, and the sides of this other
mark: `to` at the end of the first text, or at the beginning of the second one in front of a mark
that is looked for later, or `in` at the end of the first text. -/
inductive Misjoined : (mark a b source target : String) → Prop
  | to_ending {word front b : String} (hword : word = "to" ∨ word = "in") :
      Misjoined (" " ++ word ++ " ") (front ++ " to") b (strip front) (word ++ " " ++ b)
  | to_beginning {a rest : String} (apart : ¬ " to".toList <:+ a.toList) :
      Misjoined " in " a ("to " ++ rest) (a ++ " in") (strip rest)
  | in_ending {front b : String} (apart : ¬ "to ".toList <+: b.toList) :
      Misjoined " in " (front ++ " in") b (strip front) ("in " ++ b)

theorem exists_of_suffix {ending s : String} (h : ending.toList <:+ s.toList) :
    ∃ front, s = front ++ ending := by
  obtain ⟨front, same⟩ := h
  refine ⟨String.ofList front, String.toList_inj.1 ?_⟩
  rw [String.toList_append, String.toList_ofList, same]

theorem exists_of_prefix {beginning s : String} (h : beginning.toList <+: s.toList) :
    ∃ rest, s = beginning ++ rest := by
  obtain ⟨rest, same⟩ := h
  refine ⟨String.ofList rest, String.toList_inj.1 ?_⟩
  rw [String.toList_append, String.toList_ofList, same]

namespace IsSide

variable {a b : String} (ha : IsSide a) (hb : IsSide b)

/-- A word, a blank and a side make a trimmed text. -/
theorem strip_word (hb : IsSide b) (word : String) (tight : Tight word.toList)
    (filled : word ≠ "") : strip (word ++ " " ++ b) = word ++ " " ++ b := by
  rw [strip_eq_self_iff, String.toList_append, String.toList_append]
  exact tight.append (strip_eq_self_iff.1 hb.trimmed) (mt String.toList_eq_nil_iff.1 filled)
    (mt String.toList_eq_nil_iff.1 hb.filled) _

include ha hb

/-- No arrow comes about where a word joins two texts. -/
theorem arrow_not_infix {other : String} (arrow : other = "->" ∨ other = "→") (word : String)
    (hword : word = "to" ∨ word = "in") :
    ¬ other.toList <:+: (a ++ (" " ++ word ++ " ") ++ b).toList := by
  have solid : ∀ other ∈ ["->", "→"], ' ' ∉ other.toList ∧ other ∈ conversionMarks ∧
      ∀ word ∈ ["to", "in"], ¬ other.toList <:+: word.toList := by decide
  obtain ⟨blankless, mark, apart⟩ := solid other (by simpa using arrow)
  intro inside
  simp only [String.toList_append] at inside
  rcases infix_append_spaced blankless inside with source | middle | target
  · exact ha.unmarked other mark source
  · exact apart word (by simpa using hword) middle
  · exact hb.unmarked other mark target

/-- Around `in`, an earlier kind of mark comes about only with `to` at the end of the first text or
at the beginning of the second one. -/
theorem not_infix_of_in (last : ¬ " to".toList <:+ a.toList) (first : ¬ "to ".toList <+: b.toList) :
    ∀ other ∈ ["->", "→", " to "], ¬ other.toList <:+: (a ++ " in " ++ b).toList := by
  intro other mem
  rcases List.mem_append.1 (show other ∈ ["->", "→"] ++ [" to "] from mem) with arrow | word
  · exact ha.arrow_not_infix hb (by simpa using arrow) "in" (.inr rfl)
  obtain rfl := List.mem_singleton.1 word
  intro inside
  simp only [String.toList_append] at inside
  rcases spaced_infix_joined "to".toList "in".toList (by decide) inside with
    source | ending | word | beginning | target
  · exact ha.unmarked " to " (by simp [conversionMarks]) source
  · exact last ending
  · revert word
    decide
  · exact first beginning
  · exact hb.unmarked " to " (by simp [conversionMarks]) target

/-- At the first occurrence of the mark that joins them, two sides are what is split. -/
theorem conversion_of_joint (before : List String) (mark : String) (start : List Char) (last : Char)
    {after : List String} (marks : conversionMarks = before ++ mark :: after)
    (whole : mark.toList = start ++ [last])
    (absent : ∀ other ∈ before, ¬ other.toList <:+: (a ++ mark ++ b).toList)
    (first : ¬ mark.toList <:+: a.toList ++ start) : conversion (a ++ mark ++ b) = .ok (a, b) := by
  have split := conversion_of_first before mark start last marks whole absent first
    (ha.trimmed.symm ▸ ha.filled) (hb.trimmed.symm ▸ hb.filled)
  rwa [ha.trimmed, hb.trimmed] at split

theorem conversion_long_arrow : conversion (a ++ "→" ++ b) = .ok (a, b) := by
  refine ha.conversion_of_joint hb ["->"] "→" [] '→' rfl rfl ?_ ?_
  · intro other mem inside
    obtain rfl := List.mem_singleton.1 mem
    rw [String.toList_append, String.toList_append, List.append_assoc] at inside
    rcases infix_append_cons (c := '→') (by decide) inside with source | target
    · exact ha.unmarked "->" (by simp [conversionMarks]) source
    · exact hb.unmarked "->" (by simp [conversionMarks]) target
  · rw [List.append_nil]
    exact ha.unmarked "→" (by simp [conversionMarks])

theorem conversion_to (ending : ¬ " to".toList <:+ a.toList) :
    conversion (a ++ " to " ++ b) = .ok (a, b) := by
  refine ha.conversion_of_joint hb ["->", "→"] " to " " to".toList ' ' rfl (by decide)
    (fun other arrow => ha.arrow_not_infix hb (by simpa using arrow) "to" (.inl rfl)) ?_
  intro inside
  rcases spaced_infix_append_cons "to".toList (by decide) inside with source | suffix | word
  · exact ha.unmarked " to " (by simp [conversionMarks]) source
  · exact ending suffix
  · revert word
    decide

theorem conversion_in (ending : ¬ " to".toList <:+ a.toList)
    (ending' : ¬ " in".toList <:+ a.toList) (beginning : ¬ "to ".toList <+: b.toList) :
    conversion (a ++ " in " ++ b) = .ok (a, b) := by
  refine ha.conversion_of_joint hb ["->", "→", " to "] " in " " in".toList ' ' rfl (by decide)
    (ha.not_infix_of_in hb ending beginning) ?_
  intro inside
  rcases spaced_infix_append_cons "in".toList (by decide) inside with source | suffix | word
  · exact ha.unmarked " in " (by simp [conversionMarks]) source
  · exact ending' suffix
  · revert word
    decide

/-- Two texts are split where a mark joins them, unless another mark comes about there. -/
theorem conversion_of_not_misjoined {mark : String} (hmark : mark ∈ conversionMarks)
    (apart : ∀ source target, ¬ Misjoined mark a b source target) :
    conversion (a ++ mark ++ b) = .ok (a, b) := by
  have no_to_ending {word : String} (hword : word = "to" ∨ word = "in")
      (same : mark = " " ++ word ++ " ") : ¬ " to".toList <:+ a.toList := by
    intro ending
    obtain ⟨front, rfl⟩ := exists_of_suffix ending
    rw [same] at apart
    exact apart _ _ (.to_ending hword)
  simp only [conversionMarks, List.mem_cons, List.not_mem_nil, or_false] at hmark
  rcases hmark with rfl | rfl | rfl | rfl
  · exact conversion_arrow ha.trimmed hb.trimmed ha.filled hb.filled
      (ha.unmarked "->" (by simp [conversionMarks]))
  · exact ha.conversion_long_arrow hb
  · exact ha.conversion_to hb (no_to_ending (.inl rfl) (by decide))
  · have ending := no_to_ending (.inr rfl) (by decide)
    have beginning : ¬ "to ".toList <+: b.toList := by
      intro begins
      obtain ⟨rest, rfl⟩ := exists_of_prefix begins
      exact apart _ _ (.to_beginning ending)
    refine ha.conversion_in hb ending (fun suffix => ?_) beginning
    obtain ⟨front, rfl⟩ : ∃ front, a = front ++ " in" := exists_of_suffix suffix
    exact apart _ _ (.in_ending beginning)

end IsSide

/-- Where the end of the first text makes another mark with the blank behind it, and this mark is
the first one, the text is split there. -/
theorem conversion_of_ending {front ending word b : String} (before : List String)
    {after : List String} (ha : IsSide (front ++ ending)) (hb : IsSide b)
    (hword : word = "to" ∨ word = "in")
    (marks : conversionMarks = before ++ (ending ++ " ") :: after)
    (blank : ¬ StopsAt isBlank ending.toList)
    (absent : ∀ other ∈ before,
      ¬ other.toList <:+: (front ++ ending ++ (" " ++ word ++ " ") ++ b).toList) :
    conversion (front ++ ending ++ (" " ++ word ++ " ") ++ b) =
      .ok (strip front, word ++ " " ++ b) := by
  have whole : front ++ ending ++ (" " ++ word ++ " ") ++ b =
      front ++ (ending ++ " ") ++ (word ++ " " ++ b) := by
    simp only [← String.toList_inj, String.toList_append, List.append_assoc]
  have trimmed : strip (word ++ " " ++ b) = word ++ " " ++ b := by
    rcases hword with rfl | rfl
    · exact hb.strip_word _ (by decide) (by decide)
    · exact hb.strip_word _ (by decide) (by decide)
  have first : ¬ (ending ++ " ").toList <:+: front.toList ++ ending.toList := by
    rw [← String.toList_append]
    exact ha.unmarked _ (by simp [marks])
  have target : strip (word ++ " " ++ b) ≠ "" := by
    rw [trimmed]
    intro empty
    exact hb.filled (String.append_eq_empty_iff.1 empty).2
  rw [whole] at absent ⊢
  rw [conversion_of_first before (ending ++ " ") ending.toList ' ' marks String.toList_append absent
    first (strip_ne_empty_of_front ha.trimmed blank) target, trimmed]

theorem conversion_to_ending {front word b : String} (ha : IsSide (front ++ " to")) (hb : IsSide b)
    (hword : word = "to" ∨ word = "in") :
    conversion (front ++ " to" ++ (" " ++ word ++ " ") ++ b) =
      .ok (strip front, word ++ " " ++ b) :=
  conversion_of_ending ["->", "→"] ha hb hword rfl (by decide) fun _ arrow =>
    ha.arrow_not_infix hb (by simpa using arrow) word hword

theorem conversion_in_ending {front b : String} (ha : IsSide (front ++ " in")) (hb : IsSide b)
    (apart : ¬ "to ".toList <+: b.toList) :
    conversion (front ++ " in" ++ " in " ++ b) = .ok (strip front, "in " ++ b) := by
  have no_to_ending : ¬ " to".toList <:+ (front ++ " in").toList := by
    rw [String.toList_append]
    rintro ⟨before, same⟩
    exact absurd (List.append_inj_right' same (by decide)) (by decide)
  have absent := ha.not_infix_of_in hb no_to_ending apart
  rw [show " in " = " " ++ "in" ++ " " by decide] at absent ⊢
  exact conversion_of_ending ["->", "→", " to "] ha hb (.inr rfl) rfl (by decide) absent

theorem conversion_to_beginning {a rest : String} (ha : IsSide a) (hb : IsSide ("to " ++ rest))
    (apart : ¬ " to".toList <:+ a.toList) :
    conversion (a ++ " in " ++ ("to " ++ rest)) = .ok (a ++ " in", strip rest) := by
  have whole : a ++ " in " ++ ("to " ++ rest) = a ++ " in" ++ " to " ++ rest := by
    simp only [← String.toList_inj, String.toList_append, List.append_assoc]
    rfl
  have trimmed : strip (a ++ " in") = a ++ " in" := by
    rw [strip_eq_self_iff, String.toList_append,
      show " in".toList = [' '] ++ "in".toList by decide, ← List.append_assoc]
    exact (strip_eq_self_iff.1 ha.trimmed).append (b := "in".toList) (by decide)
      (mt String.toList_eq_nil_iff.1 ha.filled) (by decide) [' ']
  have split : conversion (a ++ " in" ++ " to " ++ rest) =
      .ok (strip (a ++ " in"), strip rest) := by
    refine conversion_of_first ["->", "→"] " to " " to".toList ' ' rfl (by decide) ?_ ?_ ?_
      (strip_ne_empty_of_back hb.trimmed (by decide))
    · intro other arrow
      rw [← whole]
      exact ha.arrow_not_infix hb (by simpa using arrow) "in" (.inr rfl)
    · intro inside
      rw [String.toList_append, List.append_assoc] at inside
      rcases spaced_infix_append_cons "to".toList (by decide) inside with source | suffix | words
      · exact ha.unmarked " to " (by simp [conversionMarks]) source
      · exact apart suffix
      · revert words
        decide
    · rw [trimmed]
      intro empty
      exact ha.filled (String.append_eq_empty_iff.1 empty).1
  rwa [trimmed, ← whole] at split

/-- Where another mark comes about, the text is split there. -/
theorem conversion_of_misjoined {mark a b source target : String} (ha : IsSide a) (hb : IsSide b)
    (h : Misjoined mark a b source target) :
    conversion (a ++ mark ++ b) = .ok (source, target) := by
  cases h with
  | to_ending hword => exact conversion_to_ending ha hb hword
  | to_beginning apart => exact conversion_to_beginning ha hb apart
  | in_ending apart => exact conversion_in_ending ha hb apart

/-- Where another mark comes about, the sides of it are not the texts that were joined. -/
theorem Misjoined.ne {mark a b source target : String} (h : Misjoined mark a b source target) :
    (source, target) ≠ (a, b) := by
  intro same
  obtain ⟨front, rest⟩ := Prod.mk.inj same
  cases h with
  | to_ending hword =>
    rw [← String.toList_inj, String.toList_append, List.append_left_eq_self] at rest
    simp at rest
  | to_beginning apart =>
    rw [← String.toList_inj, String.toList_append, List.append_right_eq_self] at front
    revert front
    decide
  | in_ending apart =>
    rw [← String.toList_inj, String.toList_append, List.append_left_eq_self] at rest
    revert rest
    decide

/-- Two texts that a mark joins are split where they were joined, except where another mark comes
about; there they are split at that mark. -/
theorem conversion_of_joined {mark a b : String} (hmark : mark ∈ conversionMarks) (ha : IsSide a)
    (hb : IsSide b) :
    ((∀ source target, ¬ Misjoined mark a b source target) →
      conversion (a ++ mark ++ b) = .ok (a, b)) ∧
    ∀ source target, Misjoined mark a b source target →
      conversion (a ++ mark ++ b) = .ok (source, target) ∧ (source, target) ≠ (a, b) :=
  ⟨ha.conversion_of_not_misjoined hb hmark,
    fun _ _ other => ⟨conversion_of_misjoined ha hb other, other.ne⟩⟩

/-- Square metres behind `m in` are split in front of the first `in`, since the two words make the
mark twice. -/
theorem conversion_of_joined_inch :
    IsSide "m in" ∧ IsSide "m^2" ∧ conversion "m in in m^2" = .ok ("m", "in m^2") := by
  have front : IsSide "m in" := by decide
  have rest : IsSide "m^2" := by decide
  have other : Misjoined " in " "m in" "m^2" "m" "in m^2" := @Misjoined.in_ending "m" _ (by decide)
  exact ⟨front, rest, ((conversion_of_joined (by decide) front rest).2 _ _ other).1⟩

/-- No rule splits all unit texts where a mark joins them: `m in` and `m^2` make the same text as
`m` and `in m^2`. -/
theorem no_split :
    ¬ ∃ split : String → Except Failure (String × String),
      ∀ mark ∈ conversionMarks, ∀ (a b : String) (e e' : UnitExpr), IsSide a → IsSide b →
        UnitExpr.ofText a = .ok e → UnitExpr.ofText b = .ok e' →
          split (a ++ mark ++ b) = .ok (a, b) := by
  rintro ⟨split, joined⟩
  have inch : UnitExpr.ofText "m in" = .ok (.mul (.name "m") (.name "in")) := by decide
  have square : UnitExpr.ofText "m^2" = .ok (.pow (.name "m") 2) := by decide
  have metre : UnitExpr.ofText "m" = .ok (.name "m") := by decide
  have inches : UnitExpr.ofText "in m^2" = .ok (.mul (.name "in") (.pow (.name "m") 2)) := by
    decide
  have front := joined " in " (by decide) "m in" "m^2" _ _ (by decide) (by decide)
    inch square
  have back := joined " in " (by decide) "m" "in m^2" _ _ (by decide) (by decide)
    metre inches
  have text : "m in" ++ " in " ++ "m^2" = "m" ++ " in " ++ "in m^2" := by decide
  rw [text, back] at front
  exact absurd (Prod.mk.inj (Except.ok.inj front)).1 (by decide)

/-- So the texts that are joined are not always those that are split. -/
theorem not_conversion_of_joined :
    ¬ ∀ mark ∈ conversionMarks, ∀ (a b : String) (e e' : UnitExpr), IsSide a → IsSide b →
      UnitExpr.ofText a = .ok e → UnitExpr.ofText b = .ok e' →
        conversion (a ++ mark ++ b) = .ok (a, b) :=
  fun joined => no_split ⟨conversion, joined⟩

end Written

end Metrology
