import Mathlib.Data.Finset.Card
import Mathlib.Data.List.Perm.Subperm
import Mathlib.Data.Prod.Lex
import Mathlib.Data.String.Basic
import Metrology.Spelling

/-!
# Suggestions

The close candidates form a finite set (`suggestions`), and what is suggested are its first members
by distance, length and characters (`closest_isFirst`). There is only one list of first members
(`IsFirst.unique`), so neither the order in which candidates are given nor how often they are given
can be seen in it.
-/

namespace Metrology.Spelling

/-! ## First members of a set -/

section First

variable {α κ : Type} [LinearOrder κ] {rank : α → κ} {limit : Nat} {pool : Finset α}
  {shown shown' names : List α}

/-- The first `limit` members of a set, or all of them if it has no more, in increasing order of
rank: no other member comes before one of them. -/
structure IsFirst (rank : α → κ) (limit : Nat) (pool : Finset α) (shown : List α) : Prop where
  mem : ∀ c ∈ shown, c ∈ pool
  increasing : shown.Pairwise fun a b => rank a < rank b
  length : shown.length = min limit pool.card
  before : ∀ c ∈ shown, ∀ other ∈ pool, other ∉ shown → rank c < rank other

theorem nodup_of_increasing (increasing : shown.Pairwise fun a b => rank a < rank b) :
    shown.Nodup := by
  refine increasing.imp ?_
  rintro a _ less rfl
  exact lt_irrefl _ less

/-- A list that leaves out a member of another one holds a member that the other one leaves out, and
each of the two would have to come before the other. -/
theorem IsFirst.subset (h : IsFirst rank limit pool shown) (h' : IsFirst rank limit pool shown') :
    shown ⊆ shown' := by
  intro c mem
  by_contra left
  have distinct := nodup_of_increasing h.increasing
  have distinct' := nodup_of_increasing h'.increasing
  obtain ⟨other, mem', left'⟩ : ∃ other ∈ shown', other ∉ shown := by
    by_contra none
    push Not at none
    have same : shown'.Perm shown :=
      (distinct'.subperm none).perm_of_length_le (h.length.trans h'.length.symm).le
    exact left (same.mem_iff.2 mem)
  have less := h.before c mem other (h'.mem other mem') left'
  have less' := h'.before other mem' c (h.mem c mem) left
  exact lt_asymm less less'

/-- The set, the ranks and the limit determine the list. -/
theorem IsFirst.unique (h : IsFirst rank limit pool shown) (h' : IsFirst rank limit pool shown') :
    shown = shown' := by
  have same : shown.Perm shown' :=
    (List.perm_ext_iff_of_nodup (nodup_of_increasing h.increasing)
      (nodup_of_increasing h'.increasing)).2 fun _ => ⟨fun mem => h.subset h' mem,
        fun mem => h'.subset h mem⟩
  refine same.eq_of_pairwise ?_ h.increasing h'.increasing
  intro a b _ _ less less'
  exact absurd less' (lt_asymm less)

/-- The beginning of a list that goes through the whole set in increasing order. -/
theorem isFirst_take (increasing : names.Pairwise fun a b => rank a < rank b)
    (mem : ∀ c, c ∈ names ↔ c ∈ pool) (limit : Nat) :
    IsFirst rank limit pool (names.take limit) where
  mem := fun c front => (mem c).1 (List.mem_of_mem_take front)
  increasing := increasing.sublist (List.take_sublist limit names)
  length := by
    classical
    have whole : names.toFinset = pool := by
      ext c
      rw [List.mem_toFinset, mem]
    rw [List.length_take, ← whole, List.toFinset_card_of_nodup (nodup_of_increasing increasing)]
  before := by
    intro c front other inPool left
    have split := List.take_append_drop limit names
    have back : other ∈ names.drop limit := by
      have listed := (mem other).2 inPool
      rw [← split, List.mem_append] at listed
      exact listed.resolve_left left
    rw [← split, List.pairwise_append] at increasing
    exact increasing.2.2 c front other back

end First

/-! ## Ranks of candidates -/

/-- Candidates are ranked by distance, then by length, then by characters. -/
def Scored.rank (s : Scored) : ℕ ×ₗ ℕ ×ₗ String :=
  toLex (s.distance, toLex (s.candidate.length, s.candidate))

theorem Scored.le_iff (s t : Scored) : s.le t = true ↔ s.rank ≤ t.rank := by
  simp only [Scored.le, Scored.rank, Prod.Lex.toLex_le_toLex, Bool.or_eq_true, Bool.and_eq_true,
    Bool.not_eq_true', decide_eq_true_eq, decide_eq_false_iff_not, beq_iff_eq, not_lt]

/-- Different candidates have different ranks. -/
theorem Scored.rank_injective : Function.Injective Scored.rank := by
  intro s t same
  cases s
  cases t
  simp [Scored.rank] at same
  simp [same]

variable (fold : String → String) (symbol : String) (maxDistance : Int) (candidates : List String)

/-- The rank of a candidate for a symbol. -/
def rank (c : String) : ℕ ×ₗ ℕ ×ₗ String := (Scored.mk (score fold symbol c) c).rank

/-- The candidates that are close to a symbol, each of them once. -/
def suggestions : Finset String :=
  candidates.toFinset.filter fun c => c ≠ symbol ∧ score fold symbol c ≤ maxDistance ∧
    score fold symbol c < max symbol.length c.length

/-- The close candidates with their distances, in the order in which they are suggested. -/
def ranked : List Scored :=
  (((candidates.eraseDups.filter (· ≠ symbol)).map fun c => Scored.mk (score fold symbol c) c).filter
    (isClose symbol maxDistance)).mergeSort Scored.le

variable {fold symbol maxDistance candidates}

theorem mem_suggestions_iff {c : String} : c ∈ suggestions fold symbol maxDistance candidates ↔
    c ∈ candidates ∧ c ≠ symbol ∧ score fold symbol c ≤ maxDistance ∧
      score fold symbol c < max symbol.length c.length := by
  rw [suggestions, Finset.mem_filter, List.mem_toFinset]

theorem mem_ranked_iff {s : Scored} : s ∈ ranked fold symbol maxDistance candidates ↔
    s.candidate ∈ suggestions fold symbol maxDistance candidates ∧
      s.distance = score fold symbol s.candidate := by
  simp only [ranked, List.mem_mergeSort, List.mem_filter, List.mem_map, List.mem_eraseDups,
    isClose, mem_suggestions_iff, Bool.and_eq_true, decide_eq_true_eq]
  constructor
  · rintro ⟨⟨c, ⟨listed, other⟩, rfl⟩, near, kept⟩
    exact ⟨⟨listed, other, near, kept⟩, rfl⟩
  · rintro ⟨⟨listed, other, near, kept⟩, scored⟩
    rw [scored]
    exact ⟨⟨s.candidate, ⟨listed, other⟩, by rw [← scored]⟩, near, kept⟩

/-- What comes behind a candidate is cleared of it before anything else is. -/
theorem nodup_eraseDups (candidates : List String) : candidates.eraseDups.Nodup := by
  cases candidates with
  | nil => simp
  | cons c rest =>
    rw [List.eraseDups_cons, List.nodup_cons]
    refine ⟨?_, nodup_eraseDups (rest.filter fun other => !other == c)⟩
    simp
termination_by candidates.length
decreasing_by exact Nat.lt_succ_of_le (List.length_filter_le _ rest)

/-- Every candidate is scored once. -/
theorem nodup_ranked : (ranked fold symbol maxDistance candidates).Nodup := by
  have distinct : (candidates.eraseDups.filter (· ≠ symbol)).Nodup :=
    (nodup_eraseDups candidates).filter _
  have scored := distinct.map (f := fun c => Scored.mk (score fold symbol c) c) fun c c' same =>
    (Scored.mk.inj same).2
  exact (List.mergeSort_perm _ _).nodup_iff.2 (scored.filter _)

theorem pairwise_ranked :
    (ranked fold symbol maxDistance candidates).Pairwise fun s t => s.rank < t.rank := by
  have sorted : (ranked fold symbol maxDistance candidates).Pairwise fun s t => s.le t = true := by
    refine List.pairwise_mergeSort ?_ ?_ _
    · intro s t u first second
      rw [Scored.le_iff] at first second ⊢
      exact first.trans second
    · intro s t
      rw [Bool.or_eq_true, Scored.le_iff, Scored.le_iff]
      exact le_total s.rank t.rank
  refine (sorted.and nodup_ranked).imp ?_
  rintro s t ⟨le, ne⟩
  exact lt_of_le_of_ne ((Scored.le_iff s t).1 le) (Scored.rank_injective.ne ne)

/-- For any symbol but the empty text, the suggestions are the first of the ranked candidates. -/
theorem closest_eq_take (filled : symbol ≠ "") (limit : Nat) :
    closest symbol candidates maxDistance limit fold =
      ((ranked fold symbol maxDistance candidates).map Scored.candidate).take limit := by
  unfold closest
  rw [if_neg filled]
  exact if_neg (Int.natCast_nonneg limit).not_gt

theorem isFirst_closest (filled : symbol ≠ "") (limit : Nat) :
    IsFirst (rank fold symbol) limit (suggestions fold symbol maxDistance candidates)
      (closest symbol candidates maxDistance limit fold) := by
  rw [closest_eq_take filled]
  refine isFirst_take ?_ ?_ limit
  · -- a ranked candidate has the rank that it was scored with
    rw [List.pairwise_map]
    refine pairwise_ranked.imp_of_mem ?_
    intro s t mem mem' less
    have ranks {s : Scored} (mem : s ∈ ranked fold symbol maxDistance candidates) :
        rank fold symbol s.candidate = s.rank := by
      rw [rank, ← (mem_ranked_iff.1 mem).2]
    rwa [ranks mem, ranks mem']
  · intro c
    rw [List.mem_map]
    constructor
    · rintro ⟨s, mem, rfl⟩
      exact (mem_ranked_iff.1 mem).1
    · intro mem
      exact ⟨⟨score fold symbol c, c⟩, mem_ranked_iff.2 ⟨mem, rfl⟩, rfl⟩

/-- However texts are folded, the suggestions for a symbol are the first of the close candidates by
distance, length and characters, without repetition; the empty text has none. They depend on nothing
but which candidates there are. -/
theorem closest_isFirst (fold : String → String) (maxDistance : Int) (limit : Nat)
    (symbol : String) (candidates : List String) :
    let shown := closest symbol candidates maxDistance limit fold
    (symbol ≠ "" →
      IsFirst (rank fold symbol) limit (suggestions fold symbol maxDistance candidates) shown ∧
        shown.Nodup) ∧
    (symbol = "" → shown = []) ∧
    ∀ others : List String, (∀ c, c ∈ others ↔ c ∈ candidates) →
      closest symbol others maxDistance limit fold = shown := by
  intro shown
  refine ⟨?_, fun empty => if_pos empty, ?_⟩
  · intro filled
    have first : IsFirst (rank fold symbol) limit
        (suggestions fold symbol maxDistance candidates) shown := isFirst_closest filled limit
    exact ⟨first, nodup_of_increasing first.increasing⟩
  · intro others same
    have pool : suggestions fold symbol maxDistance others =
        suggestions fold symbol maxDistance candidates := by
      ext c
      rw [mem_suggestions_iff, mem_suggestions_iff, same]
    by_cases empty : symbol = ""
    · exact (if_pos empty).trans (if_pos empty).symm
    · -- both lists are the first members of one set
      have first : IsFirst (rank fold symbol) limit
          (suggestions fold symbol maxDistance others)
          (closest symbol others maxDistance limit fold) := isFirst_closest empty limit
      rw [pool] at first
      exact first.unique (isFirst_closest empty limit)

/-- The first three of five close candidates, which are given in two orders, one of them twice. -/
theorem closest_mtr :
    "mtr" ≠ "" ∧
      closest "mtr" ["metre", "mt", "MTR", "m", "mtr", "mtrs", "mt"] 2 3 = ["MTR", "mt", "mtrs"] ∧
      closest "mtr" ["mtrs", "mtr", "m", "MTR", "mt", "metre"] 2 3 = ["MTR", "mt", "mtrs"] := by
  have filled : "mtr" ≠ "" := by decide
  obtain ⟨first, -, alike⟩ := closest_isFirst Text.caseFold 2 3 "mtr"
    ["metre", "mt", "MTR", "m", "mtr", "mtrs", "mt"]
  have expected : IsFirst (rank Text.caseFold "mtr") 3
      (suggestions Text.caseFold "mtr" 2 ["metre", "mt", "MTR", "m", "mtr", "mtrs", "mt"])
      ["MTR", "mt", "mtrs"] :=
    { mem := by decide
      increasing := by decide
      length := by decide
      before := by decide }
  have shown := (first filled).1.unique expected
  have same : ∀ c, c ∈ ["mtrs", "mtr", "m", "MTR", "mt", "metre"] ↔
      c ∈ ["metre", "mt", "MTR", "m", "mtr", "mtrs", "mt"] := by
    intro c
    simp only [List.mem_cons, List.not_mem_nil]
    tauto
  exact ⟨filled, shown, (alike _ same).trans shown⟩

end Metrology.Spelling
