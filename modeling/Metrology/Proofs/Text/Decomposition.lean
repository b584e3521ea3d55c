import Mathlib.Data.List.Chain
import Metrology.Proofs.Text.Barriers

/-!
# Taking characters apart completely

Three steps take every character apart as far as it goes (`split?_of_mem_expand`): starting from
all characters that the tables take apart, those that lead to one of them in one step are a smaller
set, those that lead to one of these a yet smaller one, and the next set is empty. So a character
that was obtained by taking another one apart stays as it is (`decompose_of_mem_decompose`), and
what is put together is taken apart into the parts of both (`decompose_of_join?`).
-/

namespace Metrology.Text.Canonical

/-! ## The tables as one -/

/-- The rows of all tables: a character and what one step takes it apart into. -/
def rows : List (Nat × List Nat) :=
  (composites ++ splitOnly).map (fun p => (p.1, [p.2.1, p.2.2])) ++
    (singles ++ ideographSingles).map fun p => (p.1, [p.2])

/-- Whether a code is that of a syllable. -/
def isSyllable (n : Nat) : Bool := Nat.ble syllableBase n && Nat.ble n 0xD7A3

/-- The tables hold neither syllables nor letters of syllables, and no part is a syllable. -/
theorem hangul_of_row : ∀ row ∈ rows, isSyllable row.1 = false ∧
    (row.1 < leadBase ∨ 0x11FF < row.1) ∧ ∀ n ∈ row.2, isSyllable n = false := by
  decide +kernel

theorem splitSyllable?_eq_none {n : Nat} (h : isSyllable n = false) : splitSyllable? n = none := by
  unfold splitSyllable?
  dsimp only
  rw [if_neg]
  rintro ⟨low, high⟩
  simp only [syllableBase, leadCount, vowelCount, trailCount] at low high
  have within : isSyllable n = true := by
    rw [isSyllable, Bool.and_eq_true, Nat.ble_eq, Nat.ble_eq, syllableBase]
    omega
  rw [h] at within
  cases within

theorem split?_of_splitSyllable? {n : Nat} {parts : List Nat} (h : splitSyllable? n = some parts) :
    split? n = some parts := by
  obtain ⟨⟨low, -⟩, -, -⟩ := letters_of_splitSyllable? h
  rw [syllableBase] at low
  rw [split?, if_neg (by omega), h]

theorem mem_rows_of_split? {n : Nat} {parts : List Nat} (syllable : splitSyllable? n = none)
    (h : split? n = some parts) : (n, parts) ∈ rows := by
  unfold split? at h
  split at h
  · cases h
  rw [syllable] at h
  dsimp only at h
  split at h
  · next a b found =>
    cases h
    exact List.mem_append_left _ (List.mem_map_of_mem (mem_of_lookup_eq_some found))
  · obtain ⟨a, found, rfl⟩ := Option.map_eq_some_iff.1 h
    exact List.mem_append_right _ (List.mem_map_of_mem (mem_of_lookup_eq_some found))

/-! ## Three steps are enough -/

/-- A set of codes as a number that has a bit for each code. -/
def codeSet (codes : List Nat) : Nat := codes.foldr (fun n bits => 1 <<< n ||| bits) 0

theorem testBit_codeSet {codes : List Nat} {n : Nat} :
    (codeSet codes).testBit n = true ↔ n ∈ codes := by
  induction codes with
  | nil => simp [codeSet]
  | cons m codes ih =>
    have cons : codeSet (m :: codes) = 1 <<< m ||| codeSet codes := rfl
    rw [cons, Nat.testBit_or, Bool.or_eq_true, ih, Nat.one_shiftLeft, Nat.testBit_two_pow,
      decide_eq_true_eq, List.mem_cons, eq_comm]

/-- The characters that the tables take apart in more than so many steps. -/
def deepCodes : (steps : Nat) → List Nat
  | 0 => rows.map Prod.fst
  | steps + 1 =>
    (rows.filter fun row => row.2.any fun n => (codeSet (deepCodes steps)).testBit n).map Prod.fst

theorem deepCodes_three : deepCodes 3 = [] := by decide +kernel

theorem mem_deepCodes_succ {steps n m : Nat} {parts : List Nat} (row : (n, parts) ∈ rows)
    (part : m ∈ parts) (deep : m ∈ deepCodes steps) : n ∈ deepCodes (steps + 1) := by
  refine List.mem_map_of_mem (f := Prod.fst) (List.mem_filter.2 ⟨row, ?_⟩)
  exact List.any_eq_true.2 ⟨m, part, testBit_codeSet.2 deep⟩

theorem split?_eq_none_of_not_mem {n : Nat} (syllable : splitSyllable? n = none)
    (h : n ∉ rows.map Prod.fst) : split? n = none := by
  cases split : split? n with
  | none => rfl
  | some parts => exact absurd (List.mem_map_of_mem (mem_rows_of_split? syllable split)) h

theorem split?_of_letter {n : Nat} (low : leadBase ≤ n) (high : n ≤ 0x11FF) : split? n = none := by
  have syllable : splitSyllable? n = none := by
    refine splitSyllable?_eq_none (Bool.and_eq_false_iff.2 (.inl ?_))
    rw [← Bool.not_eq_true, Nat.ble_eq, syllableBase]
    omega
  refine split?_eq_none_of_not_mem syllable ?_
  intro mem
  obtain ⟨row, listed, rfl⟩ := List.mem_map.1 mem
  have apart := (hangul_of_row row listed).2.1
  omega

/-- A character that needs no more than so many steps is taken apart completely in them. -/
theorem split?_of_not_mem_deepCodes {steps n m : Nat} (syllable : splitSyllable? n = none)
    (shallow : n ∉ deepCodes steps) (mem : m ∈ expand steps n) : split? m = none := by
  induction steps generalizing n with
  | zero =>
    obtain rfl := List.mem_singleton.1 mem
    exact split?_eq_none_of_not_mem syllable shallow
  | succ steps ih =>
    unfold expand at mem
    split at mem
    · next parts split =>
      obtain ⟨part, listed, mem⟩ := List.mem_flatMap.1 mem
      have row := mem_rows_of_split? syllable split
      refine ih (splitSyllable?_eq_none ((hangul_of_row _ row).2.2 part listed)) ?_ mem
      exact fun deep => shallow (mem_deepCodes_succ row listed deep)
    · next whole =>
      obtain rfl := List.mem_singleton.1 mem
      exact whole

/-- Three steps take every character apart completely. -/
theorem split?_of_mem_expand {n m : Nat} (mem : m ∈ expand 3 n) : split? m = none := by
  cases syllable : splitSyllable? n with
  | none =>
    refine split?_of_not_mem_deepCodes syllable ?_ mem
    rw [deepCodes_three]
    exact List.not_mem_nil
  | some parts =>
    -- the letters of a syllable are taken apart no further
    obtain ⟨-, -, letters⟩ := letters_of_splitSyllable? syllable
    rw [expand, split?_of_splitSyllable? syllable] at mem
    obtain ⟨part, listed, mem⟩ := List.mem_flatMap.1 mem
    have whole := split?_of_letter (letters part listed).1 (letters part listed).2
    rw [expand_of_split?_eq_none whole, List.mem_singleton] at mem
    rw [mem]
    exact whole

/-- Where nothing is left to be taken apart, one more step changes nothing. -/
theorem expand_succ_of_whole {steps n : Nat} (whole : ∀ m ∈ expand steps n, split? m = none) :
    expand (steps + 1) n = expand steps n := by
  induction steps generalizing n with
  | zero => exact expand_of_split?_eq_none (whole n (List.mem_singleton.2 rfl)) 1
  | succ steps ih =>
    cases split : split? n with
    | none => rw [expand_of_split?_eq_none split, expand_of_split?_eq_none split]
    | some parts =>
      have step (k : Nat) : expand (k + 1) n = parts.flatMap (expand k) := by
        simp only [expand, split]
      rw [step] at whole
      rw [step, step]
      refine List.flatMap_congr fun part listed => ih fun m mem => ?_
      exact whole m (List.mem_flatMap.2 ⟨part, listed, mem⟩)

/-- A character is taken apart into what its parts are taken apart into. -/
theorem expand_three_of_split? {n : Nat} {parts : List Nat} (h : split? n = some parts) :
    expand 3 n = parts.flatMap (expand 3) := by
  have step : expand 3 n = parts.flatMap (expand 2) := by simp only [expand, h]
  rw [step]
  refine List.flatMap_congr fun part listed => (expand_succ_of_whole fun m mem => ?_).symm
  refine split?_of_mem_expand (n := n) ?_
  rw [step]
  exact List.mem_flatMap.2 ⟨part, listed, mem⟩

/-! ## Characters -/

theorem split?_ofNat {n : Nat} (h : split? n = none) : split? (Char.ofNat n).toNat = none := by
  by_cases valid : n.isValidChar
  · rw [toNat_ofNat valid, h]
  · -- the other codes all make the first character
    rw [Char.ofNat, dif_neg valid]
    rfl

/-- What a character is taken apart into stays as it is. -/
theorem decompose_of_mem_decompose {c d : Char} (mem : d ∈ decompose c) : decompose d = [d] := by
  obtain ⟨n, part, rfl⟩ := List.mem_map.1 mem
  have whole := split?_ofNat (split?_of_mem_expand part)
  simp [decompose, expand_of_split?_eq_none whole]

/-- The number of a syllable tells its letters; the last of them may be missing. -/
theorem splitSyllable?_code {l v t : Nat} (hl : l < leadCount) (hv : v < vowelCount)
    (ht : t < trailCount) :
    splitSyllable? (syllableBase + (l * vowelCount + v) * trailCount + t) =
      some ([leadBase + l, vowelBase + v] ++ if t = 0 then [] else [trailBase + t]) := by
  rw [leadCount] at hl
  rw [vowelCount] at hv
  rw [trailCount] at ht
  have number : syllableBase + (l * vowelCount + v) * trailCount + t - syllableBase =
      (l * 21 + v) * 28 + t := by
    rw [vowelCount, trailCount]
    omega
  have lead : ((l * 21 + v) * 28 + t) / (21 * 28) = l := by omega
  have vowel : ((l * 21 + v) * 28 + t) % (21 * 28) / 28 = v := by omega
  have trail : ((l * 21 + v) * 28 + t) % 28 = t := by omega
  unfold splitSyllable?
  dsimp only
  rw [number, if_pos ⟨by omega, by rw [leadCount, vowelCount, trailCount]; omega⟩]
  rw [vowelCount, trailCount, lead, vowel, trail]
  split
  · rfl
  · rfl

/-- Two letters that make a syllable are its parts, and a last letter is added to the parts of
the syllable in front of it. -/
theorem split_of_joinSyllable? {a b n : Nat} (h : joinSyllable? a b = some n) :
    n ≤ 0xD7A3 ∧ (splitSyllable? n = some [a, b] ∨
      ∃ parts, splitSyllable? a = some parts ∧ splitSyllable? n = some (parts ++ [b])) := by
  unfold joinSyllable? at h
  split at h
  · next within =>
    obtain rfl := Option.some.inj h
    obtain ⟨lowA, highA, lowB, highB⟩ := within
    obtain ⟨l, rfl⟩ := Nat.exists_eq_add_of_le lowA
    obtain ⟨v, rfl⟩ := Nat.exists_eq_add_of_le lowB
    have hl : l < leadCount := Nat.lt_of_add_lt_add_left highA
    have hv : v < vowelCount := Nat.lt_of_add_lt_add_left highB
    have code := splitSyllable?_code hl hv (t := 0) (by decide)
    rw [Nat.add_sub_cancel_left, Nat.add_sub_cancel_left]
    refine ⟨?_, .inl code⟩
    rw [leadCount] at hl
    rw [vowelCount] at hv
    rw [syllableBase, vowelCount, trailCount]
    omega
  · split at h
    · next within =>
      obtain rfl := Option.some.inj h
      obtain ⟨lowA, highA, closed, lowB, highB⟩ := within
      obtain ⟨i, rfl⟩ := Nat.exists_eq_add_of_le lowA
      obtain ⟨t, rfl⟩ := Nat.exists_eq_add_of_le lowB.le
      have hi : i < leadCount * vowelCount * trailCount := Nat.lt_of_add_lt_add_left highA
      have ht : t < trailCount := Nat.lt_of_add_lt_add_left highB
      have filled : t ≠ 0 := by
        rintro rfl
        exact absurd lowB (Nat.lt_irrefl _)
      rw [Nat.add_sub_cancel_left] at closed ⊢
      -- a syllable without last letter is known by its first letter and its vowel
      have number : i = (i / 28 / 21 * vowelCount + i / 28 % 21) * trailCount := by
        rw [trailCount] at closed
        rw [vowelCount, trailCount]
        omega
      have hl : i / 28 / 21 < leadCount := by
        rw [leadCount, vowelCount, trailCount] at hi
        rw [leadCount]
        omega
      have hv : i / 28 % 21 < vowelCount := Nat.mod_lt _ (by decide)
      have code := splitSyllable?_code hl hv (t := 0) (by decide)
      have code' := splitSyllable?_code hl hv ht
      rw [← number, if_neg filled] at code'
      rw [← number] at code
      refine ⟨?_, .inr ⟨_, code, code'⟩⟩
      rw [leadCount, vowelCount, trailCount] at hi
      rw [trailCount] at ht closed
      rw [syllableBase]
      omega
    · cases h

/-! ## Characters that are put together -/

/-- The rows of pairs stand in order of the characters they make, which are no plain letters. -/
theorem composites_in_order : (composites.map Prod.fst).IsChain (· < ·) ∧
    ∀ p ∈ composites, 0xC0 ≤ p.1 ∧ p.1.isValidChar := by
  decide +kernel

theorem lookup_of_mem_composites {n : Nat} {pair : Nat × Nat} (mem : (n, pair) ∈ composites) :
    composites.lookup n = some pair := by
  have apart := List.pairwise_map.1 composites_in_order.1.pairwise
  obtain ⟨before, after, split⟩ := List.append_of_mem mem
  rw [split] at apart ⊢
  rw [List.lookup_append, lookup_eq_none_of_ne]
  · simp
  · intro p listed
    have below := (List.pairwise_append.1 apart).2.2 p listed (n, pair) List.mem_cons_self
    exact Nat.ne_of_gt below

theorem split?_of_mem_composites {n a b : Nat} (mem : (n, a, b) ∈ composites) :
    split? n = some [a, b] := by
  have row : (n, [a, b]) ∈ rows :=
    List.mem_append_left _ (List.mem_map_of_mem (List.mem_append_left splitOnly mem))
  have syllable := splitSyllable?_eq_none (hangul_of_row _ row).1
  rw [split?, if_neg (Nat.not_lt.2 (composites_in_order.2 _ mem).1), syllable, List.lookup_append,
    lookup_of_mem_composites mem]
  rfl

/-- What is put together is taken apart into the parts of both. -/
theorem decompose_of_join? {a b c : Char} (h : join? a b = some c) :
    decompose c = decompose a ++ decompose b := by
  suffices codes : expand 3 c.toNat = expand 3 a.toNat ++ expand 3 b.toNat by
    rw [decompose, codes, List.map_append]
    rfl
  unfold join? at h
  split at h
  · cases h
  split at h
  · next n syllable =>
    cases h
    obtain ⟨high, parts⟩ := split_of_joinSyllable? syllable
    rw [toNat_ofNat (.inl (by omega))]
    rcases parts with letters | ⟨parts, first, letters⟩
    · simpa using expand_three_of_split? (split?_of_splitSyllable? letters)
    · rw [expand_three_of_split? (split?_of_splitSyllable? letters), List.flatMap_append,
        expand_three_of_split? (split?_of_splitSyllable? first)]
      simp
  · obtain ⟨⟨n, x, y⟩, found, rfl⟩ := Option.map_eq_some_iff.1 h
    have same := List.find?_some found
    simp only [Bool.and_eq_true, beq_iff_eq] at same
    have mem := List.mem_of_find?_eq_some found
    rw [toNat_ofNat (composites_in_order.2 _ mem).2, ← same.1, ← same.2]
    simpa using expand_three_of_split? (split?_of_mem_composites mem)

end Metrology.Text.Canonical
