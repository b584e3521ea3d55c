import Mathlib.Data.List.Nodup
import Metrology.Text.Canonical

/-!
# Canonical forms of joined texts

The shortcut for settled texts agrees with the passes it skips (`canonical_eq_recompose`). The
passes work on the text between two settled characters by itself, so that a character that never
changes its neighbours splits a text into parts that are brought into canonical form apart.
Main statement: `canonical_append_cons`.
-/

namespace Metrology.Text

namespace Canonical

/-- Taking a text apart, ordering its marks, and putting it together again. -/
def recompose (cs : List Char) : List Char := compose (orderMarks (cs.flatMap decompose))

/-! ## Settled characters split the passes -/

theorem combiningClass_of_isSettled {c : Char} (h : isSettled c = true) :
    combiningClass c = 0 := by
  have low : c.toNat < 0x300 := by simpa [isSettled] using h
  simp [combiningClass, low]

/-- No syllable is made where one of the two comes before the letters of syllables, or the second
behind them. -/
theorem joinSyllable?_of_apart {a b : Nat}
    (apart : a < leadBase ∨ b < leadBase ∨ 0x11FF < b) :
    joinSyllable? a b = none := by
  rw [leadBase] at apart
  unfold joinSyllable?
  rw [if_neg, if_neg]
  · simp only [syllableBase, trailBase, trailCount]
    omega
  · simp only [leadBase, vowelBase, vowelCount]
    omega

theorem joinSyllable?_of_low {a : Nat} (low : a < 0x300) (b : Nat) : joinSyllable? a b = none := by
  refine joinSyllable?_of_apart (.inl ?_)
  rw [leadBase]
  omega

theorem join?_of_isSettled {a b : Char} (h : isSettled b = true) : join? a b = none := by
  have low : b.toNat < 0x300 := by simpa [isSettled] using h
  simp [join?, low]

/-- A base character stays in front of everything behind it. -/
theorem insertMark_of_base {c : Char} (base : combiningClass c = 0) (cs : List Char) :
    insertMark c cs = c :: cs := by
  cases cs with
  | nil => rfl
  | cons d cs => simp [insertMark, base]

/-- A mark is not moved behind a base character. -/
theorem insertMark_append {d : Char} (base : combiningClass d = 0) (c : Char)
    (front rest : List Char) :
    insertMark c (front ++ d :: rest) = insertMark c front ++ d :: rest := by
  induction front with
  | nil => simp [insertMark, base]
  | cons b front ih =>
    simp only [List.cons_append, insertMark]
    split
    · rw [ih, List.cons_append]
    · rfl

theorem orderMarks_append {d : Char} (base : combiningClass d = 0) (front rest : List Char) :
    orderMarks (front ++ d :: rest) = orderMarks front ++ d :: orderMarks rest := by
  induction front with
  | nil => exact insertMark_of_base base (orderMarks rest)
  | cons c front ih =>
    have unfolded (cs : List Char) : orderMarks (c :: cs) = insertMark c (orderMarks cs) := rfl
    rw [List.cons_append, unfolded, unfolded, ih, insertMark_append base]

theorem orderMarks_cons {d : Char} (base : combiningClass d = 0) (rest : List Char) :
    orderMarks (d :: rest) = d :: orderMarks rest :=
  orderMarks_append base [] rest

/-- Nothing joins across a base character that joins nothing in front of it. -/
theorem composeFrom_append {d : Char} (zero : combiningClass d = 0) (behind : ∀ b, join? b d = none)
    (base : Char) (held front rest : List Char) :
    composeFrom base held (front ++ d :: rest) =
      composeFrom base held front ++ composeFrom d [] rest := by
  induction front generalizing base held with
  | nil => simp [composeFrom, behind, zero]
  | cons c front ih =>
    simp only [List.cons_append, composeFrom]
    split
    · next joined _ => exact ih joined held
    · split
      · simp [ih c []]
      · exact ih base (held ++ [c])

theorem compose_append {d : Char} (zero : combiningClass d = 0) (behind : ∀ b, join? b d = none)
    (front rest : List Char) :
    compose (front ++ d :: rest) = compose front ++ composeFrom d [] rest := by
  induction front with
  | nil => simp [compose, zero]
  | cons c front ih =>
    simp only [List.cons_append, compose]
    split
    · exact composeFrom_append zero behind c [] front rest
    · rw [ih, List.cons_append]

/-! ## Settled characters are composed -/

/-- What the table of pairs says of each row. A settled character is taken apart into a letter and a
mark; if the letter carries a mark already, it is taken apart further, into a plain letter and a
mark that stands first. No letter is a digit or a sign. -/
theorem row_of_composites : ∀ p ∈ composites,
    0x3C ≤ p.2.1 ∧ (p.1 < 0x300 ∨ 0x340 ≤ p.1) ∧
      (p.1 < 0x300 → (p.2.1 < 0x300 ∧ 0x300 ≤ p.2.2 ∧ p.2.2 < 0x340) ∧
        (0xC0 ≤ p.2.1 → ∀ q ∈ composites.lookup p.2.1, q.1 < 0xC0 ∧
          combiningClass (Char.ofNat q.2) ≤ combiningClass (Char.ofNat p.2.2))) := by
  decide +kernel

theorem parts_of_composite {n a b : Nat} (row : (n, a, b) ∈ composites) (low : n < 0x300) :
    a < 0x300 ∧ 0x300 ≤ b ∧ b < 0x340 :=
  ((row_of_composites _ row).2.2 low).1

/-- Whether no number occurs twice. The numbers in front are the bits of `seen`. -/
def distinct : (seen : Nat) → List Nat → Bool
  | _, [] => true
  | seen, n :: rest => !seen.testBit n && distinct (seen ||| 1 <<< n) rest

theorem nodup_of_distinct {seen : Nat} {ns : List Nat} (h : distinct seen ns = true) :
    ns.Nodup ∧ ∀ n ∈ ns, seen.testBit n = false := by
  induction ns generalizing seen with
  | nil => simp
  | cons m ns ih =>
    simp only [distinct, Bool.and_eq_true, Bool.not_eq_true'] at h
    obtain ⟨fresh, rest⟩ := h
    obtain ⟨nodup, apart⟩ := ih rest
    -- what stands behind is neither among the numbers in front nor the number itself
    have behind : ∀ n ∈ ns, seen.testBit n = false ∧ m ≠ n := by
      intro n mem
      simpa [Nat.testBit_or, Nat.one_shiftLeft, Nat.testBit_two_pow] using apart n mem
    exact ⟨List.nodup_cons.2 ⟨fun mem => (behind m mem).2 rfl, nodup⟩,
      List.forall_mem_cons.2 ⟨fresh, fun n mem => (behind n mem).1⟩⟩

/-- A settled letter and a mark of the first block. -/
def isLowPair (p : Nat × Nat × Nat) : Bool :=
  Nat.blt p.2.1 0x300 && Nat.ble 0x300 p.2.2 && Nat.blt p.2.2 0x340

/-- A number for such a pair. -/
def pairCode (p : Nat × Nat × Nat) : Nat := p.2.1 * 0x40 + (p.2.2 - 0x300)

theorem pairCodes_distinct : distinct 0 ((composites.filter isLowPair).map pairCode) = true := by
  decide +kernel

/-- What a settled character is taken apart into makes up no other character. -/
theorem find?_of_composite {n a b : Nat} (row : (n, a, b) ∈ composites) (low : n < 0x300) :
    (composites.find? fun (_, x, y) => x == a && y == b) = some (n, a, b) := by
  have parts := parts_of_composite row low
  have pair (m : Nat) : isLowPair (m, a, b) = true := by
    simpa [isLowPair, Nat.blt_eq, Nat.ble_eq, and_assoc] using parts
  cases found : composites.find? fun (_, x, y) => x == a && y == b with
  | none => simpa using List.find?_eq_none.1 found _ row
  | some q =>
    obtain ⟨m, x, y⟩ := q
    have listed := List.mem_of_find?_eq_some found
    have same := List.find?_some found
    simp only [Bool.and_eq_true, beq_iff_eq] at same
    obtain ⟨rfl, rfl⟩ := same
    exact congrArg some (List.inj_on_of_nodup_map (nodup_of_distinct pairCodes_distinct).1
      (List.mem_filter.2 ⟨listed, pair m⟩) (List.mem_filter.2 ⟨row, pair n⟩) rfl)

theorem toNat_ofNat {n : Nat} (valid : n.isValidChar) : (Char.ofNat n).toNat = n := by
  rw [Char.ofNat, dif_pos valid]
  rfl

theorem toNat_ofNat_of_low {n : Nat} (low : n < 0x340) : (Char.ofNat n).toNat = n :=
  toNat_ofNat (.inl (by omega))

theorem join?_of_composite {n a b : Nat} (row : (n, a, b) ∈ composites) (low : n < 0x300) :
    join? (Char.ofNat a) (Char.ofNat b) = some (Char.ofNat n) := by
  obtain ⟨lowA, lowB, highB⟩ := parts_of_composite row low
  have found := find?_of_composite row low
  have syllable : joinSyllable? a b = none := joinSyllable?_of_low lowA b
  unfold join?
  rw [toNat_ofNat_of_low highB, toNat_ofNat_of_low (by omega), if_neg (by omega), syllable, found]
  rfl

theorem order_of_composite {n a b a' b' : Nat} (row : (n, a, b) ∈ composites) (low : n < 0x300)
    (marked : 0xC0 ≤ a) (inner : composites.lookup a = some (a', b')) :
    a' < 0xC0 ∧ combiningClass (Char.ofNat b') ≤ combiningClass (Char.ofNat b) :=
  ((row_of_composites _ row).2.2 low).2 marked _ inner

/-- No mark of the first block, and no settled character but by a pair, is taken apart. -/
theorem high_of_rows :
    (∀ p ∈ splitOnly, 0x340 ≤ p.1) ∧ ∀ p ∈ singles ++ ideographSingles, 0x340 ≤ p.1 := by
  decide +kernel

theorem lookup_eq_none_of_ne {β : Type} {n : Nat} {rows : List (Nat × β)}
    (h : ∀ p ∈ rows, n ≠ p.1) : rows.lookup n = none := by
  rw [List.lookup_eq_none_iff]
  intro p mem
  simpa using h p mem

/-- Below the marks that are taken apart themselves, only pairs take a character apart. -/
theorem split?_eq_lookup {n : Nat} (low : n < 0x340) :
    split? n = if n < 0xC0 then none else (composites.lookup n).map fun (a, b) => [a, b] := by
  unfold split?
  split
  · rfl
  · have syllable : splitSyllable? n = none := by
      unfold splitSyllable?
      dsimp only
      rw [if_neg]
      rw [syllableBase]
      omega
    have pair : (composites ++ splitOnly).lookup n = composites.lookup n := by
      have only : splitOnly.lookup n = none := by
        refine lookup_eq_none_of_ne fun p mem same => ?_
        exact absurd (high_of_rows.1 p mem) (by omega)
      rw [List.lookup_append, only, Option.or_none]
    have single : (singles ++ ideographSingles).lookup n = none := by
      refine lookup_eq_none_of_ne fun p mem same => ?_
      exact absurd (high_of_rows.2 p mem) (by omega)
    rw [syllable, pair, single]
    cases composites.lookup n with
    | none => rfl
    | some row => rfl

theorem split?_of_mark {n : Nat} (low : 0x300 ≤ n) (high : n < 0x340) : split? n = none := by
  rw [split?_eq_lookup high, if_neg (by omega), lookup_eq_none_of_ne]
  · rfl
  · intro p mem same
    have apart := (row_of_composites p mem).2.1
    omega

theorem split?_of_plain {n : Nat} (plain : n < 0xC0) : split? n = none := by
  rw [split?_eq_lookup (by omega), if_pos plain]

theorem expand_of_split?_eq_none {n : Nat} (h : split? n = none) (steps : Nat) :
    expand steps n = [n] := by
  cases steps with
  | zero => rfl
  | succ steps => simp only [expand, h]

theorem expand_of_split? {n a b : Nat} (h : split? n = some [a, b]) (steps : Nat) :
    expand (steps + 1) n = expand steps a ++ expand steps b := by
  simp [expand, h]

theorem join?_of_mem {c : Char} {a b : Nat} (row : (c.toNat, a, b) ∈ composites)
    (low : c.toNat < 0x300) : join? (Char.ofNat a) (Char.ofNat b) = some c := by
  rw [join?_of_composite row low, Char.ofNat_toNat]

theorem mem_of_lookup_eq_some {β : Type} {n : Nat} {row : β} {rows : List (Nat × β)}
    (h : rows.lookup n = some row) : (n, row) ∈ rows := by
  obtain ⟨before, after, rfl, -⟩ := List.lookup_eq_some_iff.1 h
  simp

theorem isSettled_ofNat {n : Nat} (low : n < 0x300) : isSettled (Char.ofNat n) = true := by
  rw [isSettled, toNat_ofNat_of_low (by omega)]
  exact decide_eq_true low

/-- How a settled character is taken apart: not at all, into a letter and a mark, or into a
letter and two marks in order. What a letter and a mark are put together to is known. -/
theorem decompose_of_isSettled {c : Char} (h : isSettled c = true) :
    decompose c = [c] ∨
      ∃ a b, isSettled a = true ∧ join? a b = some c ∧
        (decompose c = [a, b] ∨
          ∃ a' b', isSettled a' = true ∧ join? a' b' = some a ∧
            combiningClass b' ≤ combiningClass b ∧ decompose c = [a', b', b]) := by
  have low : c.toNat < 0x300 := by simpa [isSettled] using h
  have split := split?_eq_lookup (n := c.toNat) (by omega)
  have undone (none : split? c.toNat = none) : decompose c = [c] := by
    simp [decompose, expand_of_split?_eq_none none]
  by_cases plain : c.toNat < 0xC0
  · exact .inl (undone (split?_of_plain plain))
  rw [if_neg plain] at split
  cases row : composites.lookup c.toNat with
  | none =>
    rw [row] at split
    exact .inl (undone split)
  | some pair =>
    obtain ⟨a, b⟩ := pair
    rw [row, Option.map_some] at split
    have mem := mem_of_lookup_eq_some row
    obtain ⟨lowA, lowB, highB⟩ := parts_of_composite mem low
    have mark := expand_of_split?_eq_none (split?_of_mark lowB highB)
    have taken : decompose c = (expand 2 a).map Char.ofNat ++ [Char.ofNat b] := by
      simp [decompose, expand_of_split? split, mark]
    refine .inr ⟨Char.ofNat a, Char.ofNat b, isSettled_ofNat lowA, join?_of_mem mem low, ?_⟩
    have splitA := split?_eq_lookup (n := a) (by omega)
    have undoneA (none : split? a = none) : decompose c = [Char.ofNat a, Char.ofNat b] := by
      rw [taken, expand_of_split?_eq_none none]
      rfl
    by_cases plainA : a < 0xC0
    · exact .inl (undoneA (split?_of_plain plainA))
    rw [if_neg plainA] at splitA
    cases rowA : composites.lookup a with
    | none =>
      rw [rowA] at splitA
      exact .inl (undoneA splitA)
    | some pairA =>
      obtain ⟨a', b'⟩ := pairA
      rw [rowA, Option.map_some] at splitA
      have memA := mem_of_lookup_eq_some rowA
      obtain ⟨lowA', lowB', highB'⟩ := parts_of_composite memA lowA
      obtain ⟨plainA', order⟩ := order_of_composite mem low (Nat.not_lt.1 plainA) rowA
      refine .inr ⟨Char.ofNat a', Char.ofNat b', isSettled_ofNat lowA',
        join?_of_composite memA lowA, order, ?_⟩
      rw [taken, expand_of_split? splitA, expand_of_split?_eq_none (split?_of_plain plainA'),
        expand_of_split?_eq_none (split?_of_mark lowB' highB')]
      rfl

/-- A settled character is put together again from the letter and the marks that it is taken
apart into. -/
theorem recompose_of_isSettled {c : Char} (h : isSettled c = true) : recompose [c] = [c] := by
  have alone : recompose [c] = compose (orderMarks (decompose c)) := by simp [recompose]
  rcases decompose_of_isSettled h with whole | ⟨a, b, base, joined, parts⟩
  · rw [alone, whole]
    simp [orderMarks, insertMark, compose, composeFrom, combiningClass_of_isSettled h]
  · rcases parts with parts | ⟨a', b', base', joined', order, parts⟩
    · rw [alone, parts]
      simp [orderMarks, insertMark_of_base (combiningClass_of_isSettled base), insertMark, compose,
        composeFrom, combiningClass_of_isSettled base, joinsPast, joined]
    · have behind : insertMark b' [b] = [b', b] := by simp [insertMark, Nat.not_lt.2 order]
      rw [alone, parts]
      simp [orderMarks, insertMark_of_base (combiningClass_of_isSettled base'), insertMark, behind,
        compose, composeFrom, combiningClass_of_isSettled base', joinsPast, joined', joined]

/-! ## Texts of characters that lead -/

/-- A character that is put together again from what it is taken apart into, and that joins nothing
in front of it. -/
structure IsLeading (c : Char) : Prop where
  whole : recompose [c] = [c]
  taken : ∃ d parts, decompose c = d :: parts ∧ combiningClass d = 0 ∧ ∀ b, join? b d = none

theorem IsLeading.of_isSettled {c : Char} (h : isSettled c = true) : IsLeading c where
  whole := recompose_of_isSettled h
  taken := by
    rcases decompose_of_isSettled h with whole | ⟨a, b, base, -, parts⟩
    · exact ⟨c, [], whole, combiningClass_of_isSettled h, fun _ => join?_of_isSettled h⟩
    · rcases parts with parts | ⟨a', b', base', -, -, parts⟩
      · exact ⟨a, [b], parts, combiningClass_of_isSettled base, fun _ => join?_of_isSettled base⟩
      · exact ⟨a', [b', b], parts, combiningClass_of_isSettled base',
          fun _ => join?_of_isSettled base'⟩

/-- A base character that is not taken apart and is no second member of a pair. -/
theorem IsLeading.of_whole {c : Char} (written : decompose c = [c]) (base : combiningClass c = 0)
    (behind : ∀ b, join? b c = none) : IsLeading c where
  whole := by simp [recompose, written, orderMarks, insertMark, compose, composeFrom, base]
  taken := ⟨c, [], written, base, behind⟩

/-- In front of a leading character a text is put together by itself. -/
theorem recompose_append {c : Char} (h : IsLeading c) (front rest : List Char) :
    recompose (front ++ c :: rest) = recompose front ++ recompose (c :: rest) := by
  obtain ⟨d, parts, taken, zero, behind⟩ := h.taken
  simp only [recompose, List.flatMap_append, List.flatMap_cons, taken, List.cons_append,
    orderMarks_append zero, orderMarks_cons zero, compose_append zero behind]
  simp [compose, zero]

theorem recompose_of_leading {cs : List Char} (leading : ∀ c ∈ cs, IsLeading c) :
    recompose cs = cs := by
  induction cs with
  | nil => rfl
  | cons c cs ih =>
    obtain ⟨first, rest⟩ := List.forall_mem_cons.1 leading
    cases cs with
    | nil => exact first.whole
    | cons d cs =>
      have joined := recompose_append (rest d List.mem_cons_self) [c] cs
      rw [first.whole, ih rest] at joined
      exact joined

end Canonical

open Canonical

/-- The form of a text is what the passes make of it, the shortcut for settled texts included. -/
theorem canonical_eq_recompose (cs : List Char) : canonical cs = recompose cs := by
  unfold canonical
  split
  · next settled =>
    have leading (c : Char) (mem : c ∈ cs) : IsLeading c :=
      .of_isSettled (List.all_eq_true.1 settled c mem)
    exact (recompose_of_leading leading).symm
  · rfl

/-- A character that the canonical form writes as `c'`, which joins none of its neighbours. -/
structure IsBarrier (c c' : Char) : Prop where
  written : decompose c = [c']
  base : combiningClass c' = 0
  ahead : ∀ d, join? c' d = none
  behind : ∀ d, join? d c' = none

theorem composeFrom_of_ahead {c : Char} (ahead : ∀ d, join? c d = none) (held cs : List Char) :
    composeFrom c held cs = c :: held ++ compose cs := by
  induction cs generalizing held with
  | nil => simp [composeFrom, compose]
  | cons d cs ih =>
    simp only [composeFrom, compose, ahead, ite_self]
    split
    · rfl
    · simp [ih]

/-- A barrier splits a text into parts that have their canonical forms apart. -/
theorem IsBarrier.canonical_append_cons {c c' : Char} (h : IsBarrier c c')
    (front rest : List Char) :
    canonical (front ++ c :: rest) = canonical front ++ c' :: canonical rest := by
  simp only [canonical_eq_recompose, recompose, List.flatMap_append, List.flatMap_cons, h.written,
    List.singleton_append, orderMarks_append h.base, compose_append h.base h.behind,
    composeFrom_of_ahead h.ahead]

/-- A character that is its own canonical form and never joins what follows it. -/
structure IsInert (c : Char) : Prop where
  settled : isSettled c = true
  whole : decompose c = [c]
  alone : ∀ d, join? c d = none

theorem IsInert.isBarrier {c : Char} (h : IsInert c) : IsBarrier c c where
  written := h.whole
  base := combiningClass_of_isSettled h.settled
  ahead := h.alone
  behind _ := join?_of_isSettled h.settled

/-- An inert character splits a text into parts that have their canonical forms apart. -/
theorem canonical_append_cons {c : Char} (h : IsInert c) (front rest : List Char) :
    canonical (front ++ c :: rest) = canonical front ++ c :: canonical rest :=
  h.isBarrier.canonical_append_cons front rest

/-- The characters that join unit texts, with the unit one. -/
def joiners : List Char := ['*', '/', '(', ')', '1']

theorem isInert_of_mem_joiners {c : Char} (h : c ∈ joiners) : IsInert c := by
  have codes : ∀ n ∈ joiners.map Char.toNat, n < 0x3C := by decide
  have low := codes _ (List.mem_map_of_mem h)
  refine ⟨?_, ?_, ?_⟩
  · rw [isSettled, decide_eq_true_eq]
    omega
  · simp [decompose, expand_of_split?_eq_none (split?_of_plain (n := c.toNat) (by omega))]
  · intro d
    have pair : composites.find? (fun (_, x, y) => x == c.toNat && y == d.toNat) = none := by
      rw [List.find?_eq_none]
      intro p mem
      have letter := (row_of_composites p mem).1
      have differ : p.2.1 ≠ c.toNat := by omega
      simp [differ]
    unfold join?
    rw [joinSyllable?_of_low (by omega), pair]
    simp

end Metrology.Text
