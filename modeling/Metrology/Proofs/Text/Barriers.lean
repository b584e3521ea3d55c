import Metrology.Label
import Metrology.Proofs.Text.Canonical
import Metrology.Proofs.Text.Runs

/-!
# What the canonical form leaves alone

Operators, parentheses, blanks, superscripts and decimal digits take no part in composition: a
table lookup shows that whatever is taken apart or put together lies in other ranges of codes
(`covers_of_split?`, `covers_of_join?`). So each of them splits a text into parts that have their
canonical forms apart (`isBarrier_of_sign`). The canonical form brings in no characters but those
of the tables (`IsKept.of_mem_canonical`), and a text of other characters stays one
(`forall_isPlain_canonical`). The one exception is the Greek middle dot, which the canonical form
writes as the operator.
-/

namespace Metrology.Text

open Canonical Label

/-- The Greek middle dot. The canonical form writes the operator in its place. -/
def greekDot : Char := '\u0387'

/-- A character of names that stays one in the canonical form. -/
def isPlain (c : Char) : Bool := isBaseChar c && !(c == greekDot)

/-! ## Ranges of codes -/

/-- The codes of operators, parentheses, blanks and superscripts. -/
def signCodes : List Nat :=
  [0x28, 0x29, 0x2A, 0x2F, 0x5E, 0xB7] ++ superscripts.map (fun p => p.1.toNat) ++ blankCodes

/-- Ranges of codes that hold every character which is taken apart or put together, and no sign,
blank or decimal digit, nor the mark `@`. -/
def letterRanges : List (Nat × Nat) := [
  (0x388, 0x65F), (0x1E00, 0x1FFF), (0x3001, 0xA61F), (0xABFA, 0xFF0F), (0xBA, 0x386), (0x3B, 0x3F),
  (0x41, 0x5D), (0x5F, 0x84), (0x20000, 0x2FFFF), (0xA1, 0xB1), (0xB4, 0xB6), (0x6C0, 0x6D5),
  (0x915, 0x95F), (0x9A1, 0x9DF), (0xA16, 0xA5E), (0xB21, 0xB5D), (0xB92, 0xBD7), (0xC46, 0xC56),
  (0xCBF, 0xCD6), (0xD3E, 0xD57), (0xDCA, 0xDDF), (0xF40, 0x102E), (0x1100, 0x11FF),
  (0x1B05, 0x1B43), (0x207C, 0x2FFF), (0x11099, 0x110BA), (0x11127, 0x11132), (0x1133E, 0x11357),
  (0x114B0, 0x114BE), (0x115AF, 0x115BB), (0x11930, 0x11938), (0x1D157, 0x1D1C0)]

/-- Whether a code lies in one of the ranges. -/
def covers (ranges : List (Nat × Nat)) (n : Nat) : Bool :=
  ranges.any fun r => Nat.ble r.1 n && Nat.ble n r.2

theorem covers_iff {ranges : List (Nat × Nat)} {n : Nat} :
    covers ranges n = true ↔ ∃ r ∈ ranges, r.1 ≤ n ∧ n ≤ r.2 := by
  simp [covers, Nat.ble_eq]

/-- The characters that are replaced although they lie in no range of letters. -/
def replaced : List (Nat × Nat) := [(0x387, 0xB7), (0x2000, 0x2002), (0x2001, 0x2003)]

/-- Whether no decimal digit lies in one of the ranges. -/
def holdsNoDigit (ranges : List (Nat × Nat)) : Bool :=
  decimalZeros.all fun first => ranges.all fun r => Nat.blt (first + 9) r.1 || Nat.blt r.2 first

theorem apart_of_holdsNoDigit {ranges : List (Nat × Nat)} (h : holdsNoDigit ranges = true)
    {first : Nat} (digits : first ∈ decimalZeros) {r : Nat × Nat} (mem : r ∈ ranges) :
    first + 9 < r.1 ∨ r.2 < first := by
  have apart := List.all_eq_true.1 (List.all_eq_true.1 h first digits) r mem
  simpa [Nat.blt_eq] using apart

/-- A look through the tables. What is taken apart or put together lies in the ranges of letters,
and neither signs nor decimal digits do. -/
theorem letterRanges_of_tables :
    (∀ p ∈ composites ++ splitOnly, covers letterRanges p.1 = true ∧
      covers letterRanges p.2.1 = true ∧ covers letterRanges p.2.2 = true) ∧
    (∀ p ∈ singles ++ ideographSingles,
      p ∈ replaced ∨ (covers letterRanges p.1 = true ∧ covers letterRanges p.2 = true)) ∧
    (∀ n ∈ signCodes ++ [0x387], covers letterRanges n = false) ∧
    holdsNoDigit letterRanges = true := by
  decide +kernel

/-- Neither decimal digits nor signs are marks. -/
theorem classRanges_apart :
    holdsNoDigit (classRanges.map fun r => (r.1, r.2.1)) = true ∧
      ∀ n ∈ signCodes, combiningClass (Char.ofNat n) = 0 := by
  decide +kernel

/-! ## Signs and digits are no letters -/

theorem mem_signCodes {c : Char} (h : isBaseChar c = false) : c.toNat ∈ signCodes := by
  have cases : c ∈ ['*', '/', '·', '^', '(', ')'] ∨ isBlank c = true ∨ isSuperscript c = true := by
    simp only [isBaseChar, Bool.not_eq_false', Bool.or_eq_true, beq_iff_eq] at h
    simp only [List.mem_cons, List.not_mem_nil, or_false]
    grind
  have signs : ∀ n ∈ ['*', '/', '·', '^', '(', ')'].map Char.toNat, n ∈ signCodes := by decide
  rcases cases with sign | blank | raised
  · exact signs _ (List.mem_map_of_mem sign)
  · exact forall_isBlank (p := fun c => c.toNat ∈ signCodes) (by decide) blank
  · exact forall_isSuperscript (p := fun c => c.toNat ∈ signCodes) (by decide) raised

theorem covers_of_not_isPlain {c : Char} (h : isPlain c = false) :
    covers letterRanges c.toNat = false := by
  refine letterRanges_of_tables.2.2.1 _ (List.mem_append.2 ?_)
  rw [isPlain, Bool.and_eq_false_iff] at h
  rcases h with sign | dot
  · exact .inl (mem_signCodes sign)
  · right
    have same : c = greekDot := by simpa using dot
    subst same
    decide

/-- A decimal digit lies less than ten behind the zero of its script. -/
theorem zero_of_isDecimalDigit {c : Char} (h : isDecimalDigit c = true) :
    ∃ first ∈ decimalZeros, first ≤ c.toNat ∧ c.toNat ≤ first + 9 := by
  unfold isDecimalDigit digitValue? at h
  split at h
  · split at h
    · next ascii => exact ⟨0x30, by decide, ascii⟩
    · cases h
  · rw [Option.isSome_map, List.find?_isSome] at h
    obtain ⟨first, mem, within⟩ := h
    exact ⟨first, mem, by simpa using within⟩

theorem covers_of_isDecimalDigit {c : Char} (h : isDecimalDigit c = true) :
    covers letterRanges c.toNat = false := by
  obtain ⟨first, mem, low, high⟩ := zero_of_isDecimalDigit h
  cases covered : covers letterRanges c.toNat with
  | false => rfl
  | true =>
    obtain ⟨r, listed, above, below⟩ := covers_iff.1 covered
    have apart := apart_of_holdsNoDigit letterRanges_of_tables.2.2.2 mem listed
    omega

theorem isPlain_ofNat {n : Nat} (h : covers letterRanges n = true) :
    isPlain (Char.ofNat n) = true := by
  cases plain : isPlain (Char.ofNat n) with
  | true => rfl
  | false =>
    have code := covers_of_not_isPlain plain
    by_cases valid : n.isValidChar
    · rw [toNat_ofNat valid, h] at code
      cases code
    · -- no other code makes a character but the first one, which is plain
      rw [Char.ofNat, dif_neg valid] at plain
      cases plain

/-! ## Taking apart and putting together -/

theorem covers_of_letter {n : Nat} (low : leadBase ≤ n) (high : n ≤ 0x11FF) :
    covers letterRanges n = true :=
  covers_iff.2 ⟨(0x1100, 0x11FF), by decide, low, high⟩

theorem covers_of_syllable {n : Nat} (low : syllableBase ≤ n) (high : n ≤ 0xFF0F) :
    covers letterRanges n = true :=
  covers_iff.2 ⟨(0xABFA, 0xFF0F), by decide, Nat.le_trans (by decide) low, high⟩

/-- The letters of a syllable are consonants and vowels of their own block. -/
theorem letters_of_splitSyllable? {n : Nat} {parts : List Nat}
    (h : splitSyllable? n = some parts) :
    (syllableBase ≤ n ∧ n ≤ 0xFF0F) ∧ parts ≠ [] ∧ ∀ m ∈ parts, leadBase ≤ m ∧ m ≤ 0x11FF := by
  unfold splitSyllable? at h
  dsimp only at h
  split at h
  · next within =>
    obtain rfl := Option.some.inj h
    obtain ⟨low, high⟩ := within
    refine ⟨⟨low, ?_⟩, ?_, ?_⟩
    · simp only [syllableBase, leadCount, vowelCount, trailCount] at high low
      omega
    · split
      · simp
      · simp
    · intro m mem
      have parts : m ∈ [leadBase + (n - syllableBase) / (vowelCount * trailCount),
          vowelBase + (n - syllableBase) % (vowelCount * trailCount) / trailCount,
          trailBase + (n - syllableBase) % trailCount] := by
        split at mem
        · exact List.mem_append_left [_] mem
        · exact mem
      simp only [List.mem_cons, List.not_mem_nil, or_false, leadBase, vowelBase, trailBase,
        syllableBase, leadCount, vowelCount, trailCount] at parts high
      rw [leadBase]
      omega
  · cases h

theorem covers_of_splitSyllable? {n : Nat} {parts : List Nat} (h : splitSyllable? n = some parts) :
    covers letterRanges n = true ∧ parts ≠ [] ∧ ∀ m ∈ parts, covers letterRanges m = true := by
  obtain ⟨⟨low, high⟩, nonempty, letters⟩ := letters_of_splitSyllable? h
  exact ⟨covers_of_syllable low high, nonempty,
    fun m mem => covers_of_letter (letters m mem).1 (letters m mem).2⟩

theorem covers_of_joinSyllable? {a b n : Nat} (h : joinSyllable? a b = some n) :
    covers letterRanges a = true ∧ covers letterRanges b = true ∧
      covers letterRanges n = true := by
  unfold joinSyllable? at h
  split at h
  · next within =>
    obtain rfl := Option.some.inj h
    obtain ⟨lowA, highA, lowB, highB⟩ := within
    simp only [leadCount, vowelCount, trailCount, leadBase, vowelBase] at lowA highA lowB highB ⊢
    refine ⟨covers_of_letter lowA (by omega), covers_of_letter ?_ (by omega),
      covers_of_syllable (by omega) ?_⟩
    · rw [leadBase]
      omega
    · rw [syllableBase]
      omega
  · split at h
    · next within =>
      obtain rfl := Option.some.inj h
      obtain ⟨lowA, highA, -, lowB, highB⟩ := within
      simp only [syllableBase, leadCount, vowelCount, trailCount,
        trailBase] at lowA highA lowB highB ⊢
      refine ⟨covers_of_syllable lowA (by omega), covers_of_letter ?_ (by omega),
        covers_of_syllable ?_ (by omega)⟩
      · rw [leadBase]
        omega
      · rw [syllableBase]
        omega
    · cases h

/-- What a character is taken apart into. -/
theorem covers_of_split? {n : Nat} {parts : List Nat} (h : split? n = some parts) :
    (∃ m, (n, m) ∈ replaced ∧ parts = [m]) ∨
      (covers letterRanges n = true ∧ parts ≠ [] ∧ ∀ m ∈ parts, covers letterRanges m = true) := by
  unfold split? at h
  split at h
  · cases h
  split at h
  · next syllable =>
    cases h
    exact .inr (covers_of_splitSyllable? syllable)
  · split at h
    · next a b found =>
      cases h
      obtain ⟨coversN, coversA, coversB⟩ := letterRanges_of_tables.1 _ (mem_of_lookup_eq_some found)
      exact .inr ⟨coversN, by simp, by simp [coversA, coversB]⟩
    · obtain ⟨m, found, rfl⟩ := Option.map_eq_some_iff.1 h
      rcases letterRanges_of_tables.2.1 _ (mem_of_lookup_eq_some found) with
        exception | ⟨coversN, coversM⟩
      · exact .inl ⟨m, exception, rfl⟩
      · exact .inr ⟨coversN, by simp, by simp [coversM]⟩

/-- Two characters that are put together, and what they make. -/
theorem covers_of_join? {a b c : Char} (h : join? a b = some c) :
    covers letterRanges a.toNat = true ∧ covers letterRanges b.toNat = true ∧
      ∃ n, covers letterRanges n = true ∧ c = Char.ofNat n := by
  unfold join? at h
  split at h
  · cases h
  split at h
  · next n syllable =>
    cases h
    obtain ⟨coversA, coversB, coversN⟩ := covers_of_joinSyllable? syllable
    exact ⟨coversA, coversB, n, coversN, rfl⟩
  · obtain ⟨p, found, rfl⟩ := Option.map_eq_some_iff.1 h
    have same := List.find?_some found
    simp only [Bool.and_eq_true, beq_iff_eq] at same
    have listed := List.mem_append_left splitOnly (List.mem_of_find?_eq_some found)
    obtain ⟨coversN, coversA, coversB⟩ := letterRanges_of_tables.1 p listed
    rw [← same.1, ← same.2]
    exact ⟨coversA, coversB, p.1, coversN, rfl⟩

/-! ## Barriers -/

theorem combiningClass_of_isBaseChar_eq_false {c : Char} (h : isBaseChar c = false) :
    combiningClass c = 0 := by
  have zero := classRanges_apart.2 _ (mem_signCodes h)
  rwa [Char.ofNat_toNat] at zero

theorem combiningClass_of_isDecimalDigit {c : Char} (h : isDecimalDigit c = true) :
    combiningClass c = 0 := by
  obtain ⟨first, mem, low, high⟩ := zero_of_isDecimalDigit h
  unfold combiningClass
  dsimp only
  split
  · rfl
  · split
    · next lo hi k found =>
      -- the digits of a script stand outside every range of marks
      have listed := List.mem_of_find?_eq_some found
      have apart : first + 9 < lo ∨ hi < first :=
        apart_of_holdsNoDigit classRanges_apart.1 mem (List.mem_map_of_mem listed)
      have within := List.find?_some found
      simp only [Bool.and_eq_true, decide_eq_true_eq] at within
      omega
    · rfl

theorem IsBarrier.of_apart {c c' : Char} (written : decompose c = [c'])
    (base : combiningClass c' = 0) (apart : covers letterRanges c'.toNat = false) :
    IsBarrier c c' where
  written := written
  base := base
  ahead d := by
    cases joined : join? c' d with
    | none => rfl
    | some e =>
      rw [(covers_of_join? joined).1] at apart
      cases apart
  behind d := by
    cases joined : join? d c' with
    | none => rfl
    | some e =>
      rw [(covers_of_join? joined).2.1] at apart
      cases apart

theorem decompose_of_apart {c : Char} (apart : covers letterRanges c.toNat = false)
    (kept : ∀ p ∈ replaced, p.1 ≠ c.toNat) : decompose c = [c] := by
  have whole : split? c.toNat = none := by
    cases split : split? c.toNat with
    | none => rfl
    | some parts =>
      rcases covers_of_split? split with ⟨m, exception, -⟩ | ⟨covered, -⟩
      · exact absurd rfl (kept _ exception)
      · rw [apart] at covered
        cases covered
  simp [decompose, expand_of_split?_eq_none whole]

theorem isBarrier_of_isBaseChar_eq_false {c : Char} (h : isBaseChar c = false)
    (kept : ∀ p ∈ replaced, p.1 ≠ c.toNat) : IsBarrier c c := by
  have apart := covers_of_not_isPlain (c := c) (by simp [isPlain, h])
  exact .of_apart (decompose_of_apart apart kept) (combiningClass_of_isBaseChar_eq_false h) apart

/-- An operator, a parenthesis or a superscript stays what it is. -/
theorem isBarrier_of_sign {c : Char} (h : isBaseChar c = false) (solid : isBlank c = false) :
    IsBarrier c c := by
  refine isBarrier_of_isBaseChar_eq_false h fun p mem same => ?_
  have others : ∀ p ∈ replaced, isBlank (Char.ofNat p.1) = true ∨
      isBaseChar (Char.ofNat p.1) = true := by
    decide
  have other := others p mem
  rw [same, Char.ofNat_toNat, h, solid] at other
  simp at other

theorem isBaseChar_of_isBlank {c : Char} (h : isBlank c = true) : isBaseChar c = false := by
  simp [isBaseChar, h]

theorem decompose_of_replaced :
    ∀ p ∈ replaced, decompose (Char.ofNat p.1) = [Char.ofNat p.2] := by
  decide +kernel

/-- Two blanks are replaced by another blank each. -/
theorem isBarrier_of_isBlank {c : Char} (h : isBlank c = true) :
    ∃ c', isBlank c' = true ∧ IsBarrier c c' := by
  have moved : ∀ p ∈ replaced, isBlank (Char.ofNat p.1) = true →
      isBlank (Char.ofNat p.2) = true := by
    decide
  by_cases moves : ∃ p ∈ replaced, p.1 = c.toNat
  · obtain ⟨p, mem, same⟩ := moves
    have code : Char.ofNat p.1 = c := by rw [same, Char.ofNat_toNat]
    have blank := moved p mem (code ▸ h)
    have written := decompose_of_replaced p mem
    rw [code] at written
    have sign := isBaseChar_of_isBlank blank
    exact ⟨_, blank, .of_apart written (combiningClass_of_isBaseChar_eq_false sign)
      (covers_of_not_isPlain (by simp [isPlain, sign]))⟩
  · refine ⟨c, h, isBarrier_of_isBaseChar_eq_false (isBaseChar_of_isBlank h) ?_⟩
    exact fun p mem same => moves ⟨p, mem, same⟩

theorem isBarrier_greekDot : IsBarrier greekDot '·' := by
  refine .of_apart (decompose_of_replaced (0x387, 0xB7) (by simp [replaced])) ?_ ?_
  · decide
  · decide

theorem isBarrier_of_isDecimalDigit {c : Char} (h : isDecimalDigit c = true) : IsBarrier c c := by
  have apart := covers_of_isDecimalDigit h
  refine .of_apart (decompose_of_apart apart ?_) (combiningClass_of_isDecimalDigit h) apart
  intro p mem same
  have others : ∀ p ∈ replaced, isDecimalDigit (Char.ofNat p.1) = false := by decide
  have other := others p mem
  rw [same, Char.ofNat_toNat, h] at other
  cases other

/-! ## What the canonical form brings in -/

theorem insertMark_perm (c : Char) (cs : List Char) : (insertMark c cs).Perm (c :: cs) := by
  induction cs with
  | nil => exact .refl _
  | cons d cs ih =>
    unfold insertMark
    split
    · exact (ih.cons d).trans (.swap c d cs)
    · exact .refl _

theorem orderMarks_perm (cs : List Char) : (orderMarks cs).Perm cs := by
  induction cs with
  | nil => exact .refl _
  | cons c cs ih => exact (insertMark_perm c _).trans (ih.cons c)

theorem expand_ne_nil (steps n : Nat) : expand steps n ≠ [] := by
  induction steps generalizing n with
  | zero => simp [expand]
  | succ steps ih =>
    unfold expand
    split
    · next parts split =>
      obtain ⟨part, parts', rfl⟩ : ∃ part parts', parts = part :: parts' := by
        refine List.exists_cons_of_ne_nil ?_
        rcases covers_of_split? split with ⟨m, -, rfl⟩ | ⟨-, nonempty, -⟩
        · simp
        · exact nonempty
      simp [ih part]
    · simp

/-- A property of characters that the canonical form keeps: the letters have it that are taken
apart and put together, and what is replaced passes it on. -/
structure IsKept (p : Char → Prop) : Prop where
  letter : ∀ ⦃n⦄, covers letterRanges n = true → p (Char.ofNat n)
  moved : ∀ q ∈ replaced, p (Char.ofNat q.1) → p (Char.ofNat q.2)

namespace IsKept

variable {p : Char → Prop} (kept : IsKept p)

include kept

theorem of_mem_expand {steps n m : Nat} (holds : p (Char.ofNat n)) (mem : m ∈ expand steps n) :
    p (Char.ofNat m) := by
  induction steps generalizing n with
  | zero =>
    obtain rfl := List.mem_singleton.1 mem
    exact holds
  | succ steps ih =>
    unfold expand at mem
    split at mem
    · next parts split =>
      obtain ⟨part, listed, inside⟩ := List.mem_flatMap.1 mem
      rcases covers_of_split? split with ⟨m', exception, rfl⟩ | ⟨-, -, covered⟩
      · obtain rfl := List.mem_singleton.1 listed
        exact ih (kept.moved _ exception holds) inside
      · exact ih (kept.letter (covered part listed)) inside
    · obtain rfl := List.mem_singleton.1 mem
      exact holds

theorem of_mem_composeFrom {base : Char} {held cs : List Char} (first : p base)
    (marks : ∀ c ∈ held, p c) (holds : ∀ c ∈ cs, p c) : ∀ c ∈ composeFrom base held cs, p c := by
  induction cs generalizing base held with
  | nil => exact List.forall_mem_cons.2 ⟨first, marks⟩
  | cons c cs ih =>
    obtain ⟨holdsC, holds⟩ := List.forall_mem_cons.1 holds
    unfold composeFrom
    split
    · next joined join =>
      refine ih ?_ marks holds
      split at join
      · obtain ⟨-, -, n, covered, rfl⟩ := covers_of_join? join
        exact kept.letter covered
      · cases join
    · split
      · refine List.forall_mem_append.2 ⟨List.forall_mem_cons.2 ⟨first, marks⟩, ?_⟩
        exact ih holdsC (List.forall_mem_nil _) holds
      · refine ih first ?_ holds
        exact List.forall_mem_append.2 ⟨marks, by simpa using holdsC⟩

theorem of_mem_compose {cs : List Char} (holds : ∀ c ∈ cs, p c) : ∀ c ∈ compose cs, p c := by
  induction cs with
  | nil => exact holds
  | cons c cs ih =>
    obtain ⟨first, rest⟩ := List.forall_mem_cons.1 holds
    unfold compose
    split
    · exact kept.of_mem_composeFrom first (List.forall_mem_nil _) rest
    · exact List.forall_mem_cons.2 ⟨first, ih rest⟩

theorem of_mem_canonical {cs : List Char} (holds : ∀ c ∈ cs, p c) :
    ∀ c ∈ canonical cs, p c := by
  rw [canonical_eq_recompose]
  refine kept.of_mem_compose fun c mem => ?_
  obtain ⟨d, listed, taken⟩ := List.mem_flatMap.1 ((orderMarks_perm _).mem_iff.1 mem)
  obtain ⟨m, part, rfl⟩ := List.mem_map.1 taken
  refine kept.of_mem_expand (n := d.toNat) ?_ part
  rw [Char.ofNat_toNat]
  exact holds d listed

/-- What is put together begins with the character that comes first or with a letter. -/
theorem exists_first_of_composeFrom {base : Char} (first : p base) (held cs : List Char) :
    ∃ d rest, composeFrom base held cs = d :: rest ∧ p d := by
  induction cs generalizing base held with
  | nil => exact ⟨base, held, rfl, first⟩
  | cons c cs ih =>
    unfold composeFrom
    split
    · next joined join =>
      refine ih ?_ held
      split at join
      · obtain ⟨-, -, n, covered, rfl⟩ := covers_of_join? join
        exact kept.letter covered
      · cases join
    · split
      · exact ⟨base, _, rfl, first⟩
      · exact ih first (held ++ [c])

theorem exists_first_of_canonical {c : Char} (whole : decompose c = [c])
    (base : combiningClass c = 0) (first : p c) (rest : List Char) :
    ∃ d rest', canonical (c :: rest) = d :: rest' ∧ p d := by
  have begins : canonical (c :: rest) = composeFrom c [] (orderMarks (rest.flatMap decompose)) := by
    rw [canonical_eq_recompose, recompose, List.flatMap_cons, whole, List.singleton_append,
      orderMarks_cons base, compose, if_pos base]
  rw [begins]
  exact kept.exists_first_of_composeFrom first [] _

end IsKept

theorem isKept_isPlain : IsKept fun c => isPlain c = true where
  letter n covered := isPlain_ofNat covered
  moved q mem plain := by
    -- what is replaced is no plain character
    have signs : ∀ q ∈ replaced, isPlain (Char.ofNat q.1) = false := by decide
    rw [signs q mem] at plain
    cases plain

/-- A text without signs and blanks has none in its canonical form. -/
theorem forall_isPlain_canonical {cs : List Char} (plain : ∀ c ∈ cs, isPlain c = true) :
    ∀ c ∈ canonical cs, isPlain c = true :=
  isKept_isPlain.of_mem_canonical plain

/-- A character that is no letter comes about only where one is replaced by it. -/
theorem isKept_ne {c : Char} (apart : covers letterRanges c.toNat = false)
    (other : ∀ q ∈ replaced, Char.ofNat q.2 ≠ c) (nonzero : c ≠ '\x00') : IsKept (· ≠ c) where
  letter n covered := by
    rintro rfl
    by_cases valid : n.isValidChar
    · rw [toNat_ofNat valid, covered] at apart
      cases apart
    · rw [Char.ofNat, dif_neg valid] at nonzero
      exact nonzero rfl
  moved q mem _ := other q mem

/-- Digits come about from nothing else. -/
theorem isKept_not_digit : IsKept fun c => isDecimalDigit c = false where
  letter n covered := by
    cases digit : isDecimalDigit (Char.ofNat n) with
    | false => rfl
    | true =>
      have apart := covers_of_isDecimalDigit digit
      by_cases valid : n.isValidChar
      · rw [toNat_ofNat valid, covered] at apart
        cases apart
      · rw [Char.ofNat, dif_neg valid] at digit
        cases digit
  moved q mem _ := by
    have others : ∀ q ∈ replaced, isDecimalDigit (Char.ofNat q.2) = false := by decide
    exact others q mem

theorem composeFrom_ne_nil (base : Char) (held cs : List Char) : composeFrom base held cs ≠ [] := by
  have kept : IsKept fun _ => True := ⟨fun _ _ => trivial, fun _ _ _ => trivial⟩
  obtain ⟨d, rest, begins, -⟩ : ∃ d rest, composeFrom base held cs = d :: rest ∧ True :=
    kept.exists_first_of_composeFrom trivial held cs
  rw [begins]
  exact List.cons_ne_nil d rest

/-- Nothing disappears altogether. -/
theorem canonical_ne_nil {cs : List Char} (nonempty : cs ≠ []) : canonical cs ≠ [] := by
  obtain ⟨c, rest, rfl⟩ := List.exists_cons_of_ne_nil nonempty
  have taken : orderMarks ((c :: rest).flatMap decompose) ≠ [] := by
    rw [← List.length_pos_iff, (orderMarks_perm _).length_eq, List.length_pos_iff]
    simp [decompose, expand_ne_nil]
  rw [canonical_eq_recompose, recompose]
  obtain ⟨d, rest', ordered⟩ := List.exists_cons_of_ne_nil taken
  rw [ordered, compose]
  split
  · exact composeFrom_ne_nil d [] rest'
  · simp

end Metrology.Text
