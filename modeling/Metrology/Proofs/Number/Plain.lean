import Mathlib.Data.Nat.Cast.Field
import Metrology.Proofs.Number.Integer
import Metrology.Proofs.Number.ShownValue
import Metrology.Proofs.Symbol

/-!
# Plain decimal texts

A plain decimal text is a sign, which may be missing, digits, and perhaps a point and more digits
(`IsPlain`). Numbers are printed as such texts (`isPlain_plain`), and such a text is read as the
number that it stands for, whatever blanks surround it (`ofText?_of_isPlain`).
-/

namespace Metrology.Number

open Text

/-! ## The texts -/

/-- Digits, and perhaps a point and more digits, with the number that they stand for. -/
inductive IsUnsigned : List Char → Rat → Prop
  | whole {digits : List Char} (nonempty : digits ≠ [])
      (all : ∀ c ∈ digits, c.isDigit = true) : IsUnsigned digits (Nat.ofDigitChars 10 digits 0)
  | fraction {whole part : List Char} (nonempty : whole ≠ [])
      (all : ∀ c ∈ whole ++ part, c.isDigit = true) :
      IsUnsigned (whole ++ '.' :: part) (Nat.ofDigitChars 10 (whole ++ part) 0 / 10 ^ part.length)

/-- A plain decimal text, with the number that it stands for. -/
inductive IsPlain : List Char → Rat → Prop
  | positive {cs : List Char} {q : Rat} (h : IsUnsigned cs q) : IsPlain cs q
  | negative {cs : List Char} {q : Rat} (h : IsUnsigned cs q) : IsPlain ('-' :: cs) (-q)

variable {cs after : List Char} {q : Rat}

theorem isDecimalDigit_of_isDigit {c : Char} (digit : c.isDigit = true) :
    isDecimalDigit c = true := by
  rw [isDecimalDigit, digitValue?_of_isDigit digit]
  rfl

/-- A number begins with a digit. -/
theorem IsUnsigned.head (h : IsUnsigned cs q) :
    ∃ c rest, cs = c :: rest ∧ isDecimalDigit c = true := by
  cases h with
  | whole nonempty all =>
    obtain ⟨c, rest, rfl⟩ := List.exists_cons_of_ne_nil nonempty
    exact ⟨c, rest, rfl, isDecimalDigit_of_isDigit (all c List.mem_cons_self)⟩
  | fraction nonempty all =>
    obtain ⟨c, rest, rfl⟩ := List.exists_cons_of_ne_nil nonempty
    exact ⟨c, _, rfl, isDecimalDigit_of_isDigit (all c List.mem_cons_self)⟩

/-- The characters of plain decimal texts. -/
theorem IsPlain.characters (h : IsPlain cs q) :
    ∀ c ∈ cs, c = '-' ∨ c = '.' ∨ isDecimalDigit c = true := by
  have unsigned {cs : List Char} {q : Rat} (h : IsUnsigned cs q) :
      ∀ c ∈ cs, c = '.' ∨ isDecimalDigit c = true := by
    intro c mem
    cases h with
    | whole nonempty all => exact .inr (isDecimalDigit_of_isDigit (all c mem))
    | fraction nonempty all =>
      rcases List.mem_append.1 mem with mem | mem
      · exact .inr (isDecimalDigit_of_isDigit (all c (List.mem_append_left _ mem)))
      · rcases List.mem_cons.1 mem with same | mem
        · exact .inl same
        · exact .inr (isDecimalDigit_of_isDigit (all c (List.mem_append_right _ mem)))
  cases h with
  | positive h => exact fun c mem => .inr (unsigned h c mem)
  | negative h => exact List.forall_mem_cons.2 ⟨.inl rfl, fun c mem => .inr (unsigned h c mem)⟩

theorem IsPlain.ne_nil (h : IsPlain cs q) : cs ≠ [] := by
  cases h with
  | positive h =>
    obtain ⟨c, rest, rfl, -⟩ := h.head
    exact List.cons_ne_nil _ _
  | negative h => exact List.cons_ne_nil _ _

/-- Other characters than digits, the minus sign and the point do not occur in plain texts. -/
theorem IsPlain.not_mem (h : IsPlain cs q) {c : Char} (signs : c ≠ '-' ∧ c ≠ '.')
    (other : isDecimalDigit c = false) : c ∉ cs := by
  intro mem
  rcases h.characters c mem with same | same | digit
  · exact signs.1 same
  · exact signs.2 same
  · rw [digit] at other
    cases other

/-- No blank stands in a plain text. -/
theorem IsPlain.tight (h : IsPlain cs q) : Tight cs := by
  have solid : ∀ c ∈ cs, isBlank c = false := by
    intro c mem
    rcases h.characters c mem with rfl | rfl | digit
    · decide
    · decide
    · exact isBlank_of_isDecimalDigit digit
  refine ⟨fun c mem => solid c (List.mem_of_mem_head? mem), fun c mem => solid c ?_⟩
  exact List.mem_reverse.1 (List.mem_of_mem_head? mem)

/-! ## Printing -/

/-- A point may stand in front of the last `places` of many digits. -/
theorem isUnsigned_split {digits : List Char} {places : Nat}
    (all : ∀ c ∈ digits, c.isDigit = true) (long : places < digits.length) :
    IsUnsigned
      (if places = 0 then digits.take (digits.length - places)
        else digits.take (digits.length - places) ++ '.' :: digits.drop (digits.length - places))
      (Nat.ofDigitChars 10 digits 0 / 10 ^ places) := by
  have split := List.take_append_drop (digits.length - places) digits
  have nonempty : digits.take (digits.length - places) ≠ [] := by
    refine List.ne_nil_of_length_pos ?_
    rw [List.length_take]
    omega
  have last : (digits.drop (digits.length - places)).length = places := by
    rw [List.length_drop]
    omega
  by_cases none : places = 0
  · -- without places, all digits stand in front of where the point would be
    subst none
    have whole := IsUnsigned.whole nonempty fun c mem => all c (List.mem_of_mem_take mem)
    rw [List.eq_nil_of_length_eq_zero last, List.append_nil] at split
    rw [if_pos rfl, pow_zero, div_one]
    rwa [split] at whole ⊢
  · have decimal := IsUnsigned.fraction nonempty (by rwa [split])
    rw [if_neg none]
    rwa [split, last] at decimal

/-- Zeros in front of a printed number are digits too. -/
theorem isDigit_of_padded (zeros n : Nat) :
    ∀ c ∈ List.replicate zeros '0' ++ Nat.toDigits 10 n, c.isDigit = true := by
  intro c mem
  rcases List.mem_append.1 mem with mem | mem
  · rw [List.eq_of_mem_replicate mem]
    rfl
  · exact Nat.isDigit_of_mem_toDigits (by decide) (by decide) mem

/-- Zeros in front make the digits enough for a point with digits on both sides. -/
theorem lt_length_padded (places n : Nat) :
    places < (List.replicate (places + 1 - (Nat.toDigits 10 n).length) '0' ++
      Nat.toDigits 10 n).length := by
  rw [List.length_append, List.length_replicate]
  omega

theorem isUnsigned_plainDigits (n places : Nat) :
    IsUnsigned (plainDigits n places) (n / 10 ^ places) := by
  have printed := isUnsigned_split (isDigit_of_padded _ n) (lt_length_padded places n)
  rwa [Nat.ofDigitChars_append, Nat.ofDigitChars_replicate_zero, Nat.mul_zero,
    Nat.ofDigitChars_ten_toDigits] at printed

/-- There are places enough, so the division by the denominator leaves nothing. -/
theorem den_dvd_shifted {p : Nat} (ends : decimalPlaces? q = some p) :
    q.den ∣ q.num.natAbs * 10 ^ p :=
  (den_dvd_of_decimalPlaces? ends).mul_left _

theorem shifted_div_pow {p : Nat} (ends : decimalPlaces? q = some p) :
    ((q.num.natAbs * 10 ^ p / q.den : Nat) : Rat) / 10 ^ p = |q| := by
  have below : (q.den : Rat) ≠ 0 := by exact_mod_cast q.den_ne_zero
  have ten : (10 : Rat) ^ p ≠ 0 := pow_ne_zero p (by decide)
  rw [Nat.cast_div (den_dvd_shifted ends) below, Nat.cast_mul, ← abs_mul_den, Nat.cast_pow,
    Nat.cast_ofNat, mul_right_comm, mul_div_cancel_right₀ _ below, mul_div_cancel_right₀ _ ten]

/-- A number whose expansion ends is printed as a plain text that stands for it. -/
theorem isPlain_plain {p : Nat} (ends : decimalPlaces? q = some p) : IsPlain (plain q) q := by
  have digits := isUnsigned_plainDigits (q.num.natAbs * 10 ^ p / q.den) p
  rw [shifted_div_pow ends] at digits
  unfold plain
  rw [ends]
  dsimp only [Option.getD_some]
  split
  · next negative =>
    have minus := IsPlain.negative digits
    rwa [abs_of_neg (Rat.num_neg.1 negative), neg_neg] at minus
  · next positive =>
    rw [abs_of_nonneg (Rat.num_nonneg.1 (not_lt.1 positive))] at digits
    exact .positive digits

/-- The text of a number is plain. -/
theorem isPlain_format (precision : Nat) (x : Rat) :
    IsPlain (format precision x).toList (shownValue precision x) := by
  obtain ⟨p, ends⟩ := (ends_shownValue precision x).exists_decimalPlaces?
  rw [format, String.toList_ofList]
  exact isPlain_plain ends

/-! ## The last character -/

/-- The last place that is counted holds no zero. -/
theorem shifted_mod_ten_ne_zero {p : Nat} (ends : decimalPlaces? q = some p) (more : p ≠ 0) :
    q.num.natAbs * 10 ^ p / q.den % 10 ≠ 0 := by
  intro zero
  obtain ⟨k, rfl⟩ := Nat.exists_eq_succ_of_ne_zero more
  obtain ⟨n, quotient⟩ := den_dvd_shifted ends
  rw [quotient, Nat.mul_div_cancel_left n q.den_pos] at zero
  obtain ⟨t, rfl⟩ := Nat.dvd_of_mod_eq_zero zero
  -- a zero at the end could be left off, and then one place less would do
  have shorter : q.num.natAbs * 10 ^ k = q.den * t := by
    apply Nat.eq_of_mul_eq_mul_right (Nat.succ_pos 9)
    calc q.num.natAbs * 10 ^ k * 10 = q.num.natAbs * 10 ^ (k + 1) := by rw [mul_assoc, pow_succ]
      _ = q.den * (10 * t) := quotient
      _ = q.den * t * 10 := by rw [mul_assoc, mul_comm t]
  have fewer : q.den ∣ 10 ^ k := q.reduced.symm.dvd_of_dvd_mul_left ⟨t, shorter⟩
  have least := le_of_den_dvd ends fewer
  omega

/-- Digits and the separators between them. -/
def inRun (c : Char) : Bool := isDecimalDigit c || c == '_'

theorem inRun_of_isDigit {c : Char} (digit : c.isDigit = true) : inRun c = true := by
  rw [inRun, isDecimalDigit_of_isDigit digit, Bool.true_or]

theorem inRun_eq_false {c : Char} (h : inRun c = false) :
    isDecimalDigit c = false ∧ (c == '_') = false :=
  Bool.or_eq_false_iff.1 h

theorem digitGroups_cons_of_none {c : Char} (none : isDecimalDigit c = false) (rest : List Char) :
    digitGroups (c :: rest) = ([], c :: rest) := by
  have value : digitValue? c = .none := by simpa [isDecimalDigit] using none
  cases rest with
  | nil => simp only [digitGroups, value]
  | cons next rest => simp only [digitGroups, value]

theorem digitGroups_cons {c : Char} {d : Nat} (value : digitValue? c = some d)
    {rest : List Char} (joined : StopsAt (· == '_') rest) :
    digitGroups (c :: rest) = (d :: (digitGroups rest).1, (digitGroups rest).2) := by
  cases rest with
  | nil => simp only [digitGroups, value]
  | cons next rest =>
    have other : next ≠ '_' := by
      rintro rfl
      exact absurd (stopsAt_cons.1 joined) (by decide)
    simp only [digitGroups, value, if_neg other]

/-- Where digits are followed by neither a digit nor a separator, they are read one by one. -/
theorem digitGroups_append {digits : List Char} (all : ∀ c ∈ digits, c.isDigit = true)
    (stop : StopsAt inRun after) :
    digitGroups (digits ++ after) = (digits.map fun c => c.toNat - '0'.toNat, after) := by
  induction digits with
  | nil =>
    cases after with
    | nil => rfl
    | cons c rest => exact digitGroups_cons_of_none (inRun_eq_false (stopsAt_cons.1 stop)).1 rest
  | cons c digits ih =>
    obtain ⟨first, others⟩ := List.forall_mem_cons.1 all
    -- the next character is a digit again or stands behind all digits
    have joined : StopsAt (· == '_') (digits ++ after) := by
      intro d mem
      cases digits with
      | nil => exact (inRun_eq_false (stop d mem)).2
      | cons next digits =>
        cases mem
        refine beq_false_of_ne ?_
        rintro rfl
        exact absurd (others _ List.mem_cons_self) (by decide)
    rw [List.cons_append, digitGroups_cons (digitValue?_of_isDigit first) joined, ih others]
    rfl

/-- Digits that are followed by the end of the text. -/
theorem digitGroups_of_isDigit {digits : List Char} (all : ∀ c ∈ digits, c.isDigit = true) :
    digitGroups digits = (digits.map fun c => c.toNat - '0'.toNat, []) := by
  have read := digitGroups_append all (.nil _)
  rwa [List.append_nil] at read

theorem decimal_map (whole part : List Char) :
    decimal (whole.map fun c => c.toNat - '0'.toNat) (part.map fun c => c.toNat - '0'.toNat) 0 =
      Nat.ofDigitChars 10 (whole ++ part) 0 / 10 ^ part.length := by
  rw [decimal, ← List.map_append, positional_map, List.length_map, zero_sub, zpow_neg,
    zpow_natCast, ← div_eq_mul_inv]

theorem takeWhile_isDigitLetter {digits : List Char} (all : ∀ c ∈ digits, c.isDigit = true) :
    digits.takeWhile isDigitLetter = [] := by
  cases digits with
  | nil => rfl
  | cons c rest =>
    have digit := all c List.mem_cons_self
    refine List.takeWhile_cons_of_neg ?_
    intro letter
    simp only [isDigitLetter, Bool.or_eq_true, beq_iff_eq] at letter
    rcases letter with rfl | rfl
    · exact absurd digit (by decide)
    · exact absurd digit (by decide)

theorem unsigned_of_isUnsigned (h : IsUnsigned cs q) : unsigned cs = some (.ok q, []) := by
  cases h with
  | whole nonempty all =>
    have value := decimal_map cs []
    rw [List.append_nil, List.length_nil, pow_zero, div_one] at value
    obtain ⟨c, rest, rfl⟩ := List.exists_cons_of_ne_nil nonempty
    rw [← value, unsigned, digitGroups_of_isDigit all]
    rfl
  | @fraction whole part nonempty all =>
    obtain ⟨front, behind⟩ := List.forall_mem_append.1 all
    have value := decimal_map whole part
    have read : digitGroups (whole ++ '.' :: part) = (_, '.' :: part) :=
      digitGroups_append front (stopsAt_cons.2 (by decide))
    obtain ⟨c, rest, rfl⟩ := List.exists_cons_of_ne_nil nonempty
    rw [← value, unsigned, read]
    simp only [List.map_cons, takeWhile_isDigitLetter behind, digitGroups_of_isDigit behind,
      exponent]

theorem readRat_of_isPlain (h : IsPlain cs q) : readRat cs = .ok q := by
  unfold readRat
  rw [skipBlanks_of_stopsAt h.tight.front]
  cases h with
  | positive h =>
    obtain ⟨c, rest, rfl, digit⟩ := h.head
    simp only [sign_of_isDecimalDigit digit, unsigned_of_isUnsigned h]
    rfl
  | negative h =>
    simp only [sign, unsigned_of_isUnsigned h]
    rfl

/-- A plain text is read as the number that it stands for; blanks behind it do not count. -/
theorem ofText?_of_isPlain (h : IsPlain cs q) {blanks : List Char} (hblanks : Blanks blanks) :
    ofText? (String.ofList (cs ++ blanks)) = some q := by
  have absent : '_' ∉ cs := h.not_mem (by decide) (by decide)
  have kept : cs.filter (· ≠ '_') = cs :=
    List.filter_eq_self.2 fun c mem => decide_eq_true fun same => absent (same ▸ mem)
  rw [ofText?, String.toList_ofList, h.tight.trim_append h.ne_nil hblanks, kept,
    readRat_of_isPlain h]
  rfl

end Metrology.Number
