import Metrology.Number.Literal
import Metrology.Proofs.Text.Runs

/-!
# Integers as they are written

The text of an integer without blanks or separators: a sign, which may be missing, and digits.
Such a text stands for one integer (`IsInteger.unique`), readers of longer literals agree on it
(`eq_of_isInteger`), and printing an integer makes one (`isInteger_toString`).
-/

namespace Metrology.Number

open Text

/-- The integer that a run of digits stands for behind its sign. -/
def signedValue (negative : Bool) (run : List Nat) : Int :=
  if negative then -(positional run : Int) else positional run

/-- A text of a sign, which may be missing, and decimal digits spells an integer. -/
def IsInteger (cs : List Char) (n : Int) : Prop :=
  ∃ run, digitRun (sign cs).2 = (run, []) ∧ run ≠ [] ∧ n = signedValue (sign cs).1 run

theorem IsInteger.unique {cs : List Char} {m n : Int} (hm : IsInteger cs m)
    (hn : IsInteger cs n) : m = n := by
  obtain ⟨run, read, -, rfl⟩ := hm
  obtain ⟨run', read', -, rfl⟩ := hn
  rw [read] at read'
  rw [(Prod.mk.inj read').1]

/-! ## Runs of digits -/

theorem digitRun_cons {c : Char} {d : Nat} (value : digitValue? c = some d) (rest : List Char) :
    digitRun (c :: rest) = (d :: (digitRun rest).1, (digitRun rest).2) := by
  simp only [digitRun, value]

theorem digitRun_cons_of_none {c : Char} (value : digitValue? c = none) (rest : List Char) :
    digitRun (c :: rest) = ([], c :: rest) := by
  simp only [digitRun, value]

/-- Digits with their values, one by one. -/
theorem digitRun_of_mapM {digits : List Char} {run : List Nat}
    (values : digits.mapM digitValue? = some run) : digitRun digits = (run, []) := by
  induction digits generalizing run with
  | nil =>
    cases values
    rfl
  | cons c digits ih =>
    simp only [List.mapM_cons, Option.bind_eq_bind, Option.bind_eq_some_iff,
      Option.pure_def] at values
    obtain ⟨v, value, rest, values, same⟩ := values
    cases same
    rw [digitRun_cons value, ih values]

/-- A run that takes a whole text takes digits only. -/
theorem isDecimalDigit_of_digitRun {cs : List Char} {run : List Nat}
    (read : digitRun cs = (run, [])) : ∀ c ∈ cs, isDecimalDigit c = true := by
  induction cs generalizing run with
  | nil => exact List.forall_mem_nil _
  | cons c cs ih =>
    cases value : digitValue? c with
    | none =>
      rw [digitRun_cons_of_none value] at read
      cases (Prod.mk.inj read).2
    | some d =>
      rw [digitRun_cons value] at read
      have rest : digitRun cs = ((digitRun cs).1, []) := by rw [← (Prod.mk.inj read).2]
      exact List.forall_mem_cons.2 ⟨by simp [isDecimalDigit, value], ih rest⟩

/-- The run in front of a text, which stands for itself. -/
theorem exists_of_digitRun (cs : List Char) :
    ∃ digits, cs = digits ++ (digitRun cs).2 ∧ digitRun digits = ((digitRun cs).1, []) := by
  induction cs with
  | nil => exact ⟨[], rfl, rfl⟩
  | cons c cs ih =>
    cases value : digitValue? c with
    | none => exact ⟨[], by rw [digitRun_cons_of_none value]; rfl, by
        rw [digitRun_cons_of_none value]; rfl⟩
    | some d =>
      obtain ⟨digits, front, read⟩ := ih
      refine ⟨c :: digits, ?_, ?_⟩
      · rw [digitRun_cons value, List.cons_append, ← front]
      · rw [digitRun_cons value, digitRun_cons value, read]

/-- What a sign leaves of a text. -/
theorem sign_cases (cs : List Char) :
    (∃ rest, cs = '-' :: rest ∧ sign cs = (true, rest)) ∨
      (∃ rest, cs = '+' :: rest ∧ sign cs = (false, rest)) ∨ sign cs = (false, cs) := by
  unfold sign
  split
  · exact .inl ⟨_, rfl, rfl⟩
  · exact .inr (.inl ⟨_, rfl, rfl⟩)
  · exact .inr (.inr rfl)

/-- Digits behind a sign are no sign. -/
theorem sign_of_isDecimalDigit {c : Char} (digit : isDecimalDigit c = true) (rest : List Char) :
    sign (c :: rest) = (false, c :: rest) := by
  rcases sign_cases (c :: rest) with ⟨_, same, -⟩ | ⟨_, same, -⟩ | unsigned
  · obtain ⟨rfl, -⟩ := List.cons.inj same
    cases digit
  · obtain ⟨rfl, -⟩ := List.cons.inj same
    cases digit
  · exact unsigned

/-- The characters of integers. -/
theorem IsInteger.characters {cs : List Char} {n : Int} (h : IsInteger cs n) :
    cs ≠ [] ∧ ∀ c ∈ cs, c = '-' ∨ c = '+' ∨ isDecimalDigit c = true := by
  obtain ⟨run, read, nonempty, -⟩ := h
  have digits := isDecimalDigit_of_digitRun read
  refine ⟨?_, ?_⟩
  · rintro rfl
    cases (Prod.mk.inj read).1
    exact nonempty rfl
  · rcases sign_cases cs with ⟨rest, rfl, same⟩ | ⟨rest, rfl, same⟩ | same
    · rw [same] at digits
      exact List.forall_mem_cons.2 ⟨.inl rfl, fun c mem => .inr (.inr (digits c mem))⟩
    · rw [same] at digits
      exact List.forall_mem_cons.2 ⟨.inr (.inl rfl), fun c mem => .inr (.inr (digits c mem))⟩
    · rw [same] at digits
      exact fun c mem => .inr (.inr (digits c mem))

/-- A text that goes on behind its sign and digits has an integer in front. -/
theorem exists_isInteger {cs : List Char} {run : List Nat} {after : List Char}
    (read : digitRun (sign cs).2 = (run, after)) (nonempty : run ≠ []) :
    ∃ front, cs = front ++ after ∧ IsInteger front (signedValue (sign cs).1 run) := by
  obtain ⟨digits, split, alone⟩ := exists_of_digitRun (sign cs).2
  rw [read] at split alone
  rcases sign_cases cs with ⟨rest, rfl, same⟩ | ⟨rest, rfl, same⟩ | same
  · rw [same] at split ⊢
    exact ⟨'-' :: digits, congrArg ('-' :: ·) split, run, alone, nonempty, rfl⟩
  · rw [same] at split ⊢
    exact ⟨'+' :: digits, congrArg ('+' :: ·) split, run, alone, nonempty, rfl⟩
  · rw [same] at split ⊢
    refine ⟨digits, split, run, ?_⟩
    obtain ⟨c, rest, rfl⟩ : ∃ c rest, digits = c :: rest := by
      refine List.exists_cons_of_ne_nil ?_
      rintro rfl
      exact nonempty (Prod.mk.inj alone).1.symm
    have first := isDecimalDigit_of_digitRun alone c List.mem_cons_self
    rw [sign_of_isDecimalDigit first]
    exact ⟨alone, nonempty, rfl⟩

theorem isBlank_of_isDecimalDigit {c : Char} (digit : isDecimalDigit c = true) :
    isBlank c = false := by
  cases blank : isBlank c with
  | false => rfl
  | true =>
    have none := isDigitSign_of_isBlank blank
    rw [isDigitSign_of_isDecimalDigit digit] at none
    cases none

/-- No character of an integer belongs to a class that holds neither signs nor digits. -/
theorem IsInteger.not_class {cs : List Char} {n : Int} (h : IsInteger cs n) {p : Char → Bool}
    (signs : p '-' = false ∧ p '+' = false)
    (digits : ∀ c, isDecimalDigit c = true → p c = false) : ∀ c ∈ cs, p c = false := by
  intro c mem
  rcases h.characters.2 c mem with rfl | rfl | digit
  · exact signs.1
  · exact signs.2
  · exact digits c digit

theorem IsInteger.solid {cs : List Char} {n : Int} (h : IsInteger cs n) :
    ∀ c ∈ cs, isBlank c = false :=
  h.not_class (by decide) fun _ => isBlank_of_isDecimalDigit

theorem isBaseChar_of_isDecimalDigit {c : Char} (digit : isDecimalDigit c = true) :
    Label.isBaseChar c = true := by
  have raised : Label.isSuperscript c = false := by
    cases high : Label.isSuperscript c with
    | false => rfl
    | true =>
      rw [isDecimalDigit_of_isSuperscript high] at digit
      cases digit
  have signs : ∀ d ∈ ['*', '/', '·', '^', '(', ')'], c ≠ d := by
    have none : ['*', '/', '·', '^', '(', ')'].any isDecimalDigit = false := by decide
    rintro d mem rfl
    exact List.any_eq_false.1 none c mem digit
  simp [Label.isBaseChar, signs, raised, isBlank_of_isDecimalDigit digit]

/-- The characters of an integer may stand in names, as far as labels go. -/
theorem IsInteger.isBaseChar {cs : List Char} {n : Int} (h : IsInteger cs n) :
    ∀ c ∈ cs, Label.isBaseChar c = true := by
  intro c mem
  rcases h.characters.2 c mem with rfl | rfl | digit
  · decide
  · decide
  · exact isBaseChar_of_isDecimalDigit digit

/-- A sign, which may be missing, in front of digits makes an integer. -/
theorem isInteger_of_digits {sign digits : List Char} {run : List Nat}
    (hsign : sign = [] ∨ sign = ['+'] ∨ sign = ['-']) (nonempty : digits ≠ [])
    (values : digits.mapM digitValue? = some run) :
    IsInteger (sign ++ digits) (signedValue (sign = ['-']) run) := by
  have alone := digitRun_of_mapM values
  obtain ⟨c, rest, rfl⟩ := List.exists_cons_of_ne_nil nonempty
  have first := isDecimalDigit_of_digitRun alone c List.mem_cons_self
  have filled : run ≠ [] := by
    rintro rfl
    obtain ⟨d, value⟩ := Option.isSome_iff_exists.1 first
    rw [digitRun_cons value] at alone
    cases (Prod.mk.inj alone).1
  refine ⟨run, ?_, filled, ?_⟩
  -- without a sign, the first digit is not taken for one
  all_goals rcases hsign with rfl | rfl | rfl
  · rwa [List.nil_append, sign_of_isDecimalDigit first]
  · exact alone
  · exact alone
  · rw [List.nil_append, sign_of_isDecimalDigit first]
    rfl
  · rfl
  · rfl

/-! ## Printed integers -/

theorem digitValue?_of_isDigit {c : Char} (digit : c.isDigit = true) :
    digitValue? c = some (c.toNat - '0'.toNat) := by
  have range : 0x30 ≤ c.toNat ∧ c.toNat ≤ 0x39 := by
    simpa [Char.isDigit, UInt32.le_iff_toNat_le] using digit
  unfold digitValue?
  rw [if_pos (by omega), if_pos range]
  rfl

theorem mapM_digitValue? {cs : List Char} (digits : ∀ c ∈ cs, c.isDigit = true) :
    cs.mapM digitValue? = some (cs.map fun c => c.toNat - '0'.toNat) := by
  induction cs with
  | nil => rfl
  | cons c cs ih =>
    obtain ⟨first, rest⟩ := List.forall_mem_cons.1 digits
    rw [List.mapM_cons, digitValue?_of_isDigit first, ih rest]
    rfl

theorem digitRun_of_isDigit {cs : List Char} (digits : ∀ c ∈ cs, c.isDigit = true) :
    digitRun cs = (cs.map fun c => c.toNat - '0'.toNat, []) :=
  digitRun_of_mapM (mapM_digitValue? digits)

theorem positional_map (cs : List Char) :
    positional (cs.map fun c => c.toNat - '0'.toNat) = Nat.ofDigitChars 10 cs 0 := by
  rw [positional, List.foldl_map, Nat.ofDigitChars]

theorem digitRun_repr (n : Nat) :
    ∃ run, digitRun (Nat.toDigits 10 n) = (run, []) ∧ run ≠ [] ∧ positional run = n := by
  have digits : ∀ c ∈ Nat.toDigits 10 n, c.isDigit = true := fun c mem =>
    Nat.isDigit_of_mem_toDigits (by decide) (by decide) mem
  refine ⟨_, digitRun_of_isDigit digits, ?_, ?_⟩
  · simp
  · rw [positional_map, Nat.ofDigitChars_ten_toDigits]

theorem sign_toDigits (n : Nat) : sign (Nat.toDigits 10 n) = (false, Nat.toDigits 10 n) := by
  obtain ⟨run, read, nonempty, -⟩ := digitRun_repr n
  have digits := isDecimalDigit_of_digitRun read
  cases printed : Nat.toDigits 10 n with
  | nil => rfl
  | cons c rest =>
    rw [printed] at digits
    exact sign_of_isDecimalDigit (digits c List.mem_cons_self) rest

/-- An integer is printed as a text that spells it. -/
theorem isInteger_toString (n : Int) : IsInteger (toString n).toList n := by
  rw [Int.toString_eq_repr, Int.repr_eq_if]
  split
  · next above =>
    obtain ⟨run, read, nonempty, value⟩ := digitRun_repr n.toNat
    rw [Nat.toList_repr]
    refine ⟨run, ?_, nonempty, ?_⟩
    · rw [sign_toDigits, read]
    · rw [sign_toDigits, signedValue, if_neg Bool.false_ne_true, value]
      omega
  · next below =>
    obtain ⟨run, read, nonempty, value⟩ := digitRun_repr (-n).toNat
    rw [String.toList_append, Nat.toList_repr]
    refine ⟨run, read, nonempty, ?_⟩
    have printed : signedValue true run = -(positional run : Int) := rfl
    change n = signedValue true run
    rw [printed, value]
    omega

/-! ## Longer literals -/

/-- Where nothing but digits stands, no separator is read. -/
theorem digitGroups_of_digitRun {cs : List Char} {run : List Nat} (read : digitRun cs = (run, [])) :
    digitGroups cs = (run, []) := by
  have digits := isDecimalDigit_of_digitRun read
  induction cs generalizing run with
  | nil =>
    cases read
    rfl
  | cons c cs ih =>
    obtain ⟨first, rest⟩ := List.forall_mem_cons.1 digits
    obtain ⟨d, value⟩ := Option.isSome_iff_exists.1 first
    rw [digitRun_cons value] at read
    obtain ⟨rfl, done⟩ := Prod.mk.inj read
    have tail : digitRun cs = ((digitRun cs).1, []) := by rw [← done]
    have inner := ih tail rest
    cases cs with
    | nil => simp only [digitGroups, value, digitRun]
    | cons next cs =>
      have other : next ≠ '_' := by
        rintro rfl
        cases rest _ List.mem_cons_self
      simp only [digitGroups, value, if_neg other, inner]

/-- A text without blanks or separators that spells an integer is read as this integer. -/
theorem integer?_of_isInteger {cs : List Char} {n : Int} (h : IsInteger cs n) :
    integer? (String.ofList cs) = some n := by
  obtain ⟨run, digits, nonempty, rfl⟩ := id h
  have solid : ∀ c ∈ cs, isNumeralMargin c = false := by
    intro c mem
    simp [isNumeralMargin, h.solid c mem]
  -- an integer has no blanks around it, so nothing is cut off
  have whole : withoutMargin cs = cs := by
    have kept {cs : List Char} (solid : ∀ c ∈ cs, isNumeralMargin c = false) :
        cs.dropWhile isNumeralMargin = cs := by
      cases cs with
      | nil => rfl
      | cons c cs => simp [solid c List.mem_cons_self]
    rw [withoutMargin, kept solid, kept (by simpa using solid), List.reverse_reverse]
  unfold integer?
  rw [String.toList_ofList, whole]
  dsimp only
  rw [digitGroups_of_digitRun digits]
  cases run with
  | nil => exact absurd rfl nonempty
  | cons d run => rfl

/-- A literal that is read as an integer, and is one without blanks or separators, is this one. -/
theorem eq_of_isInteger {cs : List Char} {m n : Int} (h : IsInteger cs n)
    (read : integer? (String.ofList cs) = some m) : m = n := by
  rw [integer?_of_isInteger h] at read
  exact (Option.some.inj read).symm

end Metrology.Number
