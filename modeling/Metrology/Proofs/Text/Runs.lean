import Metrology.Label
import Metrology.Text.Blank

/-!
# Runs of characters

A run of characters of one class, in front of a text in which the class does not go on, is what
taking and dropping while the class lasts cut off (`takeWhile_append_of_stopsAt`). Blanks are
such a class. There are finitely many of them, so what is to be known of every blank can be
looked up (`forall_isBlank`): none is a digit sign or a superscript. The same goes for superscripts
(`forall_isSuperscript`).
-/

namespace Metrology.Text

/-! ## Where a run ends -/

/-- No character of a class comes next. -/
def StopsAt (p : Char → Bool) (after : List Char) : Prop := ∀ c ∈ after.head?, p c = false

theorem StopsAt.nil (p : Char → Bool) : StopsAt p [] := by
  intro c mem
  cases mem

theorem stopsAt_cons {p : Char → Bool} {c : Char} {rest : List Char} :
    StopsAt p (c :: rest) ↔ p c = false := by
  simp [StopsAt]

/-- One character decides it. The instance for bounded quantifiers would go through every
character there is. -/
instance (p : Char → Bool) : (after : List Char) → Decidable (StopsAt p after)
  | [] => isTrue (.nil p)
  | c :: _ => decidable_of_iff (p c = false) stopsAt_cons.symm

/-- What stands behind a text that is not empty does not come next. -/
theorem stopsAt_append {p : Char → Bool} {front : List Char} (nonempty : front ≠ [])
    (after : List Char) : StopsAt p (front ++ after) ↔ StopsAt p front := by
  cases front with
  | nil => exact absurd rfl nonempty
  | cons c front => rw [List.cons_append, stopsAt_cons, stopsAt_cons]

theorem StopsAt.congr_append {p : Char → Bool} {front after : List Char}
    (h : StopsAt p (front ++ after)) (nonempty : front ≠ []) (after' : List Char) :
    StopsAt p (front ++ after') :=
  (stopsAt_append nonempty after').2 ((stopsAt_append nonempty after).1 h)

theorem takeWhile_append_of_stopsAt {p : Char → Bool} {run after : List Char}
    (all : ∀ c ∈ run, p c = true) (stop : StopsAt p after) :
    (run ++ after).takeWhile p = run := by
  rw [List.takeWhile_append_of_pos all]
  cases after with
  | nil => simp
  | cons c after => simp [stopsAt_cons.1 stop]

theorem dropWhile_append_of_stopsAt {p : Char → Bool} {run after : List Char}
    (all : ∀ c ∈ run, p c = true) (stop : StopsAt p after) :
    (run ++ after).dropWhile p = after := by
  rw [List.dropWhile_append_of_pos all]
  cases after with
  | nil => rfl
  | cons c after => simp [stopsAt_cons.1 stop]

/-- A run in front of a text in which its class does not go on is unique. -/
theorem run_unique {p : Char → Bool} {run run' rest rest' : List Char}
    (inside : ∀ c ∈ run, p c = true) (inside' : ∀ c ∈ run', p c = true) (stop : StopsAt p rest)
    (stop' : StopsAt p rest') (same : run ++ rest = run' ++ rest') : run = run' := by
  have taken := congrArg (List.takeWhile p) same
  rwa [takeWhile_append_of_stopsAt inside stop, takeWhile_append_of_stopsAt inside' stop'] at taken

theorem stopsAt_dropWhile (p : Char → Bool) (cs : List Char) : StopsAt p (cs.dropWhile p) := by
  intro c mem
  have stops := List.head?_dropWhile_not p cs
  rw [mem] at stops
  simpa using stops

theorem forall_takeWhile (p : Char → Bool) (cs : List Char) : ∀ c ∈ cs.takeWhile p, p c = true :=
  fun c mem => List.all_eq_true.1 List.all_takeWhile c mem

/-! ## Blanks -/

/-- A run of blanks, which may be empty. -/
def Blanks (cs : List Char) : Prop := ∀ c ∈ cs, isBlank c = true

theorem Blanks.nil : Blanks [] := by
  intro c mem
  cases mem

theorem Blanks.append {a b : List Char} (ha : Blanks a) (hb : Blanks b) : Blanks (a ++ b) := by
  intro c mem
  rcases List.mem_append.1 mem with mem | mem
  · exact ha c mem
  · exact hb c mem

theorem Blanks.reverse {cs : List Char} (h : Blanks cs) : Blanks cs.reverse :=
  fun c mem => h c (List.mem_reverse.1 mem)

theorem Blanks.of_cons {c : Char} {cs : List Char} (h : Blanks (c :: cs)) :
    isBlank c = true ∧ Blanks cs :=
  ⟨h c List.mem_cons_self, fun d mem => h d (List.mem_cons_of_mem c mem)⟩

theorem skipBlanks_append {blanks : List Char} (h : Blanks blanks) (cs : List Char) :
    skipBlanks (blanks ++ cs) = skipBlanks cs :=
  List.dropWhile_append_of_pos h

theorem skipBlanks_of_blanks {blanks : List Char} (h : Blanks blanks) : skipBlanks blanks = [] := by
  have skipped := skipBlanks_append h []
  rwa [List.append_nil] at skipped

/-- What is skipped in front of a text is a run of blanks. -/
theorem exists_blanks (cs : List Char) :
    ∃ blanks, Blanks blanks ∧ cs = blanks ++ skipBlanks cs := by
  exact ⟨cs.takeWhile isBlank, forall_takeWhile isBlank cs, List.takeWhile_append_dropWhile.symm⟩

theorem skipBlanks_eq_nil_iff {cs : List Char} : skipBlanks cs = [] ↔ Blanks cs := by
  refine ⟨fun none => ?_, skipBlanks_of_blanks⟩
  obtain ⟨blanks, hblanks, whole⟩ := exists_blanks cs
  rw [none, List.append_nil] at whole
  exact whole ▸ hblanks

/-- Where more than blanks comes first, only the blanks in it are skipped. -/
theorem skipBlanks_append_of_not {front : List Char} (h : ¬ Blanks front) (rest : List Char) :
    skipBlanks (front ++ rest) = skipBlanks front ++ rest := by
  rw [skipBlanks, List.dropWhile_append, if_neg]
  · rfl
  · rw [List.isEmpty_iff]
    exact mt skipBlanks_eq_nil_iff.1 h

theorem skipBlanksRight_append_of_not {rest : List Char} (h : ¬ Blanks rest) (front : List Char) :
    skipBlanksRight (front ++ rest) = front ++ skipBlanksRight rest := by
  have turned : ¬ Blanks rest.reverse := fun blanks => h (by simpa using blanks.reverse)
  rw [skipBlanksRight, List.reverse_append, skipBlanks_append_of_not turned, List.reverse_append,
    List.reverse_reverse]
  rfl

theorem isBlank_of_skipBlanks_eq_cons {cs rest : List Char} {c : Char}
    (h : skipBlanks cs = c :: rest) : isBlank c = false := by
  have stops := List.head?_dropWhile_not isBlank cs
  rw [skipBlanks] at h
  rw [h] at stops
  simpa using stops

/-- Blanks that belong to no run of a class may stand in front of where the run has ended. -/
theorem StopsAt.of_blanks {p : Char → Bool} (none : ∀ c, isBlank c = true → p c = false)
    {blanks rest : List Char} (h : Blanks blanks) (stop : StopsAt p rest) :
    StopsAt p (blanks ++ rest) := by
  cases blanks with
  | nil => exact stop
  | cons c blanks => exact stopsAt_cons.2 (none c h.of_cons.1)

/-- The codes of the blanks. -/
def blankCodes : List Nat := [
  0x09, 0x0A, 0x0B, 0x0C, 0x0D, 0x1C, 0x1D, 0x1E, 0x1F, 0x20, 0x85, 0xA0, 0x1680, 0x2000, 0x2001,
  0x2002, 0x2003, 0x2004, 0x2005, 0x2006, 0x2007, 0x2008, 0x2009, 0x200A, 0x2028, 0x2029, 0x202F,
  0x205F, 0x3000]

/-- What holds of the blanks one by one holds of every blank. -/
theorem forall_isBlank {p : Char → Prop} (all : ∀ n ∈ blankCodes, p (Char.ofNat n)) {c : Char}
    (h : isBlank c = true) : p c := by
  have code : c.toNat ∈ blankCodes := by
    simp only [isBlank, Bool.or_eq_true, Bool.and_eq_true, decide_eq_true_eq, beq_iff_eq] at h
    simp only [blankCodes, List.mem_cons, List.not_mem_nil, or_false]
    omega
  have holds := all c.toNat code
  rwa [Char.ofNat_toNat] at holds

theorem isDigitSign_of_isBlank {c : Char} (h : isBlank c = true) : isDigitSign c = false :=
  forall_isBlank (p := fun c => isDigitSign c = false) (by decide) h

theorem isSuperscript_of_isBlank {c : Char} (h : isBlank c = true) :
    Label.isSuperscript c = false :=
  forall_isBlank (p := fun c => Label.isSuperscript c = false) (by decide) h

/-- What holds of the superscripts one by one holds of every superscript. -/
theorem forall_isSuperscript {p : Char → Prop} (all : ∀ row ∈ Label.superscripts, p row.1)
    {c : Char} (h : Label.isSuperscript c = true) : p c := by
  obtain ⟨low, found⟩ := Option.isSome_iff_exists.1 h
  obtain ⟨front, back, rows, -⟩ := List.lookup_eq_some_iff.1 found
  exact all (c, low) (by rw [rows]; simp)

theorem isDecimalDigit_of_isSuperscript {c : Char} (h : Label.isSuperscript c = true) :
    isDecimalDigit c = false :=
  forall_isSuperscript (p := fun c => isDecimalDigit c = false) (by decide) h

end Metrology.Text
