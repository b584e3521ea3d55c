import Metrology.Proofs.Text.Parts
import Metrology.Proofs.Text.Signs
import Metrology.Proofs.UnitExpr.SingleName
import Metrology.Proofs.UnitExpr.WrittenNames

/-!
# Written words

Apart from blanks, operators and parentheses, a unit text consists of names, of ones, of integers
and of superscripts, so every other character of it belongs to one of these (`Writes.inAtom`). A
word that no other character of a name touches is therefore a name of the text
(`WrittenAs.mem_names`), and a minus sign is the sign of an integer (`WrittenAs.exists_digit`).
-/

namespace Metrology

namespace UnitExpr

open Text

/-! ## Atoms -/

/-- Everything but blanks, operators and parentheses. -/
def isSolid (c : Char) : Bool := !(isBlank c || isOperatorChar c)

/-- `Atom known text after`: in front of `after`, the text is a whole name among those that are
known, the digit one, an integer, or consists of superscripts. -/
inductive Atom (known : List String) : (text after : List Char) → Prop
  | name {text after : List Char} (single : isName text = true) (maximal : StopsAt isNameChar after)
      (mem : String.ofList text ∈ known) : Atom known text after
  | one {after : List Char} : Atom known ['1'] after
  | integer {sign digits after : List Char} (hsign : IsSign sign) (nonempty : digits ≠ [])
      (decimal : ∀ d ∈ digits, isDecimalDigit d = true) : Atom known (sign ++ digits) after
  | raised {text after : List Char} (run : ∀ c ∈ text, Label.isSuperscript c = true) :
      Atom known text after

/-- The character between `pre` and `post`, in front of `after`, is one of an atom. -/
def InAtom (known : List String) (pre : List Char) (c : Char) (post after : List Char) : Prop :=
  ∃ outer front behind rest, pre = outer ++ front ∧ post = behind ++ rest ∧
    Atom known (front ++ c :: behind) (rest ++ after)

variable {known all : List String} {pre post after : List Char} {c : Char}

theorem Atom.mono {text : List Char} (h : Atom known text after) (more : known ⊆ all) :
    Atom all text after := by
  cases h with
  | name single maximal mem => exact .name single maximal (more mem)
  | one => exact .one
  | integer hsign nonempty decimal => exact .integer hsign nonempty decimal
  | raised run => exact .raised run

/-- A character of a text that is an atom. -/
theorem Atom.inAtom {text : List Char} (h : Atom known text after)
    (split : text = pre ++ c :: post) : InAtom known pre c post after :=
  ⟨[], pre, post, [], rfl, (List.append_nil post).symm, split ▸ h⟩

/-- An atom of a part is one of the whole. -/
theorem InAtom.lift {back : List Char} (h : InAtom known pre c post (back ++ after))
    (more : known ⊆ all) (ahead : List Char) :
    InAtom all (ahead ++ pre) c (post ++ back) after := by
  obtain ⟨outer, front, behind, rest, rfl, rfl, atom⟩ := h
  refine ⟨ahead ++ outer, front, behind, rest ++ back, ?_, ?_, ?_⟩
  · rw [List.append_assoc]
  · rw [List.append_assoc]
  · rw [List.append_assoc]
    exact atom.mono more

/-- Only names have characters that a name may begin with. -/
theorem Atom.name_of_mem {text : List Char} (h : Atom known text after) (mem : c ∈ text)
    (start : isNameStart c = true) :
    isName text = true ∧ StopsAt isNameChar after ∧ String.ofList text ∈ known := by
  obtain ⟨letter, other⟩ := Bool.and_eq_true_iff.1 start
  cases h with
  | name single maximal known => exact ⟨single, maximal, known⟩
  | one =>
    obtain rfl := List.mem_singleton.1 mem
    cases other
  | integer hsign nonempty decimal =>
    rcases List.mem_append.1 mem with sign | digit
    · rcases hsign with rfl | rfl | rfl
      · cases sign
      · obtain rfl := List.mem_singleton.1 sign
        cases letter
      · obtain rfl := List.mem_singleton.1 sign
        cases letter
    · rw [isDigitSign_of_isDecimalDigit (decimal c digit)] at other
      cases other
  | raised run =>
    rw [isNameChar_of_isSuperscript (run c mem)] at letter
    cases letter

/-- Only integers have a minus sign, in front of their digits. -/
theorem Atom.exists_digit {front behind : List Char}
    (h : Atom known (front ++ '-' :: behind) after) :
    ∃ d rest, behind = d :: rest ∧ isDecimalDigit d = true := by
  generalize whole : front ++ '-' :: behind = text at h
  have mem : '-' ∈ text := whole ▸ by simp
  cases h with
  | name single maximal known =>
    have letter := isNameChar_of_isName single '-' mem
    cases letter
  | one =>
    simp at mem
  | @integer sign digits after hsign nonempty decimal =>
    rcases split_append whole.symm with ⟨middle, inside, rfl⟩ | ⟨middle, inside, -⟩
    · obtain ⟨d, rest, rfl⟩ := List.exists_cons_of_ne_nil nonempty
      have short : sign.length ≤ 1 := by rcases hsign with rfl | rfl | rfl <;> decide
      have alone : middle = [] := by
        rw [inside, List.length_append, List.length_cons] at short
        exact List.length_eq_zero_iff.1 (by omega)
      exact ⟨d, rest, by rw [alone, List.nil_append], decimal d List.mem_cons_self⟩
    · have digit := decimal '-' (by simp [inside])
      cases digit
  | raised run =>
    have superscript := run '-' mem
    cases superscript

/-! ## Every character belongs to an atom -/

theorem isSolid_of_blanks {blanks : List Char} (h : Blanks blanks) :
    ∀ c ∈ blanks, isSolid c = false := fun c mem => by simp [isSolid, h c mem]

theorem isSolid_of_jointOf? {sign : Char} {joint : Reader.Joint} (h : jointOf? sign = some joint) :
    isSolid sign = false := by
  rcases jointOf?_eq_some_iff.1 h with ⟨rfl | rfl, -⟩ | ⟨rfl, -⟩
  · decide
  · decide
  · decide

/-- The characters of an exponent are those of an integer. -/
theorem Exponent.inAtom {text : List Char} {n : Int} {d : Nat} (h : Exponent text n d)
    (split : text = pre ++ c :: post) (solid : isSolid c = true) (after : List Char) :
    InAtom known pre c post after := by
  induction h generalizing pre post after with
  | @digits blanks sign digits run hblanks hsign nonempty short values bounded =>
    have shape : blanks ++ sign ++ digits = blanks ++ (sign ++ digits) ++ [] := by simp
    obtain ⟨pre, post, inside, rfl, rfl⟩ := split_middle blanks [] (shape ▸ split) solid
      (isSolid_of_blanks hblanks) (by simp)
    have atom : Atom known (sign ++ digits) ([] ++ after) :=
      .integer hsign nonempty (isDecimalDigit_of_mapM values)
    exact (atom.inAtom inside).lift (List.Subset.refl _) blanks
  | @group blanks text closing n depth hblanks inner hclosing ih =>
    have shape : blanks ++ '(' :: text ++ closing ++ [')'] =
        blanks ++ ['('] ++ text ++ (closing ++ [')']) := by simp
    have opening : ∀ c ∈ blanks ++ ['('], isSolid c = false := List.forall_mem_append.2
      ⟨isSolid_of_blanks hblanks, List.forall_mem_singleton.2 (by decide)⟩
    have ending : ∀ c ∈ closing ++ [')'], isSolid c = false := List.forall_mem_append.2
      ⟨isSolid_of_blanks hclosing, List.forall_mem_singleton.2 (by decide)⟩
    obtain ⟨pre, post, inside, rfl, rfl⟩ := split_middle _ _ (shape ▸ split) solid opening ending
    exact (ih inside _).lift (List.Subset.refl _) _

/-- The characters of two parts with separators between them. -/
theorem inAtom_of_gap {left gap right : List Char} {front back : List String}
    (hgap : ∀ c ∈ gap, isSolid c = false) (split : left ++ gap ++ right = pre ++ c :: post)
    (solid : isSolid c = true) (hfront : front ⊆ known) (hback : back ⊆ known)
    (inLeft : ∀ {pre post}, left = pre ++ c :: post →
      InAtom front pre c post (gap ++ right ++ after))
    (inRight : ∀ {pre post}, right = pre ++ c :: post → InAtom back pre c post after) :
    InAtom known pre c post after := by
  rcases split_around split solid hgap with ⟨middle, inside, rfl⟩ | ⟨middle, inside, rfl⟩
  · exact (inLeft inside).lift hfront []
  · have last := InAtom.lift (show InAtom back middle c post ([] ++ after) from inRight inside)
      hback (left ++ gap)
    rwa [List.append_nil] at last

theorem names_apply (joint : Reader.Joint) (e f : UnitExpr) :
    (joint.apply e f).names = e.names ++ f.names := by
  cases joint with
  | times => rfl
  | per => rfl

/-- Every character of a unit text but blanks, operators and parentheses belongs to an atom, and the
names among the atoms are those that are written. -/
theorem Writes.inAtom {part : Part} {text : List Char} {w : UnitExpr}
    (h : Writes part text after w) (split : text = pre ++ c :: post) (solid : isSolid c = true) :
    InAtom w.names pre c post after := by
  induction h generalizing pre post with
  | @name first rest after start run maximal =>
    have single : isName (first :: rest) = true :=
      Bool.and_eq_true_iff.2 ⟨start, List.all_eq_true.2 run⟩
    exact (Atom.name single maximal (List.mem_singleton.2 rfl)).inAtom split
  | one maximal => exact Atom.one.inAtom split
  | @group text closing after e inner hclosing ih =>
    have shape : '(' :: text ++ closing ++ [')'] = ['('] ++ text ++ (closing ++ [')']) := by simp
    have ending : ∀ c ∈ closing ++ [')'], isSolid c = false := List.forall_mem_append.2
      ⟨isSolid_of_blanks hclosing, List.forall_mem_singleton.2 (by decide)⟩
    obtain ⟨pre, post, inside, rfl, rfl⟩ := split_middle ['('] _ (shape ▸ split) solid
      (List.forall_mem_singleton.2 (by decide)) ending
    have found := ih inside
    rw [List.append_cons] at found
    exact found.lift (List.Subset.refl _) ['(']
  | bare factor ih => exact ih split
  | @power base blanks sign exponent after e n l factor hblanks hsign hexponent ih =>
    have operator : ∀ c ∈ sign, isSolid c = false := by
      rcases hsign with rfl | rfl
      · exact List.forall_mem_singleton.2 (by decide)
      · exact List.forall_mem_cons.2 ⟨by decide, List.forall_mem_singleton.2 (by decide)⟩
    have gap : ∀ c ∈ blanks ++ sign, isSolid c = false :=
      List.forall_mem_append.2 ⟨isSolid_of_blanks hblanks, operator⟩
    rw [List.append_assoc base] at split
    exact inAtom_of_gap gap split solid (List.Subset.refl e.names) (List.Subset.refl e.names) ih
      fun inside => hexponent.inAtom inside solid after
  | @superscript base blanks raised after e n factor hblanks nonempty run maximal value bounded
      ih =>
    exact inAtom_of_gap (isSolid_of_blanks hblanks) split solid (List.Subset.refl e.names)
      (List.Subset.refl e.names) ih fun inside => (Atom.raised run).inAtom inside
  | @single blanks text after e hblanks term ih =>
    obtain ⟨pre, post, inside, rfl, rfl⟩ := split_middle blanks [] (by simpa using split) solid
      (isSolid_of_blanks hblanks) (by simp)
    exact (ih inside).lift (List.Subset.refl _) blanks
  | @joined left before behind right after sign joint e f first hbefore hsign hbehind last ihFirst
      ihLast =>
    have gap : ∀ c ∈ before ++ sign :: behind, isSolid c = false := List.forall_mem_append.2
      ⟨isSolid_of_blanks hbefore,
        List.forall_mem_cons.2 ⟨isSolid_of_jointOf? hsign, isSolid_of_blanks hbehind⟩⟩
    rw [List.append_assoc left] at split
    rw [names_apply]
    exact inAtom_of_gap gap split solid (List.subset_append_left _ _) (List.subset_append_right _ _)
      ihFirst ihLast
  | @juxtaposed left between right after e f first hbetween nonempty begins last ihFirst ihLast =>
    exact inAtom_of_gap (isSolid_of_blanks hbetween) split solid (List.subset_append_left _ _)
      (List.subset_append_right _ _) ihFirst ihLast

/-! ## Whole texts -/

theorem isSolid_of_isNameChar (h : isNameChar c = true) : isSolid c = true := by
  simp only [isNameChar, Bool.not_eq_true', Bool.or_eq_false_iff] at h
  simp [isSolid, h]

/-- Every character of a whole unit text but blanks, operators and parentheses belongs to an
atom. -/
theorem WrittenAs.inAtom {text : String} {w : UnitExpr} (h : WrittenAs text w)
    (split : (Symbol.normalize text).toList = pre ++ c :: post) (solid : isSolid c = true) :
    InAtom w.names pre c post [] := by
  obtain ⟨front, blanks, shape, hblanks, written⟩ := h
  rw [shape] at split
  obtain ⟨pre, post, inside, rfl, rfl⟩ := split_middle [] blanks split solid (by simp)
    (isSolid_of_blanks hblanks)
  have found := written.inAtom inside solid
  rw [← List.append_nil blanks] at found
  exact found.lift (List.Subset.refl _) []

/-- A word that no other character of a name touches is a name that is written. -/
theorem WrittenAs.mem_names {text : String} {w : UnitExpr} (h : WrittenAs text w)
    {word : List Char} (split : (Symbol.normalize text).toList = pre ++ word ++ post)
    (single : isName word = true) (apart : StopsAt isNameChar pre.reverse)
    (apart' : StopsAt isNameChar post) : String.ofList word ∈ w.names := by
  cases word with
  | nil => cases single
  | cons c word =>
    obtain ⟨start, run⟩ := Bool.and_eq_true_iff.1 single
    obtain ⟨first, letter⟩ := Bool.and_eq_true_iff.1 start
    have run := List.all_eq_true.1 run
    rw [List.append_assoc, List.cons_append] at split
    obtain ⟨outer, front, behind, rest, rfl, rear, atom⟩ :=
      h.inAtom split (isSolid_of_isNameChar first)
    obtain ⟨name, maximal, mem⟩ := atom.name_of_mem (by simp) start
    have letters := isNameChar_of_isName name
    -- the name does not begin in front of the word, and so it ends where the word does
    have begins : front = [] := by
      cases last : front.reverse with
      | nil => simpa using last
      | cons d before =>
        rw [List.reverse_append, last] at apart
        have letter := letters d (List.mem_append_left _ (List.mem_reverse.1 (by simp [last])))
        rw [stopsAt_cons.1 apart] at letter
        cases letter
    subst begins
    rw [List.append_nil] at maximal
    have same := run_unique run (fun d mem => letters d (by simp [mem])) apart' maximal rear
    rwa [same]

/-- A minus sign stands in front of a digit. -/
theorem WrittenAs.exists_digit {text : String} {w : UnitExpr} (h : WrittenAs text w)
    (split : (Symbol.normalize text).toList = pre ++ '-' :: post) :
    ∃ d rest, post = d :: rest ∧ isDecimalDigit d = true := by
  obtain ⟨outer, front, behind, rest, rfl, rfl, atom⟩ := h.inAtom split (by decide)
  obtain ⟨d, behind, rfl, digit⟩ := atom.exists_digit
  exact ⟨d, behind ++ rest, rfl, digit⟩

/-! ## Texts as they are typed -/

/-- The normal form of a text keeps a character that splits it, if more than blanks stand on both
sides. -/
theorem toList_normalize_of_split {c : Char} (barrier : IsBarrier c c)
    (folded : Symbol.foldMicro c = c) {text : String} {front rest : List Char}
    (split : text.toList = front ++ c :: rest) (hfront : ¬ Blanks front) (hrest : ¬ Blanks rest) :
    (Symbol.normalize text).toList =
      Symbol.form (skipBlanks front) ++ c :: Symbol.form (skipBlanksRight rest) := by
  have trimmed : trim text.toList = skipBlanks front ++ c :: skipBlanksRight rest := by
    rw [split, trim, skipBlanks_append_of_not hfront, List.append_cons,
      skipBlanksRight_append_of_not hrest, List.append_assoc, List.singleton_append]
  rw [Symbol.normalize, String.toList_ofList, trimmed]
  exact Symbol.form_append_cons barrier folded _ _

theorem isBarrier_blank : IsBarrier ' ' ' ' :=
  isBarrier_of_isBaseChar_eq_false (by decide) (by decide)

theorem isBarrier_minus : IsBarrier '-' '-' :=
  .of_apart (decompose_of_apart (by decide) (by decide)) (by decide) (by decide)

/-- A word between blanks, with more than blanks in front of it and behind it, is a name. -/
theorem WrittenAs.mem_names_of_spaced {text : String} {w : UnitExpr} (h : WrittenAs text w)
    (word : List Char) {front rest : List Char} (single : isName word = true)
    (kept : Symbol.form word = word)
    (split : text.toList = front ++ spaced word ++ rest) (hfront : ¬ Blanks front)
    (hrest : ¬ Blanks rest) : String.ofList word ∈ w.names := by
  have shape : front ++ spaced word ++ rest = front ++ ' ' :: (word ++ [' '] ++ rest) := by
    simp [spaced]
  have behind : ¬ Blanks (word ++ [' '] ++ rest) :=
    fun blanks => hrest fun c mem => blanks c (List.mem_append_right _ mem)
  have normal := toList_normalize_of_split isBarrier_blank (by decide) (split.trans shape) hfront
    behind
  rw [skipBlanksRight_append_of_not hrest, List.append_assoc, List.singleton_append,
    Symbol.form_append_cons isBarrier_blank (by decide), kept, List.append_cons,
    ← List.append_assoc] at normal
  refine h.mem_names normal single ?_ (stopsAt_cons.2 (by decide))
  rw [List.reverse_append]
  exact stopsAt_cons.2 (by decide)

/-- An arrow occurs in no unit text. -/
theorem WrittenAs.false_of_arrow {text : String} {w : UnitExpr} (h : WrittenAs text w)
    {front rest : List Char} (split : text.toList = front ++ "->".toList ++ rest)
    (hfront : ¬ Blanks front) : False := by
  have split : text.toList = front ++ '-' :: '>' :: rest := by simpa using split
  have normal := toList_normalize_of_split isBarrier_minus (by decide) split hfront
    fun blanks => absurd (blanks '>' List.mem_cons_self) (by decide)
  obtain ⟨rest', sign⟩ : ∃ rest', skipBlanksRight ('>' :: rest) = '>' :: rest' := by
    by_cases blanks : Blanks rest
    · refine ⟨[], ?_⟩
      rw [skipBlanksRight, List.reverse_cons, skipBlanks_append blanks.reverse]
      rfl
    · exact ⟨_, skipBlanksRight_append_of_not blanks ['>']⟩
  obtain ⟨d, behind, begins, other⟩ := Symbol.exists_first_of_form (c := '>') (by decide)
    (by decide) (by decide) rest'
  rw [sign, begins] at normal
  obtain ⟨d', behind', same, digit⟩ := h.exists_digit normal
  obtain ⟨rfl, rfl⟩ := List.cons.inj same
  rw [other] at digit
  cases digit

end UnitExpr

end Metrology
