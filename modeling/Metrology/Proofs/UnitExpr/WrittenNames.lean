import Metrology.Proofs.Catalog.Homonyms
import Metrology.Proofs.Quantity.Faithful
import Metrology.Proofs.UnitExpr.NetExponents
import Metrology.Proofs.UnitExpr.Recovery
import Metrology.Proofs.UnitExpr.Unambiguous

/-!
# Written names

The names of a unit text are looked up in what the text spells, and a factor to the zeroth power
spells one, whatever names are written in it. So a name that no unit has is found out wherever it
is written, except under a zeroth power, where no name is looked at (`refused_of_misspelled`).
What is written is told from what is spelled by derivations that keep every power as it stands
(`Writes`).
-/

namespace Metrology

namespace UnitExpr

open Text

/-! ## What is written -/

/-- `Writes part text after e`: in front of `after`, the part `text` spells `e` before its first and
zeroth powers are carried out. -/
inductive Writes : Part → (text after : List Char) → UnitExpr → Prop
  | name {c : Char} {rest after : List Char} (start : isNameStart c = true)
      (run : ∀ d ∈ rest, isNameChar d = true) (maximal : StopsAt isNameChar after) :
      Writes .factor (c :: rest) after (.name (String.ofList (c :: rest)))
  | one {after : List Char} (maximal : StopsAt isNumberChar after) :
      Writes .factor ['1'] after .one
  | group {text closing after : List Char} {e : UnitExpr}
      (inner : Writes .expression text (closing ++ ')' :: after) e) (hclosing : Blanks closing) :
      Writes .factor ('(' :: text ++ closing ++ [')']) after e
  | bare {text after : List Char} {e : UnitExpr} (factor : Writes .factor text after e) :
      Writes .term text after e
  | power {base blanks sign exponent after : List Char} {e : UnitExpr} {n : Int} {l : Nat}
      (factor : Writes .factor base (blanks ++ sign ++ exponent ++ after) e)
      (hblanks : Blanks blanks) (hsign : sign = ['^'] ∨ sign = ['*', '*'])
      (hexponent : Exponent exponent n l) :
      Writes .term (base ++ blanks ++ sign ++ exponent) after (e.pow n)
  | superscript {base blanks raised after : List Char} {e : UnitExpr} {n : Int}
      (factor : Writes .factor base (blanks ++ raised ++ after) e) (hblanks : Blanks blanks)
      (nonempty : raised ≠ []) (run : ∀ c ∈ raised, Label.isSuperscript c = true)
      (maximal : StopsAt Label.isSuperscript after)
      (value : Number.integer? (String.ofList (raised.map Label.lower)) = some n)
      (bounded : n.natAbs ≤ exponentLimit) :
      Writes .term (base ++ blanks ++ raised) after (e.pow n)
  | single {blanks text after : List Char} {e : UnitExpr} (hblanks : Blanks blanks)
      (term : Writes .term text after e) : Writes .expression (blanks ++ text) after e
  | joined {left before behind right after : List Char} {sign : Char} {joint : Reader.Joint}
      {e f : UnitExpr}
      (first : Writes .expression left (before ++ sign :: behind ++ right ++ after) e)
      (hbefore : Blanks before) (hsign : jointOf? sign = some joint) (hbehind : Blanks behind)
      (last : Writes .term right after f) :
      Writes .expression (left ++ before ++ sign :: behind ++ right) after (joint.apply e f)
  | juxtaposed {left between right after : List Char} {e f : UnitExpr}
      (first : Writes .expression left (between ++ right ++ after) e)
      (hbetween : Blanks between) (nonempty : between ≠ []) (begins : BeginsFactor right)
      (last : Writes .term right after f) :
      Writes .expression (left ++ between ++ right) after (e.mul f)

/-- An expression with its first and zeroth powers carried out. -/
def folded : UnitExpr → UnitExpr
  | name s => name s
  | one => one
  | pow base n => base.folded.toPower n
  | mul left right => left.folded.mul right.folded
  | div left right => left.folded.div right.folded

theorem folded_apply (joint : Reader.Joint) (e f : UnitExpr) :
    (joint.apply e f).folded = joint.apply e.folded f.folded := by
  cases joint with
  | times => rfl
  | per => rfl

variable {part : Part} {text after : List Char} {e w : UnitExpr} {k d : Nat}

/-- What is spelled is written, constructor by constructor. -/
theorem Derives.exists_writes (h : Derives part text after e k d) :
    ∃ w, Writes part text after w ∧ w.folded = e := by
  induction h with
  | name start run maximal => exact ⟨_, .name start run maximal, rfl⟩
  | one maximal => exact ⟨_, .one maximal, rfl⟩
  | group inner hclosing ih =>
    obtain ⟨w, written, rfl⟩ := ih
    exact ⟨w, .group written hclosing, rfl⟩
  | bare factor ih =>
    obtain ⟨w, written, rfl⟩ := ih
    exact ⟨w, .bare written, rfl⟩
  | power factor hblanks hsign hexponent ih =>
    obtain ⟨w, written, rfl⟩ := ih
    exact ⟨_, .power written hblanks hsign hexponent, rfl⟩
  | superscript factor hblanks nonempty run maximal value bounded ih =>
    obtain ⟨w, written, rfl⟩ := ih
    exact ⟨_, .superscript written hblanks nonempty run maximal value bounded, rfl⟩
  | single hblanks term ih =>
    obtain ⟨w, written, rfl⟩ := ih
    exact ⟨w, .single hblanks written, rfl⟩
  | joined first hbefore hsign hbehind last ihFirst ihLast =>
    obtain ⟨w, written, rfl⟩ := ihFirst
    obtain ⟨v, behind, rfl⟩ := ihLast
    exact ⟨_, .joined written hbefore hsign hbehind behind, folded_apply _ w v⟩
  | juxtaposed first hbetween nonempty begins last ihFirst ihLast =>
    obtain ⟨w, written, rfl⟩ := ihFirst
    obtain ⟨v, behind, rfl⟩ := ihLast
    exact ⟨_, .juxtaposed written hbetween nonempty begins behind, rfl⟩

/-- What is written spells what is left of it. -/
theorem Writes.derives (h : Writes part text after w) :
    ∃ k d, Derives part text after w.folded k d := by
  induction h with
  | name start run maximal => exact ⟨0, 0, .name start run maximal⟩
  | one maximal => exact ⟨0, 0, .one maximal⟩
  | group inner hclosing ih =>
    obtain ⟨k, d, derived⟩ := ih
    exact ⟨k, d + 1, .group derived hclosing⟩
  | bare factor ih =>
    obtain ⟨k, d, derived⟩ := ih
    exact ⟨k, d, .bare derived⟩
  | @power _ _ _ _ _ _ _ l factor hblanks hsign hexponent ih =>
    obtain ⟨k, d, derived⟩ := ih
    exact ⟨k, max d l, .power derived hblanks hsign hexponent⟩
  | superscript factor hblanks nonempty run maximal value bounded ih =>
    obtain ⟨k, d, derived⟩ := ih
    exact ⟨k, d, .superscript derived hblanks nonempty run maximal value bounded⟩
  | single hblanks term ih =>
    obtain ⟨k, d, derived⟩ := ih
    exact ⟨k, d, .single hblanks derived⟩
  | joined first hbefore hsign hbehind last ihFirst ihLast =>
    obtain ⟨k, d, derived⟩ := ihFirst
    obtain ⟨l, m, behind⟩ := ihLast
    rw [folded_apply]
    exact ⟨k + 1 + l, max d m, .joined derived hbefore hsign hbehind behind⟩
  | juxtaposed first hbetween nonempty begins last ihFirst ihLast =>
    obtain ⟨k, d, derived⟩ := ihFirst
    obtain ⟨l, m, behind⟩ := ihLast
    exact ⟨k + 1 + l, max d m, .juxtaposed derived hbetween nonempty begins behind⟩

/-- A whole unit text writes an expression, blanks at its end included. -/
def WrittenAs (text : String) (w : UnitExpr) : Prop :=
  ∃ front blanks, (Symbol.normalize text).toList = front ++ blanks ∧ Blanks blanks ∧
    Writes .expression front blanks w

theorem exists_writtenAs {text : String} (read : ofText text = .ok e) : ∃ w, WrittenAs text w := by
  obtain ⟨-, k, d, ⟨front, blanks, shape, hblanks, derived⟩, -, -⟩ := spells_of_ofChars read
  obtain ⟨w, written, -⟩ := derived.exists_writes
  exact ⟨w, front, blanks, shape, hblanks, written⟩

/-- What is read is what is written, with its first and zeroth powers carried out. -/
theorem WrittenAs.folded_eq {text : String} (h : WrittenAs text w) (read : ofText text = .ok e) :
    w.folded = e := by
  obtain ⟨front, blanks, shape, hblanks, written⟩ := h
  obtain ⟨k, d, derived⟩ := written.derives
  obtain ⟨-, k', d', spells, -, -⟩ := spells_of_ofChars read
  exact (Spells.unique ⟨front, blanks, shape, hblanks, derived⟩ spells).1

/-! ## Names under powers -/

theorem mem_names_toPower {n : Int} {s : String} :
    s ∈ (e.toPower n).names ↔ n ≠ 0 ∧ s ∈ e.names := by
  refine toPower_cases e n (fun first => ?_) (fun zero => ?_) fun _ nonzero => ?_
  · simp [first]
  · simp [zero, names]
  · simp [nonzero, names]

/-- The names that are looked up are those written under no zeroth power. -/
theorem mem_names_folded {s : String} :
    s ∈ w.folded.names ↔ ∃ k, k ≠ 0 ∧ (s, k) ∈ w.occurrences := by
  induction w with
  | name t =>
    simp only [folded, names, occurrences, List.mem_singleton, Prod.mk.injEq]
    constructor
    · exact fun same => ⟨1, by decide, same, rfl⟩
    · rintro ⟨k, -, same, -⟩
      exact same
  | one => simp [folded, names, occurrences]
  | pow base n ih =>
    simp only [folded, mem_names_toPower, ih, occurrences, List.mem_map, Prod.mk.injEq]
    constructor
    · rintro ⟨nonzero, k, other, mem⟩
      exact ⟨k * n, Int.mul_ne_zero other nonzero, (s, k), mem, rfl, rfl⟩
    · rintro ⟨k, nonzero, ⟨t, j⟩, mem, rfl, rfl⟩
      obtain ⟨other, exponent⟩ := Int.mul_ne_zero_iff.1 nonzero
      exact ⟨exponent, j, other, mem⟩
  | mul left right ihLeft ihRight =>
    simp only [folded, names, List.mem_append, ihLeft, ihRight, occurrences]
    constructor
    · rintro (⟨k, nonzero, mem⟩ | ⟨k, nonzero, mem⟩)
      · exact ⟨k, nonzero, .inl mem⟩
      · exact ⟨k, nonzero, .inr mem⟩
    · rintro ⟨k, nonzero, mem | mem⟩
      · exact .inl ⟨k, nonzero, mem⟩
      · exact .inr ⟨k, nonzero, mem⟩
  | div left right ihLeft ihRight =>
    simp only [folded, names, List.mem_append, ihLeft, ihRight, occurrences, List.mem_map,
      Prod.mk.injEq]
    constructor
    · rintro (⟨k, nonzero, mem⟩ | ⟨k, nonzero, mem⟩)
      · exact ⟨k, nonzero, .inl mem⟩
      · exact ⟨-k, Int.neg_ne_zero.2 nonzero, .inr ⟨(s, k), mem, rfl, rfl⟩⟩
    · rintro ⟨k, nonzero, mem | ⟨⟨t, j⟩, mem, rfl, rfl⟩⟩
      · exact .inl ⟨k, nonzero, mem⟩
      · exact .inr ⟨j, Int.neg_ne_zero.1 nonzero, mem⟩

end UnitExpr

namespace Catalog

open UnitExpr Text

variable {c : Catalog} {text : String} {e w : UnitExpr}

theorem get?_of_contains_eq_false {name : String} (h : c.contains name = false) :
    c.get? name = none := by
  rw [get?, owner?_none]
  cases found : c.symbols.lookup (Symbol.normalize name) with
  | none => rfl
  | some r =>
    rw [contains, found] at h
    cases h

theorem named_of_misspelled {name : String} (h : c.Misspelled name) :
    c.named name = .error (c.unknown name) := by
  obtain ⟨unnamed, short⟩ := h
  simp only [named, get?_of_contains_eq_false unnamed]
  cases power : trailingPower? name with
  | none => rfl
  | some parts =>
    obtain ⟨base, n⟩ := parts
    simp only [get?_of_contains_eq_false (short base n power)]

/-- Without a trailing digit, only the symbol itself counts. -/
theorem misspelled_of_trailingPower? {name : String} (unnamed : c.contains name = false)
    (short : trailingPower? name = none) : c.Misspelled name := by
  refine ⟨unnamed, fun base n power => ?_⟩
  rw [short] at power
  cases power

/-- A text that spells a misspelled name fails because of such a name or because of a power. -/
theorem refused_of_mem_names (read : ofText text = .ok e) {name : String} (mem : name ∈ e.names)
    (misspelled : c.Misspelled name) :
    (∃ s ∈ e.names, c.Misspelled s ∧ c.unit text = .error (c.unknown s)) ∨
      ∃ n, c.unit text = .error (.powerTooHigh n) := by
  have filled : Symbol.normalize text ≠ "" := by
    intro empty
    rw [ofText, empty] at read
    cases read
  have scale := unit_eq_scaleOf (c := c) filled read
  cases result : c.unit text with
  | ok s =>
    -- all names of an expression with a scale are found
    rw [result] at scale
    have named := named_of_scaleOf scale.symm name mem
    rw [named_of_misspelled misspelled] at named
    cases named
  | error f =>
    rw [result] at scale
    rcases misspelled_of_scaleOf scale.symm with ⟨s, inside, unknown, rfl⟩ | ⟨n, -, rfl⟩
    · exact .inl ⟨s, inside, unknown, rfl⟩
    · exact .inr ⟨_, rfl⟩

/-- A misspelled name is never accepted, unless it is written under a zeroth power. A text with one
anywhere else fails, because such a name is unknown or because a power is too large; and whatever
names are written under a zeroth power, no catalog is asked for them. -/
theorem refused_of_misspelled (c : Catalog) (read : ofText text = .ok e) :
    (∃ w, WrittenAs text w) ∧
      ∀ w, WrittenAs text w →
        (∀ name k, (name, k) ∈ w.occurrences → k ≠ 0 → c.Misspelled name →
          (∃ s j, (s, j) ∈ w.occurrences ∧ j ≠ 0 ∧ c.Misspelled s ∧
              c.unit text = .error (c.unknown s)) ∨
            ∃ n, c.unit text = .error (.powerTooHigh n)) ∧
        ∀ c' : Catalog, (∀ name k, (name, k) ∈ w.occurrences → k ≠ 0 →
            c'.named name = c.named name) → c'.unit text = c.unit text := by
  refine ⟨exists_writtenAs read, fun w written => ?_⟩
  obtain rfl := written.folded_eq read
  refine ⟨fun name k mem nonzero misspelled => ?_, fun c' alike => ?_⟩
  · have looked := mem_names_folded.2 ⟨k, nonzero, mem⟩
    refine (refused_of_mem_names read looked misspelled).imp_left ?_
    rintro ⟨s, inside, unknown, failed⟩
    obtain ⟨j, other, occurs⟩ := mem_names_folded.1 inside
    exact ⟨s, j, occurs, other, unknown, failed⟩
  · refine unit_congr read fun name inside => ?_
    obtain ⟨k, nonzero, occurs⟩ := mem_names_folded.1 inside
    exact alike name k occurs nonzero

/-- In the standard catalog, a name in normal form that no listing has is no symbol. -/
theorem standard_contains_eq_false {name : String} (normal : Symbol.normalize name = name)
    (unclaimed : ∀ l ∈ standardListings, name ∉ l.symbol :: l.aliases) :
    standard.contains name = false := by
  unfold contains
  cases found : standard.symbols.lookup (Symbol.normalize name) with
  | none => rfl
  | some r =>
    obtain ⟨listed, -, claimed⟩ :=
      Builder.claimed_catalogOf standardListings (consistent_standard.bound found)
    rw [normal, keys_of_mem listed] at claimed
    exact absurd claimed (unclaimed _ listed)

theorem misspelled_in_standard : ∀ name ∈ ["mtr", "foo"], standard.Misspelled name := by
  have unchanged : ∀ name ∈ ["mtr", "foo"], Symbol.isUnchanged name.toList = true := by
    decide
  have unclaimed : ∀ name ∈ ["mtr", "foo"], ∀ l ∈ standardListings,
      name ∉ l.symbol :: l.aliases := by
    decide +kernel
  have short : ∀ name ∈ ["mtr", "foo"], trailingPower? name = none := by decide +kernel
  intro name mem
  have normal := Symbol.normalize_of_isUnchanged (unchanged name mem)
  exact misspelled_of_trailingPower? (standard_contains_eq_false normal (unclaimed name mem))
    (short name mem)

/-- A misspelled metre behind a known unit and in front of another one. -/
theorem refused_mtr :
    standard.Misspelled "mtr" ∧
      ((∃ s, standard.Misspelled s ∧ standard.unit "kg*mtr/s" = .error (standard.unknown s)) ∨
        ∃ n, standard.unit "kg*mtr/s" = .error (.powerTooHigh n)) := by
  have misspelled := misspelled_in_standard "mtr" (by simp)
  have read : ofText "kg*mtr/s" =
      .ok (((UnitExpr.name "kg").mul (.name "mtr")).div (.name "s")) := by
    decide
  obtain ⟨⟨w, written⟩, refused⟩ := refused_of_misspelled standard read
  -- what is looked up is found among what is written
  obtain ⟨k, nonzero, occurs⟩ : ∃ k, k ≠ 0 ∧ ("mtr", k) ∈ w.occurrences := by
    rw [← mem_names_folded, written.folded_eq read]
    simp [names]
  refine ⟨misspelled, ((refused w written).1 "mtr" k occurs nonzero misspelled).imp_left ?_⟩
  rintro ⟨s, j, -, -, unknown, failed⟩
  exact ⟨s, unknown, failed⟩

/-- Under the zeroth power, a name that no unit has goes unnoticed. -/
theorem not_refused_of_misspelled :
    ¬ ∀ (text : String) (e w : UnitExpr) (name : String) (k : Int), ofText text = .ok e →
      WrittenAs text w → (name, k) ∈ w.occurrences → standard.Misspelled name →
      ∀ s, standard.unit text ≠ .ok s := by
  intro always
  have read : ofText "foo^0" = .ok .one := by decide
  have written : WrittenAs "foo^0" (.pow (.name "foo") 0) := by
    have normal : (Symbol.normalize "foo^0").toList = ['f', 'o', 'o', '^', '0'] := by
      decide
    have run : ['o', 'o'].all isNameChar = true := by decide
    have name : Writes .factor ['f', 'o', 'o'] ['^', '0'] (.name "foo") :=
      .name (by decide) (List.all_eq_true.1 run) (stopsAt_cons.2 (by decide))
    have zero : Exponent ['0'] (signed [] [0]) 0 :=
      .digits .nil (.inl rfl) (by decide) (by decide) (by decide) (by decide)
    exact ⟨['f', 'o', 'o', '^', '0'], [], normal, .nil,
      .single .nil (.power name .nil (.inl rfl) zero)⟩
  exact always "foo^0" _ _ "foo" 0 read written (by simp [occurrences])
    (misspelled_in_standard "foo" (by simp)) Scale.one
    (unit_of_expr read none)

end Catalog

end Metrology
