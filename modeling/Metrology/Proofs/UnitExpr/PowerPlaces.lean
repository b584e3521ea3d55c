import Metrology.Proofs.Text.Parts
import Metrology.Proofs.UnitExpr.SingleName

/-!
# Powers in their places

A power sign or a superscript anywhere in a unit text raises a factor that stands in front of it,
blanks between them allowed. What surrounds this power can be told from it: the characters in front
of the factor and behind the power, and the expression with a place left open (`Context`). Any other
term may be put in the place, as long as the parentheses that are open there leave it enough levels.
Main statement: every power sign and every superscript of a text that is spelled has such a place
(`Spells.exists_place`).
-/

namespace Metrology.UnitExpr

open Text Reader

/-! ## Expressions with a place left open -/

/-- An expression with one place left open. -/
inductive Context where
  | hole
  | power (inside : Context) (exponent : Int)
  | before (inside : Context) (joint : Joint) (right : UnitExpr)
  | behind (left : UnitExpr) (joint : Joint) (inside : Context)

namespace Context

/-- What the expression is with the place filled. -/
def fill : Context → UnitExpr → UnitExpr
  | hole, e => e
  | power inside n, e => (inside.fill e).toPower n
  | before inside joint right, e => joint.apply (inside.fill e) right
  | behind left joint inside, e => joint.apply left (inside.fill e)

/-- Only the scale of what is filled in counts for the scale of the whole. -/
theorem scaleOf_fill_congr {c : Catalog} {e f : UnitExpr} (same : c.scaleOf e = c.scaleOf f)
    (K : Context) : c.scaleOf (K.fill e) = c.scaleOf (K.fill f) := by
  induction K with
  | hole => exact same
  | power inside n ih =>
    unfold fill toPower
    split
    · exact ih
    · split
      · rfl
      · rw [Catalog.scaleOf, Catalog.scaleOf, ih]
  | before inside joint right ih =>
    cases joint with
    | times => rw [fill, fill, Joint.apply, Joint.apply, Catalog.scaleOf, Catalog.scaleOf, ih]
    | per => rw [fill, fill, Joint.apply, Joint.apply, Catalog.scaleOf, Catalog.scaleOf, ih]
  | behind left joint inside ih =>
    cases joint with
    | times => rw [fill, fill, Joint.apply, Joint.apply, Catalog.scaleOf, Catalog.scaleOf, ih]
    | per => rw [fill, fill, Joint.apply, Joint.apply, Catalog.scaleOf, Catalog.scaleOf, ih]

/-- What is a single name as a whole has this name in its place. -/
theorem eq_name_of_fill {K : Context} {e : UnitExpr} {s : String} (h : K.fill e = .name s) :
    e = .name s := by
  induction K with
  | hole => exact h
  | power inside n ih => exact ih (toPower_eq_name_iff.1 h).2
  | before inside joint right =>
    cases joint with
    | times => cases h
    | per => cases h
  | behind left joint inside =>
    cases joint with
    | times => cases h
    | per => cases h

end Context

/-! ## Open parentheses -/

/-- How many parentheses a text opens and does not close. -/
def opened (cs : List Char) : Int := cs.count '(' - cs.count ')'

theorem opened_append (a b : List Char) : opened (a ++ b) = opened a + opened b := by
  simp only [opened, List.count_append]
  omega

theorem opened_of_class {p : Char → Bool} (none : ['(', ')'].any p = false) {cs : List Char}
    (h : ∀ c ∈ cs, p c = true) : opened cs = 0 := by
  have absent {paren : Char} (listed : paren ∈ ['(', ')']) : paren ∉ cs := fun mem =>
    not_mem_of_class none (h paren mem) listed
  rw [opened, List.count_eq_zero.2 (absent (by simp)), List.count_eq_zero.2 (absent (by simp))]
  rfl

theorem forall_isNameChar {c : Char} {rest : List Char} (start : isNameStart c = true)
    (run : ∀ d ∈ rest, isNameChar d = true) : ∀ d ∈ c :: rest, isNameChar d = true :=
  List.forall_mem_cons.2 ⟨(Bool.and_eq_true_iff.1 start).1, run⟩

theorem opened_blanks {blanks : List Char} (h : Blanks blanks) : opened blanks = 0 :=
  opened_of_class (p := isBlank) (by decide) h

theorem opened_group (cs : List Char) : opened ('(' :: cs ++ [')']) = opened cs := by
  have shape : '(' :: cs ++ [')'] = ['('] ++ cs ++ [')'] := rfl
  have opening : opened ['('] = 1 := rfl
  have closing : opened [')'] = -1 := rfl
  rw [shape, opened_append, opened_append, opening, closing]
  omega

theorem opened_sign {sign : Char} {joint : Joint} (h : jointOf? sign = some joint) :
    opened [sign] = 0 := by
  refine opened_of_class (p := fun c => (jointOf? c).isSome) (by decide)
    (List.forall_mem_singleton.2 ?_)
  rw [h]
  rfl

theorem Exponent.opened_eq_zero {text : List Char} {n : Int} {d : Nat} (h : Exponent text n d) :
    opened text = 0 := by
  induction h with
  | @digits blanks sign digits run hblanks hsign nonempty short values bounded =>
    have signs : opened sign = 0 := by
      rcases hsign with rfl | rfl | rfl
      · rfl
      · rfl
      · rfl
    rw [opened_append, opened_append, opened_blanks hblanks, signs,
      opened_of_class (p := isDigitSign) (by decide) (isDigitSign_of_mapM values)]
    rfl
  | @group blanks text closing n depth hblanks inner hclosing ih =>
    have shape : blanks ++ '(' :: text ++ closing ++ [')'] =
        blanks ++ ('(' :: (text ++ closing) ++ [')']) := by simp
    rw [shape, opened_append, opened_group, opened_append, ih, opened_blanks hblanks,
      opened_blanks hclosing]
    rfl

/-- Every part of a text closes the parentheses that it opens. -/
theorem Derives.opened_eq_zero {part : Part} {text after : List Char} {e : UnitExpr} {k d : Nat}
    (h : Derives part text after e k d) : opened text = 0 := by
  induction h with
  | name start run maximal =>
    exact opened_of_class (p := isNameChar) (by decide) (forall_isNameChar start run)
  | one maximal => rfl
  | @group text closing after e k d inner hclosing ih =>
    have shape : '(' :: text ++ closing ++ [')'] = '(' :: (text ++ closing) ++ [')'] := by simp
    rw [shape, opened_group, opened_append, ih, opened_blanks hclosing]
    rfl
  | bare factor ih => exact ih
  | @power base blanks sign exponent after e n k d l factor hblanks hsign hexponent ih =>
    have signs : opened sign = 0 := by
      rcases hsign with rfl | rfl
      · rfl
      · rfl
    rw [opened_append, opened_append, opened_append, ih, opened_blanks hblanks, signs,
      hexponent.opened_eq_zero]
    rfl
  | superscript factor hblanks nonempty run maximal value bounded ih =>
    rw [opened_append, opened_append, ih, opened_blanks hblanks,
      opened_of_class (p := Label.isSuperscript) (by decide) run]
    rfl
  | single hblanks term ih =>
    rw [opened_append, opened_blanks hblanks, ih]
    rfl
  | @joined left before behind right after sign joint e f k l d m first hbefore hsign hbehind last
      ihFirst ihLast =>
    have shape : left ++ before ++ sign :: behind ++ right =
        left ++ before ++ [sign] ++ behind ++ right := by simp
    rw [shape, opened_append, opened_append, opened_append, opened_append, ihFirst,
      opened_blanks hbefore, opened_sign hsign, opened_blanks hbehind, ihLast]
    rfl
  | juxtaposed first hbetween nonempty begins last ihFirst ihLast =>
    rw [opened_append, opened_append, ihFirst, opened_blanks hbetween, ihLast]
    rfl

/-! ## Places -/

/-- The text of a power behind a factor: a sign and an exponent, or superscripts. -/
inductive Raising : (text after : List Char) → (exponent : Int) → (depth : Nat) → Prop
  | sign {sign exponent after : List Char} {n : Int} {d : Nat}
      (hsign : sign = ['^'] ∨ sign = ['*', '*']) (hexponent : Exponent exponent n d) :
      Raising (sign ++ exponent) after n d
  | superscript {raised after : List Char} {n : Int} (nonempty : raised ≠ [])
      (run : ∀ c ∈ raised, Label.isSuperscript c = true)
      (maximal : StopsAt Label.isSuperscript after)
      (value : Number.integer? (String.ofList (raised.map Label.lower)) = some n)
      (bounded : n.natAbs ≤ exponentLimit) : Raising raised after n 0

theorem Raising.term {base blanks mark after : List Char} {e : UnitExpr} {n : Int} {k d l : Nat}
    (h : Raising mark after n l) (factor : Derives .factor base (blanks ++ mark ++ after) e k d)
    (hblanks : Blanks blanks) :
    Derives .term (base ++ blanks ++ mark) after (e.toPower n) k (max d l) := by
  cases h with
  | @sign sign exponent after n d' hsign hexponent =>
    rw [← List.append_assoc blanks] at factor
    have term := factor.power hblanks hsign hexponent
    rwa [List.append_assoc (base ++ blanks)] at term
  | superscript nonempty run maximal value bounded =>
    rw [Nat.max_zero]
    exact factor.superscript hblanks nonempty run maximal value bounded

/-- A power in a text of which `P` holds, in front of `after`: the factor that is raised, the power
behind it, and what surrounds them. Whatever term stands in the place instead, `P` holds of the
text with this term, so long as no more than `room` levels of parentheses are needed. -/
structure Place (P : List Char → UnitExpr → (k d : Nat) → Prop) (text after : List Char)
    (e : UnitExpr) (k d : Nat) where
  outer : List Char
  base : List Char
  blanks : List Char
  mark : List Char
  rest : List Char
  context : Context
  factor : UnitExpr
  exponent : Int
  operators : Nat
  depth : Nat
  levels : Nat
  shape : text = outer ++ (base ++ blanks ++ mark) ++ rest
  apart : ∀ c ∈ outer.getLast?, isNameChar c = false
  hblanks : Blanks blanks
  derives : Derives .factor base (blanks ++ mark ++ (rest ++ after)) factor operators depth
  raises : Raising mark (rest ++ after) exponent levels
  ends : ∀ c ∈ (rest ++ after).head?, isBoundary c = true
  spells : e = context.fill (factor.toPower exponent)
  within : opened outer + max depth levels ≤ d
  replace : ∀ ⦃term : List Char⦄ ⦃g : UnitExpr⦄ ⦃i : Nat⦄ (room : Nat), term.head? = base.head? →
    Derives .term term (rest ++ after) g operators i → d ≤ room → opened outer + i ≤ room →
    ∃ d' ≤ room, P (outer ++ term ++ rest) (context.fill g) k d'

/-- A power that is the whole text of a term. -/
def Place.here {base blanks mark after : List Char} {e : UnitExpr} {n : Int} {k d l : Nat}
    (factor : Derives .factor base (blanks ++ mark ++ after) e k d) (hblanks : Blanks blanks)
    (power : Raising mark after n l) (ends : ∀ c ∈ after.head?, isBoundary c = true) :
    Place (fun text => Derives .term text after) (base ++ blanks ++ mark) after (e.toPower n) k
      (max d l) where
  outer := []
  base := base
  blanks := blanks
  mark := mark
  rest := []
  context := .hole
  factor := e
  exponent := n
  operators := k
  depth := d
  levels := l
  shape := by simp
  apart := by simp
  hblanks := hblanks
  derives := factor
  raises := power
  ends := ends
  spells := rfl
  within := by
    have none : opened [] = 0 := rfl
    omega
  replace term g i room _ derived _ deep := by
    have none : opened [] = 0 := rfl
    refine ⟨i, by omega, ?_⟩
    rw [List.nil_append, List.append_nil]
    exact derived

theorem getLast?_append_of {p : Char → Prop} {a b : List Char} (ha : ∀ c ∈ a.getLast?, p c)
    (hb : ∀ c ∈ b.getLast?, p c) : ∀ c ∈ (a ++ b).getLast?, p c := by
  intro c mem
  cases last : b.getLast? with
  | none =>
    rw [List.getLast?_eq_none_iff.1 last, List.append_nil] at mem
    exact ha c mem
  | some d =>
    rw [List.getLast?_append, last] at mem
    cases mem
    exact hb c last

/-- A place in a part is a place in what is built around the part. -/
def Place.lift {P Q : List Char → UnitExpr → (k d : Nat) → Prop}
    {sub front back text after : List Char} {e f : UnitExpr} {k k' d d' : Nat}
    (p : Place P sub (back ++ after) e k d) (around : Context → Context) (levels : Nat)
    (shape : text = front ++ sub ++ back) (apart : ∀ c ∈ front.getLast?, isNameChar c = false)
    (spells : ∀ K g, e = K.fill g → f = (around K).fill g) (opens : opened front = levels)
    (deep : d + levels ≤ d')
    (rebuild : ∀ ⦃sub' K g i room⦄, sub'.head? = sub.head? → P sub' (Context.fill K g) k i →
      d' ≤ room → i + levels ≤ room →
      ∃ i' ≤ room, Q (front ++ sub' ++ back) ((around K).fill g) k' i') :
    Place Q text after f k' d' where
  outer := front ++ p.outer
  base := p.base
  blanks := p.blanks
  mark := p.mark
  rest := p.rest ++ back
  context := around p.context
  factor := p.factor
  exponent := p.exponent
  operators := p.operators
  depth := p.depth
  levels := p.levels
  shape := by
    rw [shape]
    conv_lhs => rw [p.shape]
    simp
  apart := getLast?_append_of apart p.apart
  hblanks := p.hblanks
  derives := by
    rw [List.append_assoc p.rest]
    exact p.derives
  raises := by
    rw [List.append_assoc p.rest]
    exact p.raises
  ends := by
    rw [List.append_assoc p.rest]
    exact p.ends
  spells := spells _ _ p.spells
  within := by
    have inside := p.within
    rw [opened_append, opens]
    omega
  replace term g i room head derived low open' := by
    rw [List.append_assoc p.rest] at derived
    rw [opened_append, opens] at open'
    obtain ⟨d'', low', whole⟩ :=
      p.replace (room - levels) head derived (by omega) (by omega)
    -- the part begins as it did before
    have begins : (p.outer ++ term ++ p.rest).head? = sub.head? := by
      obtain ⟨c, tail, same, -⟩ := p.derives.begins_factor
      have head' : term.head? = some c := by rw [head, same, List.head?_cons]
      have whole := congrArg List.head? p.shape
      rw [same] at whole
      simp only [List.append_assoc, List.cons_append, List.head?_append, List.head?_cons] at whole
      simp [whole, head']
    obtain ⟨i', low'', built⟩ := rebuild begins whole low (by omega)
    refine ⟨i', low'', ?_⟩
    have text : front ++ p.outer ++ term ++ (p.rest ++ back) =
        front ++ (p.outer ++ term ++ p.rest) ++ back := by simp
    rw [text]
    exact built

/-! ## Every power has its place -/

/-- A character that occurs in powers only, whatever else an expression consists of. -/
def isPowerSign (c : Char) : Bool := c == '^' || Label.isSuperscript c

theorem isPowerSign_iff {c : Char} :
    isPowerSign c = true ↔ c = '^' ∨ Label.isSuperscript c = true := by
  simp [isPowerSign]

theorem isPowerSign_of_isNameChar {c : Char} (h : isNameChar c = true) :
    isPowerSign c = false := by
  simp only [isNameChar, isOperatorChar, Bool.not_eq_true', Bool.or_eq_false_iff] at h
  simp [isPowerSign, h]

theorem isPowerSign_of_isBlank {c : Char} (h : isBlank c = true) : isPowerSign c = false := by
  rw [isPowerSign, isSuperscript_of_isBlank h, Bool.or_false, beq_eq_false_iff_ne]
  rintro rfl
  cases h

theorem isPowerSign_of_blanks {blanks : List Char} (h : Blanks blanks) :
    ∀ c ∈ blanks, isPowerSign c = false := fun c mem => isPowerSign_of_isBlank (h c mem)

theorem isPowerSign_of_isBoundary {c : Char} (h : isBoundary c = true) :
    isPowerSign c = false := by
  rcases isBoundary_iff.1 h with blank | rfl | rfl | rfl | rfl
  · exact isPowerSign_of_isBlank blank
  · decide
  · decide
  · decide
  · decide

/-- The power of the place holds the character `c`, with `pre` in front of it and `post` behind. -/
def Place.Holds {P : List Char → UnitExpr → (k d : Nat) → Prop} {text after : List Char}
    {e : UnitExpr} {k d : Nat} (p : Place P text after e k d) (pre : List Char) (c : Char)
    (post : List Char) : Prop :=
  ∃ front behind, p.mark = front ++ c :: behind ∧ pre = p.outer ++ p.base ++ p.blanks ++ front ∧
    post = behind ++ p.rest

/-- The power of a place in a part is that of the place in what is built around the part. -/
theorem Place.exists_lift {P Q : List Char → UnitExpr → (k d : Nat) → Prop}
    {sub text after pre post : List Char} {c : Char} {e f : UnitExpr} {k k' d d' : Nat}
    (front back : List Char) (h : ∃ p : Place P sub (back ++ after) e k d, p.Holds pre c post)
    (around : Context → Context) (levels : Nat) (shape : text = front ++ sub ++ back)
    (apart : ∀ c ∈ front.getLast?, isNameChar c = false)
    (spells : ∀ K g, e = K.fill g → f = (around K).fill g) (opens : opened front = levels)
    (deep : d + levels ≤ d')
    (rebuild : ∀ ⦃sub' K g i room⦄, sub'.head? = sub.head? → P sub' (Context.fill K g) k i →
      d' ≤ room → i + levels ≤ room →
      ∃ i' ≤ room, Q (front ++ sub' ++ back) ((around K).fill g) k' i') :
    ∃ q : Place Q text after f k' d', q.Holds (front ++ pre) c (post ++ back) := by
  obtain ⟨p, m, n, mark, rfl, rfl⟩ := h
  refine ⟨p.lift around levels shape apart spells opens deep rebuild, m, n, mark, ?_, ?_⟩
  · simp [Place.lift]
  · simp [Place.lift]

theorem isBoundary_of_joint {sign : Char} {joint : Joint} (h : jointOf? sign = some joint) :
    isBoundary sign = true := by
  rcases jointOf?_eq_some_iff.1 h with ⟨rfl | rfl, -⟩ | ⟨rfl, -⟩
  · decide
  · decide
  · decide

theorem isNameChar_of_isBoundary {c : Char} (h : isBoundary c = true) : isNameChar c = false :=
  runClasses_of_isBoundary h (by simp [runClasses])

theorem isNameChar_getLast? {p : Char → Bool} (none : ∀ c, p c = true → isNameChar c = false)
    {cs : List Char} (h : ∀ c ∈ cs, p c = true) : ∀ c ∈ cs.getLast?, isNameChar c = false :=
  fun c mem => none c (h c (List.mem_of_mem_getLast? mem))

/-- The powers of a term are those of its factor and the one behind it. -/
theorem Raising.exists_place {base blanks mark after : List Char} {c : Char} {e : UnitExpr}
    {n : Int} {k d l : Nat} (raises : Raising mark after n l)
    (factor : Derives .factor base (blanks ++ mark ++ after) e k d) (hblanks : Blanks blanks)
    (inside : ∀ {pre post}, base = pre ++ c :: post →
      ∃ p : Place (fun text => Derives .factor text (blanks ++ mark ++ after)) base
        (blanks ++ mark ++ after) e k d, p.Holds pre c post)
    (ends : ∀ c ∈ after.head?, isBoundary c = true) (power : isPowerSign c = true)
    {pre post : List Char} (split : base ++ blanks ++ mark = pre ++ c :: post) :
    ∃ p : Place (fun text => Derives .term text after) (base ++ blanks ++ mark) after
      (e.toPower n) k (max d l), p.Holds pre c post := by
  have shape : base ++ blanks ++ mark = base ++ (blanks ++ mark) := List.append_assoc _ _ _
  rcases split_around split power (isPowerSign_of_blanks hblanks) with
    ⟨post, first, rfl⟩ | ⟨front, own, rfl⟩
  · refine Place.exists_lift [] _ (inside first) (fun K => .power K n) 0 shape
      (by simp) (fun K g same => by rw [same, Context.fill]) rfl (Nat.le_max_left d l)
      fun sub' K g i room _ derived low deep => ⟨max i l, by omega, ?_⟩
    have whole := raises.term derived hblanks
    rwa [List.append_assoc] at whole
  · -- the power sign is in the power that stands here
    exact ⟨Place.here factor hblanks raises ends, front, post, own, rfl,
      (List.append_nil post).symm⟩

/-- A character that may stand between terms: a blank or the sign of a product or quotient. -/
def isJoining (c : Char) : Bool := isBlank c || (jointOf? c).isSome

theorem isBoundary_of_isJoining {c : Char} (h : isJoining c = true) : isBoundary c = true := by
  rcases Bool.or_eq_true_iff.1 h with blank | sign
  · exact isBoundary_iff.2 (.inl blank)
  · obtain ⟨joint, sign⟩ := Option.isSome_iff_exists.1 sign
    exact isBoundary_of_joint sign

theorem isJoining_of_blanks {blanks : List Char} (h : Blanks blanks) :
    ∀ c ∈ blanks, isJoining c = true := fun c mem => by rw [isJoining, h c mem, Bool.true_or]

theorem isBoundary_head? {gap : List Char} (joining : ∀ c ∈ gap, isJoining c = true)
    (filled : gap ≠ []) (rest : List Char) :
    ∀ c ∈ (gap ++ rest).head?, isBoundary c = true := by
  obtain ⟨b, gap, rfl⟩ := List.exists_cons_of_ne_nil filled
  rintro c mem
  cases mem
  exact isBoundary_of_isJoining (joining b List.mem_cons_self)

/-- The powers of two terms with a gap between them are those of the first and of the last. -/
theorem Derives.exists_place_of_joint {left gap right after : List Char} {c : Char}
    {e f : UnitExpr} {k l d m : Nat} (joint : Joint)
    (first : Derives .expression left (gap ++ right ++ after) e k d)
    (last : Derives .term right after f l m) (filled : gap ≠ [])
    (joining : ∀ c ∈ gap, isJoining c = true)
    (build : ∀ ⦃left' right' e' f' i j⦄, right'.head? = right.head? →
      Derives .expression left' (gap ++ right' ++ after) e' k i →
      Derives .term right' after f' l j →
      Derives .expression (left' ++ gap ++ right') after (joint.apply e' f') (k + 1 + l) (max i j))
    (inFirst : ∀ {pre post}, left = pre ++ c :: post →
      ∃ p : Place (fun text => Derives .expression text (gap ++ right ++ after)) left
        (gap ++ right ++ after) e k d, p.Holds pre c post)
    (inLast : ∀ {pre post}, right = pre ++ c :: post →
      ∃ p : Place (fun text => Derives .term text after) right after f l m, p.Holds pre c post)
    (power : isPowerSign c = true) {pre post : List Char}
    (split : left ++ gap ++ right = pre ++ c :: post) :
    ∃ p : Place (fun text => Derives .expression text after) (left ++ gap ++ right) after
      (joint.apply e f) (k + 1 + l) (max d m), p.Holds pre c post := by
  have boundary : ∀ c ∈ gap, isBoundary c = true :=
    fun c mem => isBoundary_of_isJoining (joining c mem)
  have shape : left ++ gap ++ right = left ++ (gap ++ right) := List.append_assoc _ _ _
  rcases split_around split power fun c mem => isPowerSign_of_isBoundary (boundary c mem) with
    ⟨post, inside, rfl⟩ | ⟨pre, inside, rfl⟩
  · refine Place.exists_lift [] _ (inFirst inside) (fun K => .before K joint f) 0 shape
      (by simp) (fun K g same => by rw [same, Context.fill]) rfl (Nat.le_max_left d m)
      fun sub' K g i room _ derived low deep => ⟨max i m, by omega, ?_⟩
    have whole := build rfl derived last
    rwa [List.append_assoc] at whole
  · have apart : ∀ c ∈ (left ++ gap).getLast?, isNameChar c = false := by
      rw [List.getLast?_append_of_ne_nil _ filled]
      exact isNameChar_getLast? (fun _ => isNameChar_of_isBoundary) boundary
    have closed : opened (left ++ gap) = 0 := by
      rw [opened_append, first.opened_eq_zero, opened_of_class (p := isJoining) (by decide) joining]
      rfl
    have lifted : ∃ p : Place (fun text => Derives .expression text after)
        (left ++ gap ++ right) after (joint.apply e f) (k + 1 + l) (max d m),
        p.Holds (left ++ gap ++ pre) c (post ++ []) := by
      refine Place.exists_lift _ [] (inLast inside) (fun K => .behind e joint K) 0
        (List.append_nil _).symm apart (fun K g same => by rw [same, Context.fill]) closed
        (Nat.le_max_right d m)
        fun sub' K g i room head derived low deep => ⟨max d i, by omega, ?_⟩
      rw [List.append_nil]
      refine build head (first.congr_after fun p _ stop => ?_) derived
      rw [List.append_assoc] at stop ⊢
      exact stop.congr_append filled _
    rwa [List.append_nil] at lifted

/-- The powers of a group are those of what its parentheses hold. -/
theorem exists_place_of_group {text closing after : List Char} {c : Char} {e : UnitExpr}
    {k d : Nat} (hclosing : Blanks closing)
    (inside : (∀ c ∈ (closing ++ ')' :: after).head?, isBoundary c = true) →
      ∀ {pre post}, text = pre ++ c :: post →
        ∃ p : Place (fun text => Derives .expression text (closing ++ ')' :: after)) text
          (closing ++ ')' :: after) e k d, p.Holds pre c post)
    (power : isPowerSign c = true) {pre post : List Char}
    (split : '(' :: text ++ closing ++ [')'] = pre ++ c :: post) :
    ∃ p : Place (fun text => Derives .factor text after) ('(' :: text ++ closing ++ [')']) after
      e k (d + 1), p.Holds pre c post := by
  have shape : '(' :: text ++ closing ++ [')'] = ['('] ++ text ++ (closing ++ [')']) := by simp
  have clear : ∀ c ∈ closing ++ [')'], isPowerSign c = false :=
    List.forall_mem_append.2
      ⟨isPowerSign_of_blanks hclosing, List.forall_mem_singleton.2 (by decide)⟩
  have opening : ∀ c ∈ ['('], isPowerSign c = false := List.forall_mem_singleton.2 (by decide)
  have apart : ∀ c ∈ ['('].getLast?, isNameChar c = false := by
    rintro c ⟨⟩
    decide
  have ends : ∀ c ∈ (closing ++ ')' :: after).head?, isBoundary c = true := by
    cases closing with
    | nil => simp [isBoundary]
    | cons b closing => exact isBoundary_head? (isJoining_of_blanks hclosing) (by simp) _
  obtain ⟨pre, post, rfl, rfl, rfl⟩ := split_middle ['('] _ (shape ▸ split) power opening clear
  have found := inside ends rfl
  rw [List.append_cons] at found
  refine Place.exists_lift ['('] _ found id 1 shape apart (fun _ _ => id) rfl
    (Nat.le_refl _) fun sub' K g i room _ derived _ deep => ⟨i + 1, deep, ?_⟩
  rw [← List.append_cons] at derived
  simpa using derived.group hclosing

/-- A power sign or a superscript in a part is in a power, which has its place. -/
theorem Derives.exists_place {part : Part} {text after : List Char} {e : UnitExpr} {k d : Nat}
    (h : Derives part text after e k d)
    (ends : part = .factor ∨ ∀ c ∈ after.head?, isBoundary c = true) {pre post : List Char}
    {c : Char} (split : text = pre ++ c :: post) (power : isPowerSign c = true) :
    ∃ p : Place (fun text => Derives part text after) text after e k d, p.Holds pre c post := by
  induction h generalizing pre post with
  | @name first rest after start run maximal =>
    exact absurd split (ne_of_class power fun c mem =>
      isPowerSign_of_isNameChar (forall_isNameChar start run c mem))
  | one maximal =>
    exact absurd split (ne_of_class power (List.forall_mem_singleton.2 (by decide)))
  | group inner hclosing ih =>
    exact exists_place_of_group hclosing (fun ends' _ _ => ih (.inr ends')) power split
  | @bare text after e k d factor ih =>
    obtain ⟨p, holds⟩ := ih (.inl rfl) split
    exact ⟨{ p with
      replace := fun term g i room head derived low deep =>
        (p.replace room head derived low deep).imp fun _ => .imp_right .bare }, holds⟩
  | @power base blanks sign exponent after e n k d l factor hblanks hsign hexponent ih =>
    have shape : base ++ blanks ++ sign ++ exponent = base ++ blanks ++ (sign ++ exponent) :=
      List.append_assoc _ _ _
    rw [List.append_assoc blanks] at ih factor
    rw [shape] at split ⊢
    exact (Raising.sign hsign hexponent).exists_place factor hblanks (ih (.inl rfl))
      (ends.resolve_left (by simp)) power split
  | @superscript base blanks raised after e n k d factor hblanks nonempty run maximal value bounded
      ih =>
    have found := (Raising.superscript nonempty run maximal value bounded).exists_place factor
      hblanks (ih (.inl rfl)) (ends.resolve_left (by simp)) power split
    rwa [Nat.max_zero] at found
  | @single blanks text after e k d hblanks term ih =>
    obtain ⟨pre, post, rfl, rfl, rfl⟩ := split_middle blanks [] (by simpa using split) power
      (isPowerSign_of_blanks hblanks) (by simp)
    refine Place.exists_lift _ [] (ih (.inr (ends.resolve_left (by simp))) rfl) id 0
      (by simp) (isNameChar_getLast? (fun _ => isNameChar_of_isBlank) hblanks) (fun _ _ => id)
      (opened_blanks hblanks) (Nat.le_refl _) fun sub' K g i room _ derived _ deep => ⟨i, deep, ?_⟩
    simpa using derived.single hblanks
  | @joined left before behind right after sign joint e f k l d m first hbefore hsign hbehind last
      ihFirst ihLast =>
    have ends := ends.resolve_left (by simp)
    have joining : ∀ c ∈ before ++ sign :: behind, isJoining c = true := by
      refine List.forall_mem_append.2 ⟨isJoining_of_blanks hbefore, List.forall_mem_cons.2
        ⟨by simp [isJoining, hsign], isJoining_of_blanks hbehind⟩⟩
    have filled : before ++ sign :: behind ≠ [] := by simp
    have front := isBoundary_head? joining filled (right ++ after)
    have shape : left ++ before ++ sign :: behind ++ right =
        left ++ (before ++ sign :: behind) ++ right := by simp
    rw [← List.append_assoc] at front
    rw [shape] at split ⊢
    refine first.exists_place_of_joint joint last filled joining
      (fun left' right' e' f' i j _ hl hr => ?_) (ihFirst (.inr front)) (ihLast (.inr ends))
      power split
    rw [← List.append_assoc left']
    exact hl.joined hbefore hsign hbehind hr
  | @juxtaposed left between right after e f k l d m first hbetween nonempty begins last ihFirst
      ihLast =>
    have ends := ends.resolve_left (by simp)
    have joining := isJoining_of_blanks hbetween
    have front := isBoundary_head? joining nonempty (right ++ after)
    rw [← List.append_assoc] at front
    refine first.exists_place_of_joint .times last nonempty joining
      (fun left' right' e' f' i j head hl hr => ?_) (ihFirst (.inr front)) (ihLast (.inr ends))
      power split
    refine hl.juxtaposed hbetween nonempty ?_ hr
    rwa [BeginsFactor, head]

/-! ## Whole texts -/

/-- A power sign or a superscript of a text that is spelled is in a power, which has its place. -/
theorem Spells.exists_place {cs pre post : List Char} {c : Char} {e : UnitExpr} {k d : Nat}
    (h : Spells cs e k d) (split : cs = pre ++ c :: post) (power : isPowerSign c = true) :
    ∃ p : Place Spells cs [] e k d, p.Holds pre c post := by
  obtain ⟨text, blanks, rfl, hblanks, derived⟩ := h
  obtain ⟨pre, post, inside, rfl, rfl⟩ := split_middle [] blanks split power (by simp)
    (isPowerSign_of_blanks hblanks)
  have found := derived.exists_place (.inr fun c mem => isBoundary_of_isJoining
    (isJoining_of_blanks hblanks c (List.mem_of_mem_head? mem))) inside power
  rw [← List.append_nil blanks] at found
  refine Place.exists_lift [] _ found id 0 (by simp) (by simp) (fun _ _ => id) rfl
    (Nat.le_refl d) fun sub' K g i room _ derived _ deep => ⟨i, deep, ?_⟩
  rw [List.append_nil] at derived
  exact ⟨sub', blanks, rfl, hblanks, derived⟩

/-- A power sign or a superscript of a text that is read is in a power, which has its place. -/
theorem exists_place_of_ofChars {cs pre post : List Char} {c : Char} {e : UnitExpr}
    (read : ofChars cs = .ok e) (split : cs = pre ++ c :: post) (power : isPowerSign c = true) :
    ∃ k d, ∃ p : Place Spells cs [] e k d,
      p.Holds pre c post ∧ k ≤ operatorLimit ∧ d ≤ nestingLimit := by
  obtain ⟨-, k, d, spelled, few, flat⟩ := spells_of_ofChars read
  obtain ⟨p, holds⟩ := spelled.exists_place split power
  exact ⟨k, d, p, holds, few, flat⟩

/-- With another term in the place of a power, the text is read as the expression with what this
term spells in the place. -/
theorem Place.ofChars_replace {cs : List Char} {e g : UnitExpr} {k d i : Nat}
    (p : Place Spells cs [] e k d) (few : k ≤ operatorLimit) (flat : d ≤ nestingLimit)
    (term : List Char) (clean : ∀ c ∈ p.outer ++ term ++ p.rest, c ∉ strayChars)
    (head : term.head? = p.base.head?)
    (derived : Derives .term term p.rest g p.operators i)
    (deep : opened p.outer + i ≤ nestingLimit) :
    ofChars (p.outer ++ term ++ p.rest) = .ok (p.context.fill g) := by
  rw [← List.append_nil p.rest] at derived
  obtain ⟨d', flat', spelled⟩ := p.replace nestingLimit head derived flat deep
  exact ofChars_of_spells clean spelled few flat'

end Metrology.UnitExpr
