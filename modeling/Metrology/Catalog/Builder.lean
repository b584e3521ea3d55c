import Metrology.Catalog

/-!
# Building a catalog

Units and further spellings are registered one at a time. Within a dimension a symbol belongs
to one unit, and claiming it for another fails; in the global table the first owner stays.
A unit is bound under its symbol and then under its aliases in order: where one of them is
taken, the registration fails and the spellings bound before it remain bound. An entry may be
registered again, and then has its spellings already.
-/

namespace Metrology

/-- A catalog under construction. The serial of the next new entry is above those of all entries
that were submitted before. -/
structure Builder where
  catalog : Catalog := {}
  nextSerial : Nat := 0

/-- One step of building: to define a unit, to register an entry made before, or to add a spelling
for a unit that is there. -/
inductive BuildStep where
  | define (listing : Listing)
  | register (record : Record)
  | addAlias (spelling symbol : String) (hint : Option Dimension)

namespace Catalog

/-- Binds one spelling to a unit. -/
def bindKey (c : Catalog) (spelling : String) (r : Record) : Except Failure Catalog :=
  let key := Symbol.normalize spelling
  let scope := (r.entry.dimension, key)
  match c.bindings.lookup scope with
  | some owner =>
    if owner = r then
      .ok { c with symbols := addIfAbsent key r c.symbols }
    else .error (.symbolTaken key r.entry.name owner.entry.name)
  | none =>
    .ok { c with
          symbols := addIfAbsent key r c.symbols
          bindings := c.bindings ++ [(scope, r)] }

/-- Binds spellings one after the other, up to the first that is taken. -/
def bindAll (c : Catalog) (r : Record) : List String → Catalog × Option Failure
  | [] => (c, none)
  | s :: rest =>
    match c.bindKey s r with
    | .ok next => next.bindAll r rest
    | .error f => (c, some f)

/-- The unit that a symbol is bound to: in the hinted namespace if a hint is given, in the global
table otherwise. -/
def bound? (c : Catalog) (symbol : String) : Option Dimension → Option Record
  | some d => c.bindings.lookup (d, Symbol.normalize symbol)
  | none => c.symbols.lookup (Symbol.normalize symbol)

end Catalog

namespace Builder

/-- Registers an entry under its symbol and its aliases. -/
def register (b : Builder) (r : Record) : Builder × Except Failure Record :=
  let nextSerial := max b.nextSerial (r.serial + 1)
  match b.catalog.bindAll r r.entry.spellings with
  | (c, none) => (⟨{ c with records := c.records ++ [r] }, nextSerial⟩, .ok r)
  | (c, some f) => (⟨c, nextSerial⟩, .error f)

/-- Registers a listing that makes sense, as a new entry. -/
def define (b : Builder) (l : Listing) : Builder × Except Failure Record :=
  match l.entry with
  | .ok e => b.register ⟨b.nextSerial, e⟩
  | .error f => (b, .error f)

/-- Adds a spelling for the unit that `symbol` is bound to. -/
def addAlias (b : Builder) (spelling symbol : String) (hint : Option Dimension) :
    Builder × Except Failure Unit :=
  match b.catalog.bound? symbol hint with
  | none => (b, .error (.aliasTarget spelling symbol))
  | some r =>
    match b.catalog.bindKey spelling r with
    | .ok c => ({ b with catalog := c }, .ok ())
    | .error f => (b, .error f)

/-- Performs a step; the record is that of a unit registered. -/
def perform (b : Builder) : BuildStep → Builder × Except Failure (Option Record)
  | .define l =>
    let (next, outcome) := b.define l
    (next, outcome.map some)
  | .register r =>
    let (next, outcome) := b.register r
    (next, outcome.map some)
  | .addAlias spelling symbol hint =>
    let (next, outcome) := b.addAlias spelling symbol hint
    (next, outcome.map fun _ => none)

/-- Performs steps one after the other, whether or not they fail. -/
def run (b : Builder) (steps : List BuildStep) : Builder :=
  steps.foldl (fun b step => (b.perform step).1) b

/-- Performs steps up to the first that fails. -/
def runStrict (b : Builder) : List BuildStep → Except Failure Builder
  | [] => .ok b
  | step :: rest =>
    match b.perform step with
    | (next, .ok _) => next.runStrict rest
    | (_, .error f) => .error f

theorem run_nil (b : Builder) : b.run [] = b := rfl

theorem run_cons (b : Builder) (step : BuildStep) (rest : List BuildStep) :
    b.run (step :: rest) = (b.perform step).1.run rest := rfl

theorem run_append (b : Builder) (first second : List BuildStep) :
    b.run (first ++ second) = (b.run first).run second := by
  rw [run, List.foldl_append]
  rfl

end Builder

end Metrology
