import Metrology.Cell.Evaluation

/-!
# Function tables

The functions that formulas can call by name, each with a guide for its users. A name belongs to
the function that took it first. A call always has a result: an unknown name, an argument that
is an error, and every failure that evaluation recovers from are answered by an error value.
-/

namespace Metrology

/-- What users are told of a function. -/
structure Guide where
  name : String
  usage : String
  description : String
  examples : List String := []
  returns : String := "Quantity"
  category : String := "units"
  deriving DecidableEq

namespace Guide

/-- The help text: usage, description and, if there are any, examples. -/
def help (g : Guide) : String :=
  let examples := if g.examples = [] then [] else "" :: "Examples:" :: g.examples.map ("  " ++ ·)
  "\n".intercalate (g.usage :: "" :: g.description :: examples)

end Guide

/-- A function that formulas can call. -/
structure UnitFunction where
  guide : Guide
  run : List Cell → Setting → Except Failure Cell

/-- The name of a function. -/
def UnitFunction.name (f : UnitFunction) : String := f.guide.name

/-- Functions under distinct names, in the order in which they were registered. -/
structure FunctionTable where
  functions : List UnitFunction := []
  nodup_names : (functions.map UnitFunction.name).Nodup := by simp

/-- A function with a fresh name behind others leaves the names distinct. -/
theorem UnitFunction.nodup_names_append {functions : List UnitFunction} {f : UnitFunction}
    (distinct : (functions.map name).Nodup) (fresh : f.name ∉ functions.map name) :
    ((functions ++ [f]).map name).Nodup := by
  rw [List.map_append, List.map_singleton, List.nodup_append]
  refine ⟨distinct, List.pairwise_singleton _ _, ?_⟩
  intro a known b added same
  rw [List.mem_singleton] at added
  exact fresh (added ▸ same ▸ known)

namespace FunctionTable

/-- The table without functions. -/
def empty : FunctionTable := {}

/-- The function under a name. -/
def find? (t : FunctionTable) (name : String) : Option UnitFunction :=
  t.functions.find? fun f => f.name = name

/-- Whether a name is taken. -/
def contains (t : FunctionTable) (name : String) : Bool := (t.find? name).isSome

/-- The names of a table in order of registration. -/
def registered (t : FunctionTable) : List String := t.functions.map UnitFunction.name

/-- The names of a table, sorted. -/
def names (t : FunctionTable) : List String :=
  t.registered.mergeSort fun a b => !decide (b < a)

/-- Adds a function, unless its name is taken. -/
def register (t : FunctionTable) (f : UnitFunction) : Except Failure FunctionTable :=
  if h : f.name ∈ t.registered then .error (.functionTaken f.name)
  else
    .ok { functions := t.functions ++ [f]
          nodup_names := UnitFunction.nodup_names_append t.nodup_names h }

/-- The guide of a function. -/
def guide (t : FunctionTable) (name : String) : Except Failure Guide :=
  match t.find? name with
  | some f => .ok f.guide
  | none => .error (.unknownFunction name)

/-- The help text of a function. -/
def help (t : FunctionTable) (name : String) : Except Failure String :=
  (t.guide name).map Guide.help

/-- How far a misspelt name may be from the names suggested for it. -/
def suggestionDistance : Int := 3

/-- The result of a call. -/
def call (t : FunctionTable) (s : Setting) (name : String) (arguments : List Cell) :
    Except Failure Cell :=
  match t.find? name with
  | none =>
    .ok (.error (ErrorValue.undefinedFunction name
      (Spelling.closest name t.registered suggestionDistance)))
  | some f =>
    match Cell.firstError? arguments with
    | some e => .ok (.error (e.withNote (Cell.noteThrough (name ++ "()"))))
    | none => Cell.recover (f.run arguments s)

/-- Registration adds the name behind those already there. -/
theorem registered_of_register {t next : FunctionTable} {f : UnitFunction}
    (ok : t.register f = .ok next) : next.registered = t.registered ++ [f.name] := by
  unfold register at ok
  split at ok
  · cases ok
  · cases ok
    simp only [registered, List.map_append, List.map_cons, List.map_nil]

/-- A name is refused exactly if it is taken. -/
theorem register_eq_error_iff {t : FunctionTable} {f : UnitFunction} {reason : Failure} :
    t.register f = .error reason ↔ f.name ∈ t.registered ∧ reason = .functionTaken f.name := by
  unfold register
  split
  · next taken => simp [taken, eq_comm]
  · next fresh => simp [fresh]

end FunctionTable

end Metrology
