import Metrology.Catalog.Entry
import Metrology.Spelling
import Metrology.Symbol

/-!
# Catalogs

A table from symbols to units. Every unit lives in the namespace of its dimension; the global
table keeps the first owner of a symbol, so a later unit of another dimension under the same
symbol is found only where its dimension is given as a hint. Symbols are looked up in their
normal form.
-/

namespace Metrology

/-- An entry with a serial number, by which it is told from an equal one that was made apart. -/
structure Record where
  serial : Nat
  entry : Entry
  deriving DecidableEq

/-- A catalog of units. -/
structure Catalog where
  /-- The registered units, in order. -/
  records : List Record := []
  /-- The owner of each symbol. -/
  symbols : List (String × Record) := []
  /-- The owner of each symbol within a dimension. -/
  bindings : List ((Dimension × String) × Record) := []

namespace Catalog

/-- Adds an owner for a key, unless it has one. -/
def addIfAbsent {κ : Type} [BEq κ] (key : κ) (r : Record) (table : List (κ × Record)) :
    List (κ × Record) :=
  match table.lookup key with
  | some _ => table
  | none => table ++ [(key, r)]

/-- The catalog without units. -/
def empty : Catalog := {}

/-- The owner of a key that is in normal form: of the hinted namespace if it has one there,
else of the global table. -/
def owner? (c : Catalog) (key : String) (hint : Option Dimension) : Option Record :=
  match hint.bind fun d => c.bindings.lookup (d, key) with
  | some r => some r
  | none => c.symbols.lookup key

/-- The unit under a symbol. -/
def get? (c : Catalog) (symbol : String) (hint : Option Dimension := none) : Option Record :=
  c.owner? (Symbol.normalize symbol) hint

/-- The keys of the global table, in order of registration. -/
def keys (c : Catalog) : List String := c.symbols.map Prod.fst

/-- Whether a symbol has an owner. -/
def contains (c : Catalog) (symbol : String) : Bool :=
  (c.symbols.lookup (Symbol.normalize symbol)).isSome

/-- The failure to find a symbol, with the closest keys as suggestions. -/
def unknown (c : Catalog) (symbol : String) : Failure :=
  .unknownUnit symbol (Spelling.closest (Symbol.normalize symbol) c.keys)

/-- The unit under a symbol, or the failure to find it. -/
def resolve (c : Catalog) (symbol : String) (hint : Option Dimension := none) :
    Except Failure Record :=
  match c.get? symbol hint with
  | some r => .ok r
  | none => .error (c.unknown symbol)

/-- The keys of one dimension with their owners, in order of registration. -/
def namespaceOf (c : Catalog) (d : Dimension) : List (String × Record) :=
  c.bindings.filterMap fun ((e, key), r) => if e = d then some (key, r) else none

/-- The named derived units, in order of registration. -/
def derivedRecords (c : Catalog) : List Record := c.records.filter fun r => r.entry.derived

/-- The units of a category, in order of registration. -/
def byCategory (c : Catalog) (category : String) : List Record :=
  c.records.filter fun r => r.entry.category = category

/-- Without a hint the global table decides. -/
theorem owner?_none (c : Catalog) (key : String) : c.owner? key none = c.symbols.lookup key := rfl

/-- A binding in the hinted namespace decides. -/
theorem owner?_of_binding {c : Catalog} {key : String} {d : Dimension} {r : Record}
    (h : c.bindings.lookup (d, key) = some r) : c.owner? key (some d) = some r := by
  simp only [owner?, Option.bind_some, h]

/-- A key without binding in the hinted namespace is looked up globally. -/
theorem owner?_of_no_binding {c : Catalog} {key : String} {d : Dimension}
    (h : c.bindings.lookup (d, key) = none) :
    c.owner? key (some d) = c.symbols.lookup key := by
  simp only [owner?, Option.bind_some, h]

end Catalog

end Metrology
