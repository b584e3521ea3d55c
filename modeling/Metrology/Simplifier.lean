import Metrology.Quantity

/-!
# Named derived units

Renaming a quantity on request with the derived unit that has exactly its dimension and factor.
Of several such units the first registered is preferred. The value never changes.
-/

namespace Metrology

/-- The named derived units of a catalog, by dimension and factor. -/
structure Simplifier where
  catalog : Catalog
  table : List ((Dimension × Rat) × Record)

namespace Simplifier

/-- What a derived unit is found by. -/
def key (r : Record) : Dimension × Rat := (r.entry.dimension, r.entry.factor)

/-- Enters a derived unit; one with an offset is left out. -/
def enter (table : List ((Dimension × Rat) × Record)) (r : Record) :
    List ((Dimension × Rat) × Record) :=
  if r.entry.offset = 0 then Catalog.addIfAbsent (key r) r table else table

/-- The simplifier of a catalog. -/
def ofCatalog (c : Catalog) : Simplifier where
  catalog := c
  table := c.derivedRecords.foldl enter []

/-- The preferred derived unit with exactly the given scale. -/
def named? (s : Simplifier) (scale : Scale) : Option Record :=
  if scale.hasOffset then none else s.table.lookup (scale.dimension, scale.factor)

/-- Renames a quantity with its derived unit, if there is one and it is not yet shown. -/
def simplify (s : Simplifier) (q : Quantity) : Quantity :=
  match s.named? q.scale with
  | some r =>
    if q.label = r.entry.symbol then q
    else { value := q.value, scale := r.entry.scale, label := r.entry.symbol }
  | none => q

/-- The label of the coherent SI unit of a dimension: a named unit if its symbol means it
without a hint, base units otherwise. -/
def siLabel (s : Simplifier) (d : Dimension) : String :=
  match s.table.lookup (d, 1) with
  | some r =>
    match s.catalog.get? r.entry.symbol with
    | some owner => if owner = r then r.entry.symbol else Label.ofDimension d
    | none => Label.ofDimension d
  | none => Label.ofDimension d

end Simplifier

end Metrology
