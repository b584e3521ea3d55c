import Metrology.Failure

/-!
# Exports

The names under which the library is used from outside, and what stands behind each: a type, an
operation, one of the two shared tables, one of the parts that the library divides into, or one
of the values that the other names are served with.
-/

namespace Metrology

/-- What stands behind a name. -/
inductive Export where
  | text
  | flag
  | table
  | type
  | choice
  | anyType
  | operation
  | sharedCatalog
  | sharedFunctions
  | part
  deriving DecidableEq

namespace Export

/-- The name of the library. -/
def libraryName : String := "cellunits"

/-- The version of the library. -/
def libraryVersion : String := "0.1.0"

/-- The public names, in the order in which they are listed. -/
def listed : List (String × Export) := [
  ("__version__", text), ("catalog", sharedCatalog), ("default_functions", sharedFunctions),
  ("Quantity", type), ("Dimension", type), ("ErrorValue", type), ("UnitContext", type),
  ("BaseUnitPolicy", choice), ("render", operation), ("binary", operation),
  ("parse_unit", operation)]

/-- The parts of the library, which are reached by name without being listed. -/
def parts : List (String × Export) :=
  ["core", "units", "dispatch", "context", "functions"].map fun name => (name, part)

/-- The names that serve the public ones and are reached without being listed. -/
def serving : List (String × Export) := [
  ("__name__", text), ("__doc__", text), ("__getattr__", operation), ("_LAZY", table),
  ("_get_default_catalog", operation), ("_get_default_functions", operation),
  ("TYPE_CHECKING", flag), ("Any", anyType)]

/-- The public names. -/
def listedNames : List String := listed.map Prod.fst

/-- The public names that do not begin with an underscore, sorted. -/
def openNames : List String :=
  (listedNames.filter fun name => name.toList.head? ≠ some '_').mergeSort fun a b =>
    !decide (b < a)

/-- What stands behind a name. -/
def find (name : String) : Except Failure Export :=
  match (listed ++ parts ++ serving).lookup name with
  | some e => .ok e
  | none => .error (.noExport libraryName name)

/-- The sort of thing that stands behind a name. -/
def sortName : Export → String
  | text => "str"
  | flag => "bool"
  | table => "dict"
  | type => "type"
  | choice => "EnumType"
  | anyType => "_AnyMeta"
  | operation => "function"
  | sharedCatalog => "UnitCatalog"
  | sharedFunctions => "UnitFunctions"
  | part => "module"

/-- The name that the thing behind `name` has of its own; a part carries the name of the library
in front. -/
def ownName? (name : String) : Export → Option String
  | type | choice | anyType | operation => some name
  | part => some (libraryName ++ "." ++ name)
  | text | flag | table | sharedCatalog | sharedFunctions => none

end Export

end Metrology
