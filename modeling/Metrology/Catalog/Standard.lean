import Metrology.Catalog.Builder
import Metrology.Catalog.Standard.Base
import Metrology.Catalog.Standard.Electricity
import Metrology.Catalog.Standard.Mechanics
import Metrology.Catalog.Standard.Pure

/-!
# The standard catalog

The catalog that is used where no other is given. The order of its listings matters twice: the
first owner of a symbol keeps it globally, and the first of several equal derived units is the
one that simplification names.
-/

namespace Metrology.Catalog

open Standard

/-- The listings of the standard catalog, in order of registration. -/
def standardListings : List Listing :=
  lengths ++ masses ++ times ++ temperatures ++ currents ++ amounts ++ luminosities ++ areas ++
    volumes ++ velocities ++ accelerations ++ forces ++ energies ++ powers ++ pressures ++
    frequencies ++ electrical ++ radiations ++ informationUnits ++ angles

/-- The standard catalog. -/
def standard : Catalog := (Builder.run {} (standardListings.map BuildStep.define)).catalog

end Metrology.Catalog
