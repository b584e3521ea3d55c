import Metrology.Catalog.Entry

/-!
# Units of electricity and radiation

The electromagnetic units and those of radiation and catalysis.
-/

namespace Metrology.Catalog.Standard

open Dimension

/-- Electromagnetic units. The symbols `C` and `F` belong to temperature scales globally; the
coulomb and the farad are found under them in their own namespaces. -/
def electrical : List Listing := [
  .named "electrical" voltage "V" "volt" 1 ["volt", "volts"],
  .named "electrical" voltage "mV" "millivolt" 0.001,
  .named "electrical" voltage "kV" "kilovolt" 1000,
  .named "electrical" voltage "MV" "megavolt" 1000000,
  .named "electrical" resistance "ohm" "ohm" 1 ["Ω", "ohms"],
  .named "electrical" resistance "kohm" "kiloohm" 1000 ["kΩ"],
  .named "electrical" resistance "Mohm" "megaohm" 1000000 ["MΩ"],
  .named "electrical" resistance "mohm" "milliohm" 0.001 ["mΩ"],
  .named "electrical" charge "C" "coulomb" 1 ["coulomb", "coulombs", "Coul"],
  .named "electrical" charge "mC" "millicoulomb" 0.001,
  .named "electrical" charge "μC" "microcoulomb" 1e-6 ["uC"],
  .plain "electrical" charge "Ah" "ampere-hour" 3600,
  .plain "electrical" charge "mAh" "milliampere-hour" 3.6,
  .named "electrical" capacitance "F" "farad" 1 ["farad", "farads"],
  .named "electrical" conductance "S" "siemens" 1 ["siemens"],
  .named "electrical" flux "Wb" "weber" 1 ["weber"],
  .named "electrical" fluxDensity "T" "tesla" 1 ["tesla"],
  .named "electrical" inductance "H" "henry" 1 ["henry"]]

/-- Radiation and catalysis. Gray comes before sievert, so that it is the name preferred. -/
def radiations : List Listing := [
  .named "radiation" dose "Gy" "gray" 1 ["gray"],
  .named "radiation" dose "Sv" "sievert" 1 ["sievert"],
  .named "catalytic" catalytic "kat" "katal" 1 ["katal"]]

end Metrology.Catalog.Standard
