import Metrology.Dimension

/-!
# Named dimensions

The base dimensions and the derived dimensions that have a common name, each derived one built
from those before it.
-/

namespace Metrology.Dimension

/-! ## Base dimensions -/

def ofLength : Dimension := { length := 1 }
def ofMass : Dimension := { mass := 1 }
def ofTime : Dimension := { time := 1 }
def ofCurrent : Dimension := { current := 1 }
def ofTemperature : Dimension := { temperature := 1 }
def ofAmount : Dimension := { amount := 1 }
def ofLuminosity : Dimension := { luminosity := 1 }

/-! ## Derived dimensions -/

def area : Dimension := ofLength.pow 2
def volume : Dimension := ofLength.pow 3
def frequency : Dimension := ofTime.pow (-1)
def velocity : Dimension := ofLength.div ofTime
def acceleration : Dimension := velocity.div ofTime
def force : Dimension := ofMass.mul acceleration
def pressure : Dimension := force.div area
def energy : Dimension := force.mul ofLength
def power : Dimension := energy.div ofTime
def charge : Dimension := ofCurrent.mul ofTime
def voltage : Dimension := power.div ofCurrent
def capacitance : Dimension := charge.div voltage
def resistance : Dimension := voltage.div ofCurrent
def conductance : Dimension := ofCurrent.div voltage
def flux : Dimension := voltage.mul ofTime
def fluxDensity : Dimension := flux.div area
def inductance : Dimension := flux.div ofCurrent
def illuminance : Dimension := ofLuminosity.div area
def dose : Dimension := energy.div ofMass
def catalytic : Dimension := ofAmount.div ofTime

/-- The dimensions that have a name. -/
def names : List (Dimension × String) := [
  (one, "dimensionless"), (ofLength, "length"), (ofMass, "mass"), (ofTime, "time"),
  (ofCurrent, "current"), (ofTemperature, "temperature"), (ofAmount, "amount"),
  (ofLuminosity, "luminosity"), (area, "area"), (volume, "volume"), (frequency, "frequency"),
  (velocity, "velocity"), (acceleration, "acceleration"), (force, "force"),
  (pressure, "pressure"), (energy, "energy"), (power, "power"), (charge, "charge"),
  (voltage, "voltage"), (capacitance, "capacitance"), (resistance, "resistance"),
  (conductance, "conductance"), (flux, "magnetic flux"), (fluxDensity, "magnetic flux density"),
  (inductance, "inductance"), (illuminance, "illuminance"), (dose, "absorbed dose"),
  (catalytic, "catalytic activity")]

/-- The common name of a dimension, if it has one. -/
def name? (d : Dimension) : Option String := names.lookup d

/-- No dimension has two names. -/
theorem nodup_names : (names.map Prod.fst).Nodup := by decide

end Metrology.Dimension
