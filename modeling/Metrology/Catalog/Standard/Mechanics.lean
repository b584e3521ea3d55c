import Metrology.Catalog.Entry

/-!
# Units of mechanics

The units of geometry, motion, force, energy and frequency.
-/

namespace Metrology.Catalog.Standard

open Dimension

/-- Areas. -/
def areas : List Listing := [
  .plain "area" area "ha" "hectare" 10000 ["hectare", "hectares"],
  .plain "area" area "ac" "acre" 4046.8564224 ["acre", "acres"]]

/-- Volumes: metric, then US customary, then imperial. -/
def volumes : List Listing := [
  .plain "volume" volume "L" "liter" 0.001 ["l", "liter", "liters", "litre", "litres"],
  .plain "volume" volume "dL" "deciliter" 0.0001 ["dl", "deciliter", "deciliters"],
  .plain "volume" volume "cL" "centiliter" 0.00001 ["cl", "centiliter", "centiliters"],
  .plain "volume" volume "mL" "milliliter" 1e-6 ["ml", "milliliter", "milliliters"],
  .plain "volume" volume "cc" "cubic centimeter" 1e-6,
  .plain "volume" volume "gal" "gallon" 0.003785411784 ["gallon", "gallons"],
  .plain "volume" volume "qt" "quart" 0.000946352946 ["quart", "quarts"],
  .plain "volume" volume "pt" "pint" 0.000473176473 ["pint", "pints"],
  .plain "volume" volume "cup" "cup" 0.0002365882365 ["cups"],
  .plain "volume" volume "floz" "fluid ounce" 0.0000295735295625,
  .plain "volume" volume "tbsp" "tablespoon" 0.00001478676478125,
  .plain "volume" volume "tsp" "teaspoon" 0.00000492892159375,
  .plain "volume" volume "impgal" "imperial gallon" 0.00454609,
  .plain "volume" volume "imppt" "imperial pint" 0.00056826125]

/-- Velocities. -/
def velocities : List Listing := [
  .plain "velocity" velocity "kph" "kilometer per hour" (5 / 18) ["kmh", "kmph"],
  .plain "velocity" velocity "mph" "mile per hour" 0.44704,
  .plain "velocity" velocity "fps" "foot per second" 0.3048,
  .plain "velocity" velocity "kn" "knot" (1852 / 3600) ["knot", "knots"],
  .plain "velocity" velocity "c" "speed of light" 299792458]

/-- Accelerations. -/
def accelerations : List Listing := [
  .plain "acceleration" acceleration "g0" "standard gravity" 9.80665 ["gee"],
  .plain "acceleration" acceleration "Gal" "galileo" 0.01]

/-- Forces. -/
def forces : List Listing := [
  .named "force" force "N" "newton" 1 ["newton", "newtons"],
  .named "force" force "kN" "kilonewton" 1000,
  .named "force" force "mN" "millinewton" 0.001,
  .plain "force" force "dyn" "dyne" 0.00001,
  .plain "force" force "lbf" "pound-force" 4.4482216152605,
  .plain "force" force "kgf" "kilogram-force" 9.80665]

/-- Energies. -/
def energies : List Listing := [
  .named "energy" energy "J" "joule" 1 ["joule", "joules"],
  .named "energy" energy "kJ" "kilojoule" 1000,
  .named "energy" energy "MJ" "megajoule" 1000000,
  .named "energy" energy "GJ" "gigajoule" 1000000000,
  .named "energy" energy "mJ" "millijoule" 0.001,
  .plain "energy" energy "cal" "calorie" 4.184 ["calorie", "calories"],
  .plain "energy" energy "kcal" "kilocalorie" 4184
    ["kilocalorie", "kilocalories", "Cal", "Calorie", "Calories"],
  .plain "energy" energy "Wh" "watt-hour" 3600,
  .plain "energy" energy "kWh" "kilowatt-hour" 3600000,
  .plain "energy" energy "eV" "electronvolt" 1.602176634e-19,
  .plain "energy" energy "BTU" "British thermal unit" 1055.05585262 ["Btu"],
  .plain "energy" energy "erg" "erg" 1e-7,
  .plain "energy" energy "ftlb" "foot-pound" 1.3558179483314]

/-- Powers. -/
def powers : List Listing := [
  .named "power" power "W" "watt" 1 ["watt", "watts"],
  .named "power" power "kW" "kilowatt" 1000,
  .named "power" power "MW" "megawatt" 1000000,
  .named "power" power "GW" "gigawatt" 1000000000,
  .named "power" power "mW" "milliwatt" 0.001,
  .named "power" power "μW" "microwatt" 1e-6 ["uW"],
  .plain "power" power "hp" "horsepower" 745.699872 ["horsepower"],
  .plain "power" power "PS" "metric horsepower" 735.49875]

/-- Pressures. -/
def pressures : List Listing := [
  .named "pressure" pressure "Pa" "pascal" 1 ["pascal", "pascals"],
  .named "pressure" pressure "kPa" "kilopascal" 1000,
  .named "pressure" pressure "MPa" "megapascal" 1000000,
  .named "pressure" pressure "hPa" "hectopascal" 100,
  .plain "pressure" pressure "bar" "bar" 100000,
  .plain "pressure" pressure "mbar" "millibar" 100,
  .plain "pressure" pressure "atm" "atmosphere" 101325 ["atmosphere", "atmospheres"],
  .plain "pressure" pressure "psi" "pounds per square inch" 6894.757293168,
  .plain "pressure" pressure "mmHg" "millimeter of mercury" 133.322387415,
  .plain "pressure" pressure "torr" "torr" (101325 / 760) ["Torr"],
  .plain "pressure" pressure "inHg" "inch of mercury" 3386.389]

/-- Frequencies. Hertz comes before becquerel, so that it is the name preferred. -/
def frequencies : List Listing := [
  .named "frequency" frequency "Hz" "hertz" 1 ["hertz"],
  .named "frequency" frequency "kHz" "kilohertz" 1000,
  .named "frequency" frequency "MHz" "megahertz" 1000000,
  .named "frequency" frequency "GHz" "gigahertz" 1000000000,
  .named "frequency" frequency "THz" "terahertz" 1000000000000,
  .plain "frequency" frequency "rpm" "revolutions per minute" (1 / 60),
  .named "radiation" frequency "Bq" "becquerel" 1 ["becquerel"]]

end Metrology.Catalog.Standard
