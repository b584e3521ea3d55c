import Metrology.Catalog.Entry

/-!
# Units of the base dimensions

The units of length, mass, time, temperature, current, amount and light. Temperature stands
before the electrical units, so that it owns the symbols `C` and `F` globally.
-/

namespace Metrology.Catalog.Standard

open Dimension

/-- Lengths: metric, then imperial and US, then astronomical. -/
def lengths : List Listing := [
  .plain "length" ofLength "m" "meter" 1 ["meter", "meters", "metre", "metres"],
  .plain "length" ofLength "km" "kilometer" 1000
    ["kilometer", "kilometers", "kilometre", "kilometres"],
  .plain "length" ofLength "cm" "centimeter" 0.01 ["centimeter", "centimeters"],
  .plain "length" ofLength "mm" "millimeter" 0.001 ["millimeter", "millimeters"],
  .plain "length" ofLength "μm" "micrometer" 1e-6 ["um", "micron", "microns"],
  .plain "length" ofLength "nm" "nanometer" 1e-9,
  .plain "length" ofLength "pm" "picometer" 1e-12,
  .plain "length" ofLength "Å" "angstrom" 1e-10 ["angstrom"],
  .plain "length" ofLength "in" "inch" 0.0254 ["inch", "inches"],
  .plain "length" ofLength "ft" "foot" 0.3048 ["foot", "feet"],
  .plain "length" ofLength "yd" "yard" 0.9144 ["yard", "yards"],
  .plain "length" ofLength "mi" "mile" 1609.344 ["mile", "miles"],
  .plain "length" ofLength "nmi" "nautical mile" 1852,
  .plain "length" ofLength "au" "astronomical unit" 149597870700,
  .plain "length" ofLength "ly" "light year" 9460730472580800,
  .plain "length" ofLength "pc" "parsec" 30856775814913673]

/-- Masses. -/
def masses : List Listing := [
  .plain "mass" ofMass "kg" "kilogram" 1 ["kilogram", "kilograms"],
  .plain "mass" ofMass "g" "gram" 0.001 ["gram", "grams"],
  .plain "mass" ofMass "mg" "milligram" 1e-6 ["milligram", "milligrams"],
  .plain "mass" ofMass "μg" "microgram" 1e-9 ["ug", "mcg"],
  .plain "mass" ofMass "t" "tonne" 1000 ["tonne", "tonnes"],
  .plain "mass" ofMass "lb" "pound" 0.45359237 ["pound", "pounds", "lbs"],
  .plain "mass" ofMass "oz" "ounce" 0.028349523125 ["ounce", "ounces"],
  .plain "mass" ofMass "st" "stone" 6.35029318,
  .plain "mass" ofMass "ton" "short ton" 907.18474,
  .plain "mass" ofMass "lton" "long ton" 1016.0469088,
  .plain "mass" ofMass "ct" "carat" 0.0002,
  .plain "mass" ofMass "gr" "grain" 0.00006479891]

/-- Times; months and years are Gregorian averages. -/
def times : List Listing := [
  .plain "time" ofTime "s" "second" 1 ["second", "seconds", "sec"],
  .plain "time" ofTime "ms" "millisecond" 0.001 ["millisecond", "milliseconds"],
  .plain "time" ofTime "μs" "microsecond" 1e-6 ["us", "microsecond", "microseconds"],
  .plain "time" ofTime "ns" "nanosecond" 1e-9,
  .plain "time" ofTime "min" "minute" 60 ["minute", "minutes"],
  .plain "time" ofTime "h" "hour" 3600 ["hour", "hours", "hr"],
  .plain "time" ofTime "d" "day" 86400 ["day", "days"],
  .plain "time" ofTime "wk" "week" 604800 ["week", "weeks"],
  .plain "time" ofTime "mo" "month" 2629746 ["month", "months"],
  .plain "time" ofTime "yr" "year" 31556952 ["year", "years", "y"]]

/-- Temperatures; the zero of a scale is given by its offset. -/
def temperatures : List Listing := [
  .plain "temperature" ofTemperature "K" "kelvin" 1 ["kelvin"],
  .plain "temperature" ofTemperature "mK" "millikelvin" 0.001,
  { Listing.plain "temperature" ofTemperature "C" "celsius" 1 ["degC", "°C", "℃", "celsius"] with
    offset := 273.15 },
  { Listing.plain "temperature" ofTemperature "F" "fahrenheit" (5 / 9) ["degF", "°F", "℉", "fahrenheit"] with
    offset := 459.67 },
  .plain "temperature" ofTemperature "R" "rankine" (5 / 9) ["°R", "rankine"]]

/-- Electric currents. -/
def currents : List Listing := [
  .plain "current" ofCurrent "A" "ampere" 1 ["ampere", "amperes", "amp", "amps"],
  .plain "current" ofCurrent "mA" "milliampere" 0.001,
  .plain "current" ofCurrent "μA" "microampere" 1e-6 ["uA"],
  .plain "current" ofCurrent "kA" "kiloampere" 1000]

/-- Amounts of substance. -/
def amounts : List Listing := [
  .plain "amount" ofAmount "mol" "mole" 1 ["mole", "moles"],
  .plain "amount" ofAmount "mmol" "millimole" 0.001,
  .plain "amount" ofAmount "μmol" "micromole" 1e-6 ["umol"],
  .plain "amount" ofAmount "kmol" "kilomole" 1000]

/-- Luminous intensities and illuminance. A steradian is a pure number, so a lumen is a
candela. -/
def luminosities : List Listing := [
  .plain "luminosity" ofLuminosity "cd" "candela" 1 ["candela"],
  .plain "luminosity" ofLuminosity "lm" "lumen" 1 ["lumen", "lumens"],
  .named "luminosity" illuminance "lx" "lux" 1 ["lux"]]

end Metrology.Catalog.Standard
