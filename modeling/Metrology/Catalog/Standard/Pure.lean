import Metrology.Catalog.Entry

/-!
# Units of pure numbers

The units of data and of angles. Angles are the only units whose factors are not exact: half a
turn is given to 36 digits.
-/

namespace Metrology.Catalog.Standard

open Dimension

/-- Half a turn in radians. -/
def halfTurn : Rat := 3.14159265358979323846264338327950288

/-- Amounts of data, which are pure numbers, and data rates per second. -/
def informationUnits : List Listing := [
  .plain "data" one "bit" "bit" 1 ["bits"],
  .plain "data" one "byte" "byte" 8 ["bytes", "B"],
  .plain "data" one "kB" "kilobyte" 8000 ["kilobyte", "kilobytes"],
  .plain "data" one "MB" "megabyte" 8000000 ["megabyte", "megabytes"],
  .plain "data" one "GB" "gigabyte" 8000000000 ["gigabyte", "gigabytes"],
  .plain "data" one "TB" "terabyte" 8000000000000 ["terabyte", "terabytes"],
  .plain "data" one "KiB" "kibibyte" 8192,
  .plain "data" one "MiB" "mebibyte" 8388608,
  .plain "data" one "GiB" "gibibyte" 8589934592,
  .plain "data" one "TiB" "tebibyte" 8796093022208,
  .plain "data_rate" frequency "bps" "bits per second" 1,
  .plain "data_rate" frequency "kbps" "kilobits per second" 1000,
  .plain "data_rate" frequency "Mbps" "megabits per second" 1000000,
  .plain "data_rate" frequency "Gbps" "gigabits per second" 1000000000]

/-- Angles, which are pure numbers. -/
def angles : List Listing := [
  .plain "angle" one "rad" "radian" 1 ["radian", "radians"],
  .plain "angle" one "sr" "steradian" 1 ["steradian"],
  .plain "angle" one "deg" "degree" (halfTurn / 180) ["°", "degree", "degrees"],
  .plain "angle" one "grad" "gradian" (halfTurn / 200),
  .plain "angle" one "arcmin" "arcminute" (halfTurn / 10800),
  .plain "angle" one "arcsec" "arcsecond" (halfTurn / 648000),
  .plain "angle" one "turn" "turn" (2 * halfTurn)]

end Metrology.Catalog.Standard
