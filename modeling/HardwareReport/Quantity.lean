import HardwareReport.Number.Shortest

/-!
# Quantity — scaled amounts

Amounts of memory and frequencies, in the largest unit that leaves at least one whole.

* `binaryBytes` — an amount of memory in units of 1024;
* `binaryBytesText` — the same as text;
* `hertzText` — a frequency as text;
* `usedPercent` — the share of an amount that is in use.
-/

namespace HardwareReport.Quantity

/-- An amount in a unit. -/
structure Scaled where
  value : Float
  unit : String

/-! ## Memory -/

/-- The binary units from the largest on, each with its count of bytes. -/
def binaryUnits : List (Nat × String) :=
  [(1024 * 1024 * 1024 * 1024, "TiB"), (1024 * 1024 * 1024, "GiB"), (1024 * 1024, "MiB"),
    (1024, "KiB")]

/-- An amount of memory in the largest unit that it reaches. -/
def binaryBytes (n : UInt64) : Scaled :=
  match binaryUnits.find? fun unit => unit.1 ≤ n.toNat with
  | some (size, unit) => ⟨Float.ofNat n.toNat / Float.ofNat size, unit⟩
  | none => ⟨Float.ofNat n.toNat, "B"⟩

/-- An amount of memory with one decimal place, or none if it is in bytes. -/
def binaryBytesText (n : UInt64) : String :=
  let amount := binaryBytes n
  let places := if n.toNat < 1024 then 0 else 1
  Number.fixed places amount.value ++ " " ++ amount.unit

/-! ## Frequencies -/

/-- The decimal units from the largest on, each with its count of hertz. -/
def hertzUnits : List (Float × String) :=
  [(1e12, "THz"), (1e9, "GHz"), (1e6, "MHz"), (1e3, "kHz")]

/-- A frequency with two decimal places, or in whole hertz below one kilohertz. A negative number
stands for a frequency that is not known. -/
def hertzText (hz : Int) : String :=
  if hz < 0 then "unknown"
  else
    let value := Float.ofInt hz
    match hertzUnits.find? fun unit => unit.1 ≤ value with
    | some (scale, unit) => Number.fixed 2 (value / scale) ++ " " ++ unit
    | none => Number.plain value ++ " Hz"

/-! ## Shares -/

/-- The percentage of `total` that is not available, and zero of nothing. -/
def usedPercent (total available : UInt64) : Float :=
  if total == 0 then 0
  else Float.ofNat (total.toNat - available.toNat) / Float.ofNat total.toNat * 100

end HardwareReport.Quantity
