import HardwareReport.Json
import HardwareReport.Text.LowerCase
import HardwareReport.Text.Split

/-!
# Sensors — temperatures

Temperature sensors have labels, from which the one that stands for the processor is chosen.
-/

namespace HardwareReport

/-- A temperature sensor and what it shows, in degrees Celsius. -/
structure Temperature where
  label : String := ""
  celsius : Option Float32 := none
  critical : Option Float32 := none

namespace Temperature

/-- What the labels of processor sensors contain, from the most to the least specific. -/
def processorHints : List String :=
  ["package", "tctl", "k10temp", "coretemp", "cpu", "tdie"]

/-- Whether the label contains a hint, in whatever case. -/
def hasHint (hint : String) (reading : Temperature) : Bool :=
  Text.contains hint.toList (Text.lower reading.label.toList)

/-- The temperature of the processor: the first one shown by a sensor with the most specific hint
that any sensor showing a temperature has. -/
def ofProcessor? (readings : List Temperature) : Option Float32 :=
  -- The hints come first: a later sensor with a better hint wins over an earlier one.
  processorHints.findSome? fun hint => (readings.filter (hasHint hint)).findSome? (·.celsius)

/-- The sensor in data. -/
def toJson (reading : Temperature) : Json :=
  .object [("label", .text reading.label), ("celsius", Json.optional .real32 reading.celsius),
    ("critical", Json.optional .real32 reading.critical)]

/-- A temperature as text. -/
def celsiusText : Option Float32 → String
  | some celsius => Number.fixed32 1 celsius ++ " °C"
  | none => "unknown"

end Temperature

end HardwareReport
