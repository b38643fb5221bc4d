import HardwareReport.Json

/-!
# Power — power sources
-/

namespace HardwareReport

/-- How long a power source is going to last. -/
inductive TimeRemaining where
  /-- The platform is still estimating, or cannot tell. -/
  | estimating
  /-- External power is connected. -/
  | unlimited
  | seconds (count : Float)

namespace TimeRemaining

/-- The time in data. -/
def toJson : TimeRemaining → Json
  | .estimating => .text "estimating"
  | .unlimited => .text "unlimited"
  | .seconds count => .object [("seconds", .real count)]

/-- The time as text, in minutes. -/
def text : TimeRemaining → String
  | .estimating => "estimating"
  | .unlimited => "on external power"
  | .seconds count => Number.whole (count / 60) ++ "m remaining"

end TimeRemaining

/-- A power source. -/
structure PowerSource where
  name : String := ""
  /-- What is left of a full charge, as a fraction. -/
  capacity : Float := 0
  timeRemaining : TimeRemaining := .estimating

namespace PowerSource

/-- The power source in data. -/
def toJson (source : PowerSource) : Json :=
  .object [("name", .text source.name), ("remaining_capacity", .real source.capacity),
    ("time_remaining", source.timeRemaining.toJson)]

/-- The line for a power source in a list. -/
def line (source : PowerSource) : String :=
  "  " ++ source.name ++ ": " ++ Number.fixed 0 (source.capacity * 100) ++ "% (" ++
    source.timeRemaining.text ++ ")"

end PowerSource

end HardwareReport
