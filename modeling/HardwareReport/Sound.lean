import HardwareReport.Json

/-!
# Sound — sound cards
-/

namespace HardwareReport

/-- A sound card and the driver that runs it. -/
structure SoundCard where
  driverVersion : String := ""
  name : String := ""
  codec : String := ""
  deriving DecidableEq, Repr

namespace SoundCard

/-- The sound card in data. -/
def toJson (card : SoundCard) : Json :=
  .object [("driver_version", .text card.driverVersion), ("name", .text card.name),
    ("codec", .text card.codec)]

/-- The line for a sound card in a list. -/
def line (card : SoundCard) : String :=
  "  " ++ card.name ++ (if card.codec.isEmpty then "" else " [" ++ card.codec ++ "]")

end SoundCard

end HardwareReport
