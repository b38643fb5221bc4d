import HardwareReport.Text.AsciiCase

/-!
# Section — the parts of a report
-/

namespace HardwareReport

/-- A part of a report. -/
inductive Section where
  | processor
  | memory
  | system
  | sensors
  | disks
  | displays
  | network
  | sound
  | power
  | usb
  deriving DecidableEq, Repr

namespace Section

/-- Every section, in the order of a full report. -/
def all : List Section :=
  [.processor, .memory, .system, .sensors, .disks, .displays, .network, .sound, .power, .usb]

/-- The name of a section in arguments and configuration. -/
def name : Section → String
  | .processor => "processor"
  | .memory => "memory"
  | .system => "system"
  | .sensors => "sensors"
  | .disks => "disks"
  | .displays => "displays"
  | .network => "network"
  | .sound => "sound"
  | .power => "power"
  | .usb => "usb"

/-- The section with a name. -/
def ofName? (name : String) : Option Section :=
  all.find? fun s => s.name == name

/-- The section with a name, in whatever ASCII case. -/
def ofNameAnyCase? (name : String) : Option Section :=
  ofName? (String.ofList (Text.lowerAscii name.toList))

/-- No section is left out of a full report. -/
theorem mem_all (s : Section) : s ∈ all := by
  cases s <;> decide

/-- A section is found by its name. -/
theorem ofName?_name (s : Section) : ofName? s.name = some s := by
  cases s <;> decide

end Section

end HardwareReport
