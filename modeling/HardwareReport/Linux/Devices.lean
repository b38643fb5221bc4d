import HardwareReport.Display
import HardwareReport.Linux.Attribute
import HardwareReport.Text.Natural

/-!
# Linux — displays, fans and firmware

* `displays` — the connectors that expose a description of a display;
* `fanSpeeds` — the fans of the monitoring chips that are awake;
* `firmware` and the other values that the firmware left in its tables.
-/

namespace HardwareReport.Linux

open FileTree

/-! ## Displays -/

/-- The display at a connector, if one describes itself there. -/
def connectorDisplay? (tree : Node) (root : Path) (connector : String) :
    Answer (Option Display) :=
  -- Not every entry is a connector, and connectors without a display have an empty description.
  match tree.readBytes (root ++ [connector, "edid"]) with
  | .ok edid => .ok (if edid.isEmpty then none else some ⟨connector, edid.toList⟩)
  | .error fault =>
    if isAbsence fault then .ok none else .error (.ofFault (Path.text (root ++ [connector])) fault)

/-- The displays at the connectors below `root`. -/
def displays (tree : Node) (root : Path) : Answer (List Display) := do
  let found ← (← sortedNames tree root).mapM (connectorDisplay? tree root)
  return found.filterMap id

/-! ## Fans -/

/-- Whether a device may be read without waking it up. -/
def isAwake (tree : Node) (device : Path) : Bool :=
  match tree.readText (device ++ ["power_state"]) with
  | .ok state => Text.trim state == "D0" || Text.trim state == "unknown"
  | .error _ => true

/-- Whether a name is that of a file with the speed of a fan. -/
def isFanInput (name : String) : Bool :=
  "fan".toList.isPrefixOf name.toList && "_input".toList.isSuffixOf name.toList

/-- The speed in a file, if it can be read and holds one. -/
def fanSpeed? (tree : Node) (path : Path) : Option UInt32 :=
  match readAttribute tree path with
  | .ok (some text) => (Text.readUInt32 text.toList).toOption
  | _ => none

/-- The fans of one chip. -/
def chipFans (tree : Node) (chip : Path) : Answer (List UInt32) :=
  -- Reading the speeds would wake a sleeping device up.
  if isAwake tree (chip ++ ["device"]) then
    (sortedNames tree chip).map fun names =>
      (names.filter isFanInput).filterMap fun name => fanSpeed? tree (chip ++ [name])
  else .ok []

/-- The fans of the chips below `root`. -/
def fanSpeeds (tree : Node) (root : Path) : Answer (List UInt32) := do
  let speeds ← (← sortedNames tree root).mapM fun name => chipFans tree (root ++ [name])
  return speeds.flatten

/-! ## Firmware -/

/-- Where the kernel shows the tables of the firmware. -/
def dmiRoot : Path := ["sys", "class", "dmi", "id"]

/-- A value from the tables of the firmware. -/
def dmi (tree : Node) (name : String) : Answer (Option String) :=
  readAttribute tree (dmiRoot ++ [name])

/-- The model of the machine. -/
def model (tree : Node) : Answer (Option String) := do
  let name ← dmi tree "product_name"
  let version ← dmi tree "product_version"
  return Firmware.modelText? name version

/-- The firmware of the machine. -/
def firmware (tree : Node) : Answer Firmware := do
  let vendor ← dmi tree "bios_vendor"
  let version ← dmi tree "bios_version"
  let releaseDate ← dmi tree "bios_date"
  return { vendor, version, releaseDate }

end HardwareReport.Linux
