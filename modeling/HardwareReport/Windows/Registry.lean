import HardwareReport.Display
import HardwareReport.Error
import HardwareReport.Firmware
import HardwareReport.Sound

/-!
# Windows — the registry

Keys hold values and further keys. A key that is missing or may not be opened counts as absent; a
value counts as absent only if it is missing. Nothing is assumed here of how a registry keeps its
keys or of which names it takes for the same.

* `Registry` — what can be asked of a registry;
* `Registry.biosValue` — a value that the firmware left;
* `Registry.displays` — the monitors that are attached;
* `Registry.soundCards` — the drivers for sound.
-/

namespace HardwareReport.Windows

/-- What can be asked of a registry whose open keys are of some type. Every question may be
refused. -/
structure Registry (Key : Type) where
  /-- The key for the machine, which is always open. -/
  root : Key
  /-- Opens the key at a path below another one. -/
  subkey : Key → String → Except Fault Key
  /-- The names of the keys in a key, as the system yields them. -/
  subkeyNames : Key → Except Fault (List String)
  /-- A value as a text. -/
  text : Key → String → Except Fault String
  /-- A value as the bytes that are stored. -/
  bytes : Key → String → Except Fault (List UInt8)

namespace Registry

variable {Key : Type} (registry : Registry Key)

/-! ## Reading -/

/-- The key that a path leads to from another, unless it is missing or may not be opened. -/
def openKey (parent : Key) (path : String) : Answer (Option Key) :=
  match registry.subkey parent path with
  | .ok key => .ok (some key)
  | .error fault =>
    if fault.isNotFound || fault.isDenied then .ok none
    else .error (.ofFault ("registry " ++ path) fault)

/-- A value, or why it cannot be read; a value that is missing is absent. -/
def orAbsent {α : Type} (name : String) : Except Fault α → Answer (Option α)
  | .ok value => .ok (some value)
  | .error fault =>
    if fault.isNotFound then .ok none
    else .error (.ofFault ("registry value " ++ name) fault)

/-- A value that is a text, without what pads it. -/
def textValue (key : Key) (name : String) : Answer (Option String) :=
  (orAbsent name (registry.text key name)).map (·.bind Firmware.trimmed?)

/-- A value as bytes. -/
def bytesValue (key : Key) (name : String) : Answer (Option (List UInt8)) :=
  orAbsent name (registry.bytes key name)

/-- The names of the keys in a key, in order. -/
def sortedKeys (key : Key) : Answer (List String) :=
  match registry.subkeyNames key with
  | .ok names => .ok (names.mergeSort fun a b => a ≤ b)
  | .error fault => .error (.ofFault "registry subkeys" fault)

/-! ## Firmware -/

/-- Where the firmware's values are. -/
def biosPath : String := "HARDWARE\\DESCRIPTION\\System\\BIOS"

/-- A value that the firmware left, unless it is a placeholder. -/
def biosValue (name : String) : Answer (Option String) := do
  match ← registry.openKey registry.root biosPath with
  | some key => return (← registry.textValue key name).bind Firmware.value?
  | none => return none

/-- The model of the machine. -/
def model : Answer (Option String) := do
  let name ← registry.biosValue "SystemProductName"
  let version ← registry.biosValue "SystemVersion"
  return Firmware.modelText? name version

/-- The firmware of the machine. -/
def firmware : Answer Firmware := do
  let vendor ← registry.biosValue "BIOSVendor"
  let version ← registry.biosValue "BIOSVersion"
  let releaseDate ← registry.biosValue "BIOSReleaseDate"
  return { vendor, version, releaseDate }

/-! ## Monitors -/

/-- Where the monitors are. -/
def displayPath : String := "SYSTEM\\CurrentControlSet\\Enum\\DISPLAY"

/-- The description of the monitor of an instance, if it is attached: monitors that once were keep
their keys but lose the one called `Control`. -/
def instanceEdid (key : Key) : Answer (Option (List UInt8)) := do
  match ← registry.openKey key "Control" with
  | none => return none
  | some _ =>
    match ← registry.openKey key "Device Parameters" with
    | none => return none
    | some parameters => registry.bytesValue parameters "EDID"

/-- The display of an instance of a monitor, if it is attached. -/
def instanceDisplay (monitor : String) (key : Key) (name : String) : Answer (Option Display) := do
  match ← registry.openKey key name with
  | none => return none
  | some inner =>
    return (← registry.instanceEdid inner).map fun edid => ⟨monitor ++ "\\" ++ name, edid⟩

/-- The displays of all instances of a monitor. -/
def monitorDisplays (key : Key) (monitor : String) : Answer (List Display) := do
  match ← registry.openKey key monitor with
  | none => return []
  | some inner =>
    let found ← (← registry.sortedKeys inner).mapM (registry.instanceDisplay monitor inner)
    return found.filterMap id

/-- The displays of all monitors. -/
def displays : Answer (List Display) := do
  match ← registry.openKey registry.root displayPath with
  | none => return []
  | some key =>
    let found ← (← registry.sortedKeys key).mapM (registry.monitorDisplays key)
    return found.flatten

/-! ## Sound -/

/-- Where the drivers for media are. -/
def mediaPath : String :=
  "SYSTEM\\CurrentControlSet\\Control\\Class\\\x7b4d36e96c-e325-11ce-bfc1-08002be10318\x7d"

/-- A text with that of the provider before it, if there is one. -/
def withProvider (provider : Option String) (text : String) : String :=
  match provider with
  | some provider => provider ++ " " ++ text
  | none => text

/-- The sound card of a driver. A driver without a description is a leftover. -/
def soundCard? (description provider version : Option String) : Option SoundCard :=
  description.map fun description => {
    driverVersion := Text.trim (withProvider provider (version.getD ""))
    name := withProvider provider description
    codec := description }

/-- The sound card of the driver in a key. -/
def driverCard (key : Key) (name : String) : Answer (Option SoundCard) := do
  match ← registry.openKey key name with
  | none => return none
  | some driver =>
    let description ← registry.textValue driver "DriverDesc"
    let provider ← registry.textValue driver "ProviderName"
    let version ← registry.textValue driver "DriverVersion"
    return soundCard? description provider version

/-- Whether a key is that of a driver: those have numbers for names. -/
def isDriver (name : String) : Bool :=
  name.toList.all Char.isDigit

/-- The sound cards. -/
def soundCards : Answer (List SoundCard) := do
  match ← registry.openKey registry.root mediaPath with
  | none => return []
  | some key =>
    let found ← ((← registry.sortedKeys key).filter isDriver).mapM (registry.driverCard key)
    return found.filterMap id

end Registry

end HardwareReport.Windows
