import HardwareReport.Host
import HardwareReport.Windows.DeviceTree
import HardwareReport.Windows.RegistryKey

/-!
# Windows — the backend

System times, the environment, the device tree and the registry answer for what they know; the
services answer for the rest.

* `FileTime`, `SystemTimes` — the times that the system hands out;
* `SystemTimes.ticks` — the counters of the processor;
* `completeIdentity` — the identity of the processor, with what the environment tells;
* `layer` — the way to read a machine.
-/

namespace HardwareReport.Windows

/-- What a Windows machine tells. -/
structure WindowsSystem where
  /-- The idle, kernel and user times, or the code and the wording of the failure to read them. -/
  times : Except (Int × String) (UInt64 × UInt64 × UInt64) := .ok (0, 0, 0)
  /-- The processor's identifier, from the environment. -/
  identifier : Option String := none
  /-- The processor's architecture, from the environment. -/
  architecture : Option String := none
  locateCode : ManagerCode := 0
  devices : DeviceNode := .leaf {}
  registry : RegistryKey := .empty

/-! ## The processor -/

/-- A time as the system hands it out, in two halves. -/
structure FileTime where
  low : UInt32
  high : UInt32
  deriving DecidableEq, Repr

namespace FileTime

/-- The halves of a count. -/
def ofCount (count : UInt64) : FileTime where
  low := count.toUInt32
  high := (count >>> 32).toUInt32

/-- The count that the halves make up. -/
def count (time : FileTime) : UInt64 :=
  time.high.toUInt64 <<< 32 ||| time.low.toUInt64

end FileTime

/-- The times that the system tells. -/
structure SystemTimes where
  idle : FileTime
  kernel : FileTime
  user : FileTime
  deriving DecidableEq, Repr

/-- The counters. Kernel time includes idle time, which is taken out of it. -/
def ticksOfTimes (idle kernel user : UInt64) : Ticks where
  user := user
  nice := 0
  system := UInt64.ofNat (kernel.toNat - idle.toNat)
  idle := idle

/-- The counters that the system's times give. -/
def SystemTimes.ticks (times : SystemTimes) : Ticks :=
  ticksOfTimes times.idle.count times.kernel.count times.user.count

/-- The counters of the processor. -/
def ticks (system : WindowsSystem) : Answer Ticks :=
  match system.times with
  | .ok (idle, kernel, user) =>
    .ok (SystemTimes.ticks ⟨.ofCount idle, .ofCount kernel, .ofCount user⟩)
  | .error (code, text) => .error (.nativeQuery "GetSystemTimes" code text)

/-- The identifier and the vendor that the environment gives, with a comma between them. -/
def splitIdentifier (identifier : String) : String × Option String :=
  match Text.splitLast? ',' identifier.toList with
  | some (before, after) => (Text.trimmed before, some (Text.trimmed after))
  | none => (Text.trim identifier, none)

/-- Whether an architecture is a 64-bit one. -/
def is64Bit (architecture : String) : Bool :=
  let name := Text.lowerAscii (Text.trim architecture).toList
  ["amd64", "arm64", "ia64"].contains (String.ofList name)

/-- An identity completed from the environment. The vendor found there counts only where none is
known. -/
def completeIdentity (identity : Identity) (identifier architecture : Option String) : Identity :=
  let cpu64 := architecture.map is64Bit
  match identifier.map splitIdentifier with
  | none => { identity with cpu64 }
  | some (text, vendor) =>
    { identity with
      identifier := text
      vendor := if identity.vendor.isEmpty then vendor.getD "" else identity.vendor
      cpu64 }

/-! ## The layer -/

/-- The USB devices of a machine. -/
def usbRecords (system : WindowsSystem) : Answer (List UsbRecord) :=
  DeviceTree.usbRecords system.locateCode system.devices

/-- A Windows machine and the services. -/
abbrev WindowsMachine := Machine WindowsSystem

/-- The identity of the processor. -/
def processorIdentity (machine : WindowsMachine) : Identity :=
  completeIdentity machine.host.identity machine.native.identifier machine.native.architecture

/-- The way to read a Windows machine. -/
def layer : Layer (StateM WindowsMachine) where
  platform := .windows
  processor := Machine.processor (fun machine => .ok (processorIdentity machine)) ticks
  memory := Machine.memory
  system := {
    manufacturer := Machine.ask fun system =>
      system.registry.asRegistry.biosValue "SystemManufacturer"
    model := Machine.ask fun system => system.registry.asRegistry.model
    serialNumber := Machine.ask fun _ => .ok none
    firmware := Machine.ask fun system => system.registry.asRegistry.firmware }
  sensors := Machine.fanlessSensors
  disks := Machine.askHost fun host => .ok (host.disks.map Host.reportDisk)
  displays := Machine.ask fun system => system.registry.asRegistry.displays
  network := Machine.askHost fun host => .ok host.network
  sound := Machine.ask fun system => system.registry.asRegistry.soundCards
  power := Machine.askHost Host.power
  usb tree := Machine.ask fun system => (usbRecords system).map (UsbRecord.devices tree)

end HardwareReport.Windows
