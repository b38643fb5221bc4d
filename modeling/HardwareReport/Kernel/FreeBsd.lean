import HardwareReport.Host
import HardwareReport.Kernel.Variables

/-!
# Kernel — the FreeBSD backend

Counters come from a variable of the kernel and the identity of the machine from the environment
that the loader left.
-/

namespace HardwareReport.Kernel

/-- What a FreeBSD machine tells. -/
structure FreeBsdSystem where
  known : Variables := []
  environment : Variables := []

namespace FreeBsdSystem

/-- The numbers of eight bytes that follow each other, `count` of them. -/
def words : Nat → List UInt8 → List Int
  | 0, _ => []
  | count + 1, bytes => Number.signedLittleEndian 8 bytes :: words count (bytes.drop 8)

/-- A counter; what is negative counts as zero. -/
def counter (n : Int) : UInt64 := UInt64.ofNat n.toNat

/-- The counters of a sample. The time spent on interrupts counts as system time. -/
def ticksOfTimes (user nice system interrupt idle : Int) : Ticks where
  user := counter user
  nice := counter nice
  system := Ticks.saturatingSum [counter system, counter interrupt]
  idle := counter idle

/-- The counters of the processor. -/
def ticks (system : FreeBsdSystem) : Answer Ticks :=
  match system.known.read "kern.cp_time" 40 with
  | .error fault => .error (.ofFault "sysctl kern.cp_time" fault)
  | .ok bytes =>
    match words 5 bytes with
    | [user, nice, kernel, interrupt, idle] => .ok (ticksOfTimes user nice kernel interrupt idle)
    | _ => .ok ⟨0, 0, 0, 0⟩

/-- The identity of the processor, from the services; the kernel has a name where they have
none. -/
def identity (host : Host) : Identity :=
  let known := host.identity
  -- The program is a 64-bit one, and so is a processor that runs it.
  let name := if known.name.isEmpty then (host.processorName.map Text.trim).getD "" else known.name
  { known with name, cpu64 := some true }

/-- The model of the machine. -/
def model (environment : Variables) : Answer (Option String) := do
  let name ← environment.environmentText "smbios.system.product"
  let version ← environment.environmentText "smbios.system.version"
  return Firmware.modelText? name version

/-- The firmware of the machine. -/
def firmware (environment : Variables) : Answer Firmware := do
  let vendor ← environment.environmentText "smbios.bios.vendor"
  let version ← environment.environmentText "smbios.bios.version"
  let releaseDate ← environment.environmentText "smbios.bios.reldate"
  return { vendor, version, releaseDate }

/-- The way to read a FreeBSD machine. -/
def layer : Layer (StateM (Machine FreeBsdSystem)) where
  platform := .freeBsd
  processor := Machine.processor (fun machine => .ok (identity machine.host)) ticks
  memory := Machine.memory
  system := {
    manufacturer := Machine.ask fun system =>
      system.environment.environmentText "smbios.system.maker"
    model := Machine.ask fun system => model system.environment
    serialNumber := Machine.ask fun system =>
      system.environment.environmentText "smbios.system.serial"
    firmware := Machine.ask fun system => firmware system.environment }
  sensors := Machine.fanlessSensors
  disks := Machine.askHost fun host => .ok (host.disks.map Host.reportDisk)
  displays := Machine.missing .freeBsd "displays"
  network := Machine.askHost fun host => .ok host.network
  sound := Machine.missing .freeBsd "sound cards"
  power := Machine.askHost Host.power
  usb _ := Machine.missing .freeBsd "usb devices"

end FreeBsdSystem

end HardwareReport.Kernel
