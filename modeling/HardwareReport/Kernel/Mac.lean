import HardwareReport.Host
import HardwareReport.Kernel.Variables

/-!
# Kernel — the macOS backend

Counters come from the kernel's statistics and the identity from its variables.
-/

namespace HardwareReport.Kernel

/-- What a macOS machine tells. -/
structure MacSystem where
  /-- The counters in the kernel's order: user, system, idle, nice. -/
  counters : UInt32 × UInt32 × UInt32 × UInt32 := (0, 0, 0, 0)
  /-- What the call for the counters returns; zero stands for success. -/
  status : Int := 0
  known : Variables := []

namespace MacSystem

/-- The counters in the order of a sample. -/
def ticksOfCounters : UInt32 × UInt32 × UInt32 × UInt32 → Ticks
  | (user, system, idle, nice) => ⟨user.toUInt64, nice.toUInt64, system.toUInt64, idle.toUInt64⟩

/-- The counters of the processor. -/
def ticks (system : MacSystem) : Answer Ticks :=
  if system.status = 0 then .ok (ticksOfCounters system.counters)
  else .error
    (.nativeQuery "host_statistics" system.status "failed to read HOST_CPU_LOAD_INFO")

/-- The identity of the processor. What the variables do not tell is taken from the services. -/
def identity (known : Variables) (fallback : Identity) : Answer Identity := do
  let vendor := (← known.text "machdep.cpu.vendor").getD fallback.vendor
  let name := (← known.text "machdep.cpu.brand_string").getD fallback.name
  let cpu64 := (← known.integer "hw.cpu64bit_capable").map (· != 0)
  let family ← known.integer "machdep.cpu.family"
  let model ← known.integer "machdep.cpu.model"
  let stepping ← known.integer "machdep.cpu.stepping"
  let identifier := match family, model, stepping with
    | some family, some model, some stepping =>
      Identifier.write vendor cpu64 ⟨toString family, toString model, toString stepping⟩
    | _, _, _ => ""
  return { vendor, name, identifier, cpu64 }

/-- The way to read a macOS machine. -/
def layer : Layer (StateM (Machine MacSystem)) where
  platform := .macOs
  processor := Machine.processor
    (fun machine => identity machine.native.known machine.host.identity) ticks
  memory := Machine.memory
  system := {
    manufacturer := Machine.ask fun _ => .ok (some "Apple Inc.")
    model := Machine.ask fun system => system.known.text "hw.model"
    serialNumber := Machine.ask fun _ => .ok none
    firmware := Machine.ask fun _ => .ok {} }
  sensors := Machine.fanlessSensors
  disks := Machine.askHost fun host => .ok (host.disks.map Host.reportDisk)
  displays := Machine.missing .macOs "displays"
  network := Machine.askHost fun host => .ok host.network
  sound := Machine.missing .macOs "sound cards"
  power := Machine.askHost Host.power
  usb _ := Machine.missing .macOs "usb devices"

end MacSystem

end HardwareReport.Kernel
