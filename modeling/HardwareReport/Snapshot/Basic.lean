import HardwareReport.Layer
import HardwareReport.Options.Basic

/-!
# Snapshot — one look at a machine

A snapshot reads the sections asked for, one after the other. A section that cannot be read is
missing from it and noted among the errors; the others are read all the same.

* `Snapshot` — what was read;
* `Snapshot.record` — puts the answer for one section in its place;
* `Snapshot.collect` — reads all sections asked for.
-/

namespace HardwareReport

/-! ## What is read -/

/-- The processor section. -/
structure ProcessorReport where
  identity : Identity
  logicalCount : Nat
  loadAverage : Option Float
  systemLoad : Float32
  ticks : Ticks
  /-- The percentage of time over the interval that was not idle. -/
  load : Float32
  interval : Duration

/-- The memory section. -/
structure MemoryReport where
  total : UInt64
  available : UInt64
  swapTotal : UInt64
  swapUsed : UInt64
  deriving DecidableEq, Repr

/-- The system section. -/
structure SystemReport where
  manufacturer : Option String
  model : Option String
  serialNumber : Option String
  firmware : Firmware
  deriving DecidableEq, Repr

/-- The sensors section. -/
structure SensorsReport where
  temperatures : List Temperature
  /-- Missing where the platform has no way to read fans. -/
  fanSpeeds : Option (List UInt32)

/-- A section that could not be read, and why. -/
structure SectionError where
  area : Section
  error : HardwareError
  deriving DecidableEq, Repr

/-- What was read. Sections not asked for and sections that could not be read are missing. -/
structure Snapshot where
  platform : Platform
  processor : Option ProcessorReport := none
  memory : Option MemoryReport := none
  system : Option SystemReport := none
  sensors : Option SensorsReport := none
  disks : Option (List Disk) := none
  displays : Option (List Display) := none
  network : Option (List NetworkInterface) := none
  sound : Option (List SoundCard) := none
  power : Option (List PowerSource) := none
  usb : Option (List UsbDevice) := none
  errors : List SectionError := []

/-! ## Reading a section -/

variable {m : Type → Type} [Monad m]

/-- Reads the processor section. -/
def ProcessorReport.read (source : ProcessorSource m) (interrupt : Interrupt m)
    (interval : Duration) : ExceptT HardwareError m ProcessorReport := do
  let ticks ← source.ticks
  let load ← source.loadOver interrupt interval
  let identity ← source.identityOrUnknown
  let logicalCount ← source.logicalCount
  let loadAverage ← source.loadAverage
  let systemLoad ← source.systemLoad
  return { identity, logicalCount, loadAverage, systemLoad, ticks, load, interval }

/-- Reads the memory section. -/
def MemoryReport.read (source : MemorySource m) : ExceptT HardwareError m MemoryReport := do
  let total ← source.total
  let available ← source.available
  let swapTotal ← source.swapTotal
  let swapUsed ← source.swapUsed
  return { total, available, swapTotal, swapUsed }

/-- Reads the system section. -/
def SystemReport.read (source : SystemSource m) : ExceptT HardwareError m SystemReport := do
  let manufacturer ← source.manufacturer
  let model ← source.model
  let serialNumber ← source.serialNumber
  let firmware ← source.firmware
  return { manufacturer, model, serialNumber, firmware }

/-- The fans of an answer: a platform that has no way to read them is not a failure. -/
def SensorsReport.fans : Answer (List UInt32) → Answer (Option (List UInt32))
  | .ok speeds => .ok (some speeds)
  | .error (.notEnumerable _ _) => .ok none
  | .error error => .error error

/-- Reads the sensors section. -/
def SensorsReport.read (source : SensorSource m) : ExceptT HardwareError m SensorsReport := do
  let temperatures ← source.temperatures
  let fanSpeeds ← ExceptT.mk do return SensorsReport.fans (← source.fanSpeeds.run)
  return { temperatures, fanSpeeds }

/-! ## Collecting -/

namespace Snapshot

/-- Puts the answer for one section in its place, or notes why there is none. -/
def record {α : Type} (area : Section) (place : Option α → Snapshot → Snapshot)
    (answer : Answer α) (snapshot : Snapshot) : Snapshot :=
  match answer with
  | .ok value => place (some value) snapshot
  | .error error =>
    -- A section asked for twice keeps nothing of the first answer if the second fails.
    let without := place none snapshot
    { without with errors := without.errors ++ [⟨area, error⟩] }

/-- Reads one section into a snapshot. -/
def visit (layer : Layer m) (interrupt : Interrupt m) (options : ReportOptions)
    (snapshot : Snapshot) (area : Section) : m Snapshot := do
  match area with
  | .processor =>
    let answer ← (ProcessorReport.read layer.processor interrupt options.interval).run
    return snapshot.record area (fun value s => { s with processor := value }) answer
  | .memory =>
    let answer ← (MemoryReport.read layer.memory).run
    return snapshot.record area (fun value s => { s with memory := value }) answer
  | .system =>
    let answer ← (SystemReport.read layer.system).run
    return snapshot.record area (fun value s => { s with system := value }) answer
  | .sensors =>
    let answer ← (SensorsReport.read layer.sensors).run
    return snapshot.record area (fun value s => { s with sensors := value }) answer
  | .disks =>
    return snapshot.record area (fun value s => { s with disks := value }) (← layer.disks.run)
  | .displays =>
    return snapshot.record area (fun value s => { s with displays := value })
      (← layer.displays.run)
  | .network =>
    return snapshot.record area (fun value s => { s with network := value }) (← layer.network.run)
  | .sound =>
    return snapshot.record area (fun value s => { s with sound := value }) (← layer.sound.run)
  | .power =>
    return snapshot.record area (fun value s => { s with power := value }) (← layer.power.run)
  | .usb =>
    return snapshot.record area (fun value s => { s with usb := value })
      (← (layer.usb options.usbTree).run)

/-- Reads every section asked for, in order. Sampling the load takes the interval asked for unless
it is interrupted. -/
def collect (layer : Layer m) (interrupt : Interrupt m) (options : ReportOptions) : m Snapshot :=
  options.sections.foldlM (visit layer interrupt options) { platform := layer.platform }

end Snapshot

end HardwareReport
