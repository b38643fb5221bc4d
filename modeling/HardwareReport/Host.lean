import HardwareReport.Layer
import HardwareReport.Text.Encoding

/-!
# Host — what every system tells in the same way

Some of what a report holds comes from services that are the same on all platforms. A backend asks
them besides its own sources.

* `Host` — what the services know;
* `Host.memory`, `Host.disks`, `Host.network`, `Host.power` and so on — the answers they give.
-/

namespace HardwareReport

/-! ## What the services know -/

/-- The kind of a drive. -/
inductive DriveKind where
  | ssd
  | hdd
  | unknown (number : Int)
  deriving DecidableEq, Repr

/-- The name of a kind of drive. -/
def DriveKind.text : DriveKind → String
  | .ssd => "SSD"
  | .hdd => "HDD"
  | .unknown number => "Unknown(" ++ toString number ++ ")"

/-- A mounted file system, with its texts as the bytes that the system has for them. -/
structure HostDisk where
  name : List UInt8
  mountPoint : List UInt8
  fileSystem : List UInt8
  kind : DriveKind
  totalBytes : UInt64
  availableBytes : UInt64
  removable : Bool

/-- A network interface. -/
structure HostInterface where
  name : String
  mac : List UInt8
  addresses : List (Address × UInt8)
  bytesReceived : UInt64
  bytesSent : UInt64
  packetsReceived : UInt64
  packetsSent : UInt64
  errorsReceived : UInt64
  errorsSent : UInt64

/-- What a battery does. -/
inductive BatteryState where
  | charging
  | discharging
  | empty
  | full
  | unknown
  deriving DecidableEq, Repr

/-- A battery. -/
structure Battery where
  vendor : Option String
  model : Option String
  state : BatteryState
  /-- The seconds until it is empty, where that can be said. -/
  timeToEmpty : Option Float32
  /-- What is left of a full charge, as a fraction. -/
  charge : Float32

/-- A failure of the battery service: its wording, and the system's code if there is one. -/
structure BatteryFault where
  text : String
  code : Option Int
  deriving DecidableEq, Repr

/-- The battery service. It and the list of batteries may fail, and so may every battery. -/
structure BatteryService where
  manager : Except BatteryFault Unit := .ok ()
  list : Except BatteryFault (List (Except BatteryFault Battery)) := .ok []

/-- What the services know. -/
structure Host where
  /-- The vendor and the brand of each logical processor. -/
  processors : List (String × String) := []
  /-- The usage at each of the next questions for it, in percent. -/
  usage : List Float32 := []
  loadAverage : Float := 0
  memoryTotal : UInt64 := 0
  memoryAvailable : UInt64 := 0
  swapTotal : UInt64 := 0
  swapUsed : UInt64 := 0
  components : List Temperature := []
  disks : List HostDisk := []
  interfaces : List HostInterface := []
  batteries : BatteryService := {}
  /-- The name of the machine's processor, on systems that keep it in the kernel. -/
  processorName : Option String := none

namespace Host

/-! ## The processor -/

/-- The vendor and the brand of the first processor. -/
def identity (host : Host) : Identity :=
  match host.processors with
  | (vendor, brand) :: _ => { vendor := Text.trim vendor, name := Text.trim brand }
  | [] => {}

/-- The count of logical processors, at least one. -/
def logicalCount (host : Host) : Nat :=
  max 1 host.processors.length

/-- The load average, unless it is negative or the services run on a system that has none. -/
def knownLoadAverage (host : Host) : Option Float :=
  -- Where there is no such average the services say zero, which is no answer.
  if Platform.current = .windows ∨ host.loadAverage < 0 then none else some host.loadAverage

/-- A percentage moved into the range from zero to one hundred; what is no finite number counts as
zero. -/
def clampUsage (percent : Float32) : Float32 :=
  if percent.isFinite then if percent < 0 then 0 else if 100 < percent then 100 else percent
  else 0

/-- The usage since the last question, and the services after this one. -/
def nextUsage (host : Host) : Float32 × Host :=
  match host.usage with
  | percent :: rest => (clampUsage percent, { host with usage := rest })
  | [] => (0, host)

/-! ## Memory and sensors -/

/-- Services that know of no memory have failed to read it. -/
def checkMemory (host : Host) : Answer Host :=
  if host.memoryTotal == 0 then
    .error (.nativeQuery "memory statistics" (-1) "the platform reported no physical memory")
  else .ok host

/-- The temperature sensors. What is no finite number is not shown. -/
def temperatures (host : Host) : List Temperature :=
  host.components.map fun component =>
    { component with celsius := component.celsius.filter Float32.isFinite }

/-! ## Disks and networks -/

/-- A mounted file system as reported. -/
def reportDisk (disk : HostDisk) : Disk where
  name := if disk.name.isEmpty then "No Name" else Text.lossyBytes disk.name
  mountPoint := Text.lossyBytes disk.mountPoint
  fileSystem := Text.lossyBytes disk.fileSystem
  kind := disk.kind.text
  totalBytes := disk.totalBytes
  availableBytes := disk.availableBytes
  removable := disk.removable

/-- A network interface as reported. -/
def reportInterface (interface : HostInterface) : NetworkInterface where
  name := interface.name
  mac := macText interface.mac
  addresses := interface.addresses.map fun address =>
    address.1.text ++ "/" ++ toString address.2.toNat
  bytesReceived := interface.bytesReceived
  bytesSent := interface.bytesSent
  packetsReceived := interface.packetsReceived
  packetsSent := interface.packetsSent
  errorsReceived := interface.errorsReceived
  errorsSent := interface.errorsSent

/-- The network interfaces by name. -/
def network (host : Host) : List NetworkInterface :=
  (host.interfaces.map reportInterface).mergeSort fun a b => a.name ≤ b.name

/-! ## Power -/

/-- The failure of a question to the battery service. -/
def batteryError (query : String) (fault : BatteryFault) : HardwareError :=
  .nativeQuery query (fault.code.getD (-1)) fault.text

/-- The name of a battery, or its number where it has no model. -/
def batteryName (index : Nat) (battery : Battery) : String :=
  match battery.vendor, battery.model with
  | some vendor, some model => Text.trim vendor ++ " " ++ Text.trim model
  | none, some model => Text.trim model
  | _, none => "Battery " ++ toString index

/-- How long a battery is going to last. -/
def batteryTime (battery : Battery) : TimeRemaining :=
  match battery.state, battery.timeToEmpty with
  | .charging, _ | .full, _ => .unlimited
  | .discharging, some seconds => .seconds (Number.widen seconds)
  | .discharging, none => .estimating
  | .empty, _ => .seconds 0
  | .unknown, _ => .estimating

/-- A fraction moved into the range from zero to one. -/
def clampFraction (x : Float) : Float :=
  if x < 0 then 0 else if 1 < x then 1 else x

/-- A battery as reported. -/
def reportBattery (index : Nat) (battery : Battery) : PowerSource where
  name := batteryName index battery
  capacity := clampFraction (Number.widen battery.charge)
  timeRemaining := batteryTime battery

/-- The batteries from number `index` on. The first that fails makes the whole answer fail. -/
def reportBatteries : Nat → List (Except BatteryFault Battery) → Answer (List PowerSource)
  | _, [] => .ok []
  | _, .error fault :: _ => .error (batteryError "battery" fault)
  | index, .ok battery :: rest =>
    (reportBatteries (index + 1) rest).map (reportBattery index battery :: ·)

/-- The batteries. -/
def power (host : Host) : Answer (List PowerSource) :=
  match host.batteries.manager, host.batteries.list with
  | .error fault, _ => .error (batteryError "battery manager" fault)
  | .ok (), .error fault => .error (batteryError "battery enumeration" fault)
  | .ok (), .ok batteries => reportBatteries 0 batteries

end Host

/-! ## The services as sources -/

/-- A machine that a backend reads: its own sources and the services. -/
structure Machine (σ : Type) where
  native : σ
  host : Host

namespace Machine

variable {σ : Type}

/-- An answer from the backend's own sources. -/
def ask {α : Type} (answer : σ → Answer α) : ExceptT HardwareError (StateM (Machine σ)) α :=
  ExceptT.mk do return answer (← get).native

/-- An answer from the services. -/
def askHost {α : Type} (answer : Host → Answer α) : ExceptT HardwareError (StateM (Machine σ)) α :=
  ExceptT.mk do return answer (← get).host

/-- A question that a platform has no source for. -/
def missing {α : Type} (platform : Platform) (what : String) :
    ExceptT HardwareError (StateM (Machine σ)) α :=
  askHost fun _ => .error (.notEnumerable what platform)

/-- The usage since the last question. -/
def nextUsage : StateM (Machine σ) Float32 := do
  let machine ← get
  let (percent, host) := machine.host.nextUsage
  set { machine with host }
  return percent

/-- The memory, from the services. -/
def memory : MemorySource (StateM (Machine σ)) where
  total := askHost fun host => host.checkMemory.map (·.memoryTotal)
  available := askHost fun host => host.checkMemory.map (·.memoryAvailable)
  swapTotal := askHost fun host => host.checkMemory.map (·.swapTotal)
  swapUsed := askHost fun host => host.checkMemory.map (·.swapUsed)

/-- Sensors that only the services know of, on a system without a way to read fans. -/
def fanlessSensors : SensorSource (StateM (Machine σ)) where
  temperatures := askHost fun host => .ok host.temperatures
  fanSpeeds := missing Platform.current "fans"

/-- The processor, from the services but for its identity and its counters. -/
def processor (identity : Machine σ → Answer Identity) (ticks : σ → Answer Ticks) :
    ProcessorSource (StateM (Machine σ)) where
  identity := ExceptT.mk do return identity (← get)
  ticks := ask ticks
  logicalCount := do return (← get).host.logicalCount
  loadAverage := do return (← get).host.knownLoadAverage
  systemLoad := nextUsage

end Machine

end HardwareReport
