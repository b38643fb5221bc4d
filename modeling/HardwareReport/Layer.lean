import HardwareReport.Disk
import HardwareReport.Display
import HardwareReport.Firmware
import HardwareReport.Network.Interface
import HardwareReport.Power
import HardwareReport.Processor.Basic
import HardwareReport.Sensors
import HardwareReport.Sound
import HardwareReport.Usb.Device

/-!
# Layer — the questions put to a machine

A backend answers a fixed set of questions about the machine it reads. Each answer is looked up
when the question is asked.
-/

namespace HardwareReport

/-- The memory of a machine, in bytes. -/
structure MemorySource (m : Type → Type) where
  total : ExceptT HardwareError m UInt64
  /-- What can be handed out without moving anything to swap. -/
  available : ExceptT HardwareError m UInt64
  swapTotal : ExceptT HardwareError m UInt64
  swapUsed : ExceptT HardwareError m UInt64

/-- The identity of a machine. -/
structure SystemSource (m : Type → Type) where
  manufacturer : ExceptT HardwareError m (Option String)
  model : ExceptT HardwareError m (Option String)
  serialNumber : ExceptT HardwareError m (Option String)
  firmware : ExceptT HardwareError m Firmware

/-- The sensors of a machine. -/
structure SensorSource (m : Type → Type) where
  temperatures : ExceptT HardwareError m (List Temperature)
  /-- The speeds of all fans in turns a minute. -/
  fanSpeeds : ExceptT HardwareError m (List UInt32)

/-- A way to read a machine. -/
structure Layer (m : Type → Type) where
  platform : Platform
  processor : ProcessorSource m
  memory : MemorySource m
  system : SystemSource m
  sensors : SensorSource m
  disks : ExceptT HardwareError m (List Disk)
  displays : ExceptT HardwareError m (List Display)
  network : ExceptT HardwareError m (List NetworkInterface)
  sound : ExceptT HardwareError m (List SoundCard)
  power : ExceptT HardwareError m (List PowerSource)
  /-- The USB devices, as a forest or flat. -/
  usb : Bool → ExceptT HardwareError m (List UsbDevice)

/-- The temperature of the processor, if a sensor shows it. -/
def SensorSource.processorTemperature {m : Type → Type} [Monad m] (source : SensorSource m) :
    ExceptT HardwareError m (Option Float32) := do
  return Temperature.ofProcessor? (← source.temperatures)

/-- The same layer for computations in which the questions can be embedded. -/
def Layer.embed {m n : Type → Type} (ask : {α : Type} → m α → n α) (layer : Layer m) : Layer n where
  platform := layer.platform
  processor := layer.processor.embed ask
  memory := {
    total := .mk (ask layer.memory.total.run)
    available := .mk (ask layer.memory.available.run)
    swapTotal := .mk (ask layer.memory.swapTotal.run)
    swapUsed := .mk (ask layer.memory.swapUsed.run) }
  system := {
    manufacturer := .mk (ask layer.system.manufacturer.run)
    model := .mk (ask layer.system.model.run)
    serialNumber := .mk (ask layer.system.serialNumber.run)
    firmware := .mk (ask layer.system.firmware.run) }
  sensors := {
    temperatures := .mk (ask layer.sensors.temperatures.run)
    fanSpeeds := .mk (ask layer.sensors.fanSpeeds.run) }
  disks := .mk (ask layer.disks.run)
  displays := .mk (ask layer.displays.run)
  network := .mk (ask layer.network.run)
  sound := .mk (ask layer.sound.run)
  power := .mk (ask layer.power.run)
  usb tree := .mk (ask (layer.usb tree).run)

end HardwareReport
