import HardwareReport.Host
import HardwareReport.Linux.Devices
import HardwareReport.Linux.Processor
import HardwareReport.Linux.Sound
import HardwareReport.Linux.Usb

/-!
# Linux — the backend

The kernel's directory tree answers for the processor, the identity of the machine, displays, fans,
sound cards and USB devices; the services answer for the rest.
-/

namespace HardwareReport.Linux

open FileTree

/-- A Linux machine: its directory tree and the services. -/
abbrev LinuxMachine := Machine Node

/-- The way to read a Linux machine. -/
def layer : Layer (StateM LinuxMachine) where
  platform := .linux
  processor :=
    Machine.processor (fun machine => processorIdentity machine.native) processorTicks
  memory := Machine.memory
  system := {
    manufacturer := Machine.ask fun tree => dmi tree "sys_vendor"
    model := Machine.ask model
    serialNumber := Machine.ask fun tree => dmi tree "product_serial"
    firmware := Machine.ask firmware }
  sensors := {
    temperatures := Machine.askHost fun host => .ok host.temperatures
    fanSpeeds := Machine.ask fun tree => fanSpeeds tree ["sys", "class", "hwmon"] }
  disks := Machine.askHost fun host => .ok (host.disks.map Host.reportDisk)
  displays := Machine.ask fun tree => displays tree ["sys", "class", "drm"]
  network := Machine.askHost fun host => .ok host.network
  sound := Machine.ask fun tree => soundCards tree ["proc", "asound"]
  power := Machine.askHost Host.power
  usb tree :=
    Machine.ask fun files =>
      (usbRecords files ["sys", "bus", "usb", "devices"]).map (UsbRecord.devices tree)

end HardwareReport.Linux
