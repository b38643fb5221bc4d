import HardwareReport.Error
import HardwareReport.Firmware
import HardwareReport.Text.Encoding
import HardwareReport.Usb.Device
import HardwareReport.Windows.UsbId

/-!
# Windows — the device tree

The configuration manager keeps all devices in one tree. A walk over it takes the children of a
device from the last to the first and finds the USB devices, each below the nearest USB device
above it. The walk fails at the first thing it cannot read.

* `DeviceNode` — the tree;
* `DeviceNode.children` — the children of a device, as the manager enumerates them;
* `DeviceTree.usbRecords` — the USB devices.
-/

namespace HardwareReport.Windows

/-- A code that the configuration manager returns; zero stands for success. -/
abbrev ManagerCode := UInt32

/-- What the manager knows of a device, and the codes that its calls for it return. -/
structure DeviceFacts where
  id : List UInt16 := []
  friendlyName : Option (List UInt16) := none
  description : Option (List UInt16) := none
  manufacturer : Option (List UInt16) := none
  /-- What asking for the id returns. -/
  idCode : ManagerCode := 0
  /-- What asking for the first child returns. -/
  childCode : ManagerCode := 0
  /-- What asking for the next sibling returns. -/
  siblingCode : ManagerCode := 0
  deriving DecidableEq, Repr

/-- A device and the devices below it. -/
abbrev DeviceNode := Tree DeviceFacts

/-! ## Calls -/

/-- The code for a device that does not exist, which ends an enumeration. -/
def noSuchDevice : ManagerCode := 13

/-- The code for an id that does not fit its buffer. -/
def bufferTooSmall : ManagerCode := 26

/-- The failure of a call. -/
def managerError (query : String) (code : ManagerCode) : HardwareError :=
  .nativeQuery query (Int.bmod code.toNat UInt32.size)
    ("configuration manager returned 0x" ++ String.ofList (Nat.toDigits 16 code.toNat))

/-- Units up to the first that is zero, as text. -/
def wideText (units : List UInt16) : String :=
  Text.lossyUnits (units.takeWhile (· != 0))

/-- The longest id, in units. -/
def longestId : Nat := 200

/-- The longest property, in units. -/
def longestProperty : Nat := 255

namespace DeviceFacts

/-- The id of a device. -/
def readId (facts : DeviceFacts) : Answer String :=
  if facts.idCode != 0 then .error (managerError "CM_Get_Device_IDW" facts.idCode)
  else if longestId < facts.id.length then
    .error (managerError "CM_Get_Device_IDW" bufferTooSmall)
  else .ok (wideText facts.id)

/-- A property of a device, if it has one that is not too long. -/
def property? (units : Option (List UInt16)) : Option String :=
  match units with
  | some units => if longestProperty < units.length then none else Firmware.trimmed? (wideText units)
  | none => none

/-- The name of a device. -/
def name (facts : DeviceFacts) (id : String) : String :=
  match property? facts.friendlyName, property? facts.description with
  | some name, _ => name
  | none, some name => name
  | none, none => "USB device " ++ id

/-- The record of a USB device. -/
def record (facts : DeviceFacts) (parent : Option String) (id : String) (usb : UsbId) :
    UsbRecord where
  id := id
  parentId := parent
  details := {
    name := facts.name id
    vendor := (property? facts.manufacturer).getD ""
    vendorId := usb.vendorId
    productId := usb.productId
    serialNumber := usb.serialNumber }

end DeviceFacts

/-! ## Enumerating children -/

namespace DeviceNode

/-- The devices from one on, as asking for one sibling after the other gives them. -/
def siblings : List DeviceNode → Answer (List DeviceNode)
  | [] => .ok []
  | device :: rest =>
    if device.value.siblingCode == 0 then (siblings rest).map (device :: ·)
    else if device.value.siblingCode == noSuchDevice then .ok [device]
    else .error (managerError "CM_Get_Child" device.value.siblingCode)

/-- The children of a device. -/
def children (device : DeviceNode) : Answer (List DeviceNode) :=
  if device.value.childCode == 0 then siblings device.branches
  else if device.value.childCode == noSuchDevice then .ok []
  else .error (managerError "CM_Get_Child" device.value.childCode)

end DeviceNode

/-! ## The walk -/

namespace DeviceTree

mutual

/-- The USB devices of a tree, below a USB device or not. -/
def walk (parent : Option String) : DeviceNode → Answer (List UsbRecord)
  | .node facts below => do
    let id ← facts.readId
    -- The whole enumeration comes first: it may fail after some children were found.
    let listed ← DeviceNode.children (.node facts below)
    match UsbId.parse? id with
    | some usb =>
      let records ← walkLast (some id) listed.length below
      return facts.record parent id usb :: records
    | none => walkLast parent listed.length below

/-- The USB devices of the first `count` of several trees, from the last tree to the first. -/
def walkLast (parent : Option String) (count : Nat) : List DeviceNode → Answer (List UsbRecord)
  | [] => .ok []
  | device :: rest =>
    match count with
    | 0 => .ok []
    | count + 1 => do
      -- The last tree is walked first, and its failure is the one reported.
      let later ← walkLast parent count rest
      let here ← walk parent device
      return later ++ here

end

/-- The USB devices of a tree in the order of their ids, if the tree can be found. -/
def usbRecords (locateCode : ManagerCode) (root : DeviceNode) : Answer (List UsbRecord) :=
  if locateCode != 0 then .error (managerError "CM_Locate_DevNodeW" locateCode)
  else (walk none root).map fun records => records.mergeSort fun a b => a.id ≤ b.id

end DeviceTree

end HardwareReport.Windows
