import HardwareReport.Linux.Attribute
import HardwareReport.Text.Split
import HardwareReport.Usb.Device

/-!
# Linux — USB devices

Every USB device has a directory. Root hubs are named `usb1`, `usb2` and so on; the name of any
other device has its bus, a dash and the numbers of the sockets on the way to it, with points
between them.
-/

namespace HardwareReport.Linux

open FileTree

/-- Whether a name is that of a root hub. -/
def isRootHub (id : String) : Bool :=
  "usb".toList.isPrefixOf id.toList

/-- The id of the hub that a device hangs off: `1-1.2` off `1-1`, and that off `usb1`. -/
def usbParent? (id : String) : Option String :=
  if isRootHub id then none
  else
    (Text.splitOnce? ['-'] id.toList).map fun parts =>
      match Text.splitLast? '.' parts.2 with
      | some way => String.ofList (parts.1 ++ ['-'] ++ way.1)
      | none => String.ofList ("usb".toList ++ parts.1)

/-- The name of a device that does not say its own. -/
def usbFallbackName (id : String) : String :=
  if isRootHub id then "USB root hub " ++ String.ofList (id.toList.drop 3)
  else "USB device " ++ id

/-- The record of the device with an id. -/
def usbRecord (tree : Node) (root : Path) (id : String) : Answer UsbRecord := do
  let vendor ← attributeText tree (root ++ [id, "manufacturer"])
  let name ← readAttribute tree (root ++ [id, "product"])
  let vendorId ← attributeText tree (root ++ [id, "idVendor"])
  let productId ← attributeText tree (root ++ [id, "idProduct"])
  let serialNumber ← attributeText tree (root ++ [id, "serial"])
  return {
    id
    parentId := usbParent? id
    details := { name := name.getD (usbFallbackName id), vendor, vendorId, productId, serialNumber } }

/-- Whether a name is that of a device and not of one of its interfaces. -/
def isUsbDevice (id : String) : Bool :=
  !id.toList.contains ':'

/-- The devices with directories below `root`, in the order of their names. -/
def usbRecords (tree : Node) (root : Path) : Answer (List UsbRecord) := do
  let names ← sortedNames tree root
  (names.filter isUsbDevice).mapM (usbRecord tree root)

end HardwareReport.Linux
