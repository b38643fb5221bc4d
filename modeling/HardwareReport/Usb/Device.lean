import HardwareReport.Json
import HardwareReport.Usb.Links

/-!
# Usb — devices

A backend enumerates USB devices as flat records with parent links; they are reported either flat
or as a forest of hubs and what is plugged into them.

* `UsbDetails` — what is known of a device;
* `UsbRecord` — a device as enumerated, `UsbDevice` — a device as reported;
* `UsbRecord.flat`, `UsbRecord.forest` — the two ways to report records.
-/

namespace HardwareReport

/-- What is known of a device. What is not known is empty. -/
structure UsbDetails where
  name : String := ""
  vendor : String := ""
  vendorId : String := ""
  productId : String := ""
  serialNumber : String := ""
  deriving DecidableEq, Repr

/-- A device with the devices plugged into it. -/
abbrev UsbDevice := Tree UsbDetails

/-- A device as enumerated. -/
structure UsbRecord where
  id : String
  /-- The record of the hub or controller that the device hangs off, if any. -/
  parentId : Option String
  details : UsbDetails
  deriving DecidableEq, Repr

namespace UsbRecord

/-! ## Links -/

/-- The number of the last element that satisfies `p`. -/
def lastIndex? {α : Type} (p : α → Bool) : List α → Option Nat
  | [] => none
  | a :: rest =>
    match lastIndex? p rest with
    | some i => some (i + 1)
    | none => if p a then some 0 else none

/-- The number of the record with an id; of several the last counts. -/
def indexOf? (records : List UsbRecord) (id : String) : Option Nat :=
  lastIndex? (fun record => record.id == id) records

/-- The parent link of the record with number `i`: the record its parent id names, unless that is
no record or the record itself. -/
def link? (records : List UsbRecord) (i : Nat) (record : UsbRecord) : Option Nat :=
  (record.parentId.bind (indexOf? records)).filter (· != i)

/-- The parent links of records. -/
def links (records : List UsbRecord) : Links :=
  (records.mapIdx (link? records)).toArray

/-! ## Reports -/

/-- Every record as a device with nothing plugged into it, in order. -/
def flat (records : List UsbRecord) : List UsbDevice :=
  records.map fun record => .leaf record.details

/-- What is known of the device with number `i`. -/
def detailsAt (records : List UsbRecord) (i : Nat) : UsbDetails :=
  (records[i]?.map UsbRecord.details).getD {}

/-- The forest that the parent links describe. -/
def forest (records : List UsbRecord) : List UsbDevice :=
  Tree.forestMap (detailsAt records) (links records).forest

/-- The devices of records, as a forest or flat. -/
def devices (tree : Bool) (records : List UsbRecord) : List UsbDevice :=
  if tree then forest records else flat records

end UsbRecord

namespace UsbDevice

mutual

/-- A device in data. -/
def toJson : UsbDevice → Json
  | .node details connected =>
    .object [("name", .text details.name), ("vendor", .text details.vendor),
      ("vendor_id", .text details.vendorId), ("product_id", .text details.productId),
      ("serial_number", .text details.serialNumber),
      ("connected_devices", .list (listToJson connected))]

/-- Devices in data. -/
def listToJson : List UsbDevice → List Json
  | [] => []
  | device :: rest => toJson device :: listToJson rest

end

/-- One device in a list: its name, its vendor if known, and its ids if one of them is known. -/
def label (details : UsbDetails) : String :=
  let vendor := if details.vendor.isEmpty then "" else " (" ++ details.vendor ++ ")"
  let ids :=
    if details.vendorId.isEmpty && details.productId.isEmpty then ""
    else " [" ++ details.vendorId ++ ":" ++ details.productId ++ "]"
  details.name ++ vendor ++ ids

/-- The lines for devices, one a device in preorder, indented by two spaces a level. -/
def lines (devices : List UsbDevice) : List String :=
  (Tree.forestOutline 0 devices).map fun entry =>
    String.ofList (List.replicate (2 * (entry.1 + 1)) ' ') ++ label entry.2.value

end UsbDevice

end HardwareReport
