import HardwareReport.Quantity
import HardwareReport.Json

/-!
# Disk — mounted file systems
-/

namespace HardwareReport

/-- A mounted file system. -/
structure Disk where
  name : String := ""
  mountPoint : String := ""
  fileSystem : String := ""
  /-- The kind of drive, such as `SSD`. -/
  kind : String := ""
  totalBytes : UInt64 := 0
  availableBytes : UInt64 := 0
  removable : Bool := false
  deriving DecidableEq, Repr

namespace Disk

/-- The bytes in use, none if more are available than there are. -/
def usedBytes (disk : Disk) : Nat :=
  disk.totalBytes.toNat - disk.availableBytes.toNat

/-- The disk in data. -/
def toJson (disk : Disk) : Json :=
  .object [("name", .text disk.name), ("mount_point", .text disk.mountPoint),
    ("file_system", .text disk.fileSystem), ("kind", .text disk.kind),
    ("total_bytes", Json.nat disk.totalBytes.toNat),
    ("available_bytes", Json.nat disk.availableBytes.toNat),
    ("removable", .bool disk.removable)]

/-- The line for a disk in a list. -/
def line (disk : Disk) : String :=
  "  " ++ disk.name ++ " on " ++ disk.mountPoint ++ " (" ++ disk.fileSystem ++ ", " ++ disk.kind ++
    (if disk.removable then ", removable" else "") ++ "): " ++
    Quantity.binaryBytesText disk.availableBytes ++ " free of " ++
    Quantity.binaryBytesText disk.totalBytes

end Disk

end HardwareReport
