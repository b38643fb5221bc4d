import HardwareReport.Network.Address
import HardwareReport.Quantity
import HardwareReport.Json

/-!
# Network — interfaces
-/

namespace HardwareReport

/-- A network interface and what went through it. -/
structure NetworkInterface where
  name : String := ""
  mac : String := ""
  /-- The addresses, each with the length of its network part. -/
  addresses : List String := []
  bytesReceived : UInt64 := 0
  bytesSent : UInt64 := 0
  packetsReceived : UInt64 := 0
  packetsSent : UInt64 := 0
  errorsReceived : UInt64 := 0
  errorsSent : UInt64 := 0
  deriving DecidableEq, Repr

namespace NetworkInterface

/-- The interface in data. -/
def toJson (interface : NetworkInterface) : Json :=
  .object [("name", .text interface.name), ("mac", .text interface.mac),
    ("addresses", .list (interface.addresses.map .text)),
    ("bytes_recv", Json.nat interface.bytesReceived.toNat),
    ("bytes_sent", Json.nat interface.bytesSent.toNat),
    ("packets_recv", Json.nat interface.packetsReceived.toNat),
    ("packets_sent", Json.nat interface.packetsSent.toNat),
    ("in_errors", Json.nat interface.errorsReceived.toNat),
    ("out_errors", Json.nat interface.errorsSent.toNat)]

/-- The two lines for an interface in a list. -/
def lines (interface : NetworkInterface) : List String :=
  ["  " ++ interface.name ++ " (" ++ interface.mac ++ "): " ++
      ", ".intercalate interface.addresses,
    "    received " ++ Quantity.binaryBytesText interface.bytesReceived ++ " in " ++
      toString interface.packetsReceived.toNat ++ " packets, sent " ++
      Quantity.binaryBytesText interface.bytesSent ++ " in " ++
      toString interface.packetsSent.toNat ++ " packets"]

end NetworkInterface

end HardwareReport
