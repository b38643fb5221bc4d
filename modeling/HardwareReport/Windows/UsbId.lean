import HardwareReport.Text.AsciiCase
import HardwareReport.Text.Split

/-!
# Windows — USB instance ids

The id of a device instance has three parts with backslashes between them: the bus, the hardware
and the instance, as in `USB\VID_046D&PID_C52B\5&2D6E1C8&0&3`. The hardware part names vendor and
product, and says if it is one interface of a device with several. An instance part that the
system made up has an ampersand in it; any other is the serial number of the device.
-/

namespace HardwareReport.Windows

/-- What the id of a USB device gives. -/
structure UsbId where
  vendorId : String
  productId : String
  serialNumber : String
  deriving DecidableEq, Repr

namespace UsbId

/-- The mark of one interface of a device with several. -/
def interfaceMark : List Char := "&mi_".toList

/-- What follows a keyword at the start of a text, the keyword in whatever ASCII case. -/
def afterKeyword? (keyword s : List Char) : Option (List Char) :=
  if Text.sameAsciiCaseless (s.take keyword.length) keyword then some (s.drop keyword.length)
  else none

/-- The value of the first field of a hardware part that begins with a keyword, in ASCII lower
case. -/
def hardwareField (keyword : String) (hardware : List Char) : String :=
  let found := (Text.pieces (· == '&') hardware).findSome? (afterKeyword? keyword.toList)
  String.ofList (Text.lowerAscii (found.getD []))

/-- Reads the id of a USB device. Other devices and single interfaces have none. -/
def parse? (id : String) : Option UsbId :=
  match Text.pieces (· == '\\') id.toList with
  | bus :: hardware :: others =>
    let serial := others.head?.getD []
    if Text.sameAsciiCaseless bus "USB".toList &&
        !Text.contains interfaceMark (Text.lowerAscii hardware) then
      some {
        vendorId := hardwareField "VID_" hardware
        productId := hardwareField "PID_" hardware
        serialNumber := if serial.contains '&' then "" else String.ofList serial }
    else none
  | _ => none

end UsbId

end HardwareReport.Windows
