import HardwareReport.Json
import HardwareReport.Number.Bytes

/-!
# Display — what an EDID block says

A display describes itself in a block of bytes called EDID. It starts with a fixed header, after
which come the manufacturer, three letters of five bits each with the most significant byte first,
the product code and the serial number with the least significant byte first.
-/

namespace HardwareReport

/-- A display and the bytes it describes itself with. -/
structure Display where
  /-- Where the platform has the display, such as `card0-eDP-1`. -/
  connector : String := ""
  edid : List UInt8 := []
  deriving DecidableEq, Repr

namespace Display

/-- The bytes that every description starts with. -/
def header : List UInt8 := [0x00, 0xFF, 0xFF, 0xFF, 0xFF, 0xFF, 0xFF, 0x00]

/-- Whether the description starts as it has to. -/
def hasValidHeader (display : Display) : Bool :=
  header.isPrefixOf display.edid

/-- `count` bytes from an offset on, if there are so many. -/
def bytesAt? (offset count : Nat) (edid : List UInt8) : Option (List UInt8) :=
  let found := (edid.drop offset).take count
  if found.length = count then some found else none

/-- The letter of five bits, of which one stands for the letter A. -/
def letter? (bits : Nat) : Option Char :=
  if 1 ≤ bits ∧ bits ≤ 26 then some (Char.ofNat ('A'.toNat + bits - 1)) else none

/-- The five bits of a number that lie `shift` bits from its low end. -/
def fiveBits (packed shift : Nat) : Nat :=
  packed / Nat.pow 2 shift % 32

/-- The three letters of the manufacturer. -/
def manufacturer? (display : Display) : Option String := do
  let packed ← (bytesAt? 8 2 display.edid).map fun bytes => Number.littleEndian bytes.reverse
  let letters ← [10, 5, 0].mapM fun shift => letter? (fiveBits packed shift)
  return String.ofList letters

/-- The product code that the manufacturer gave. -/
def productCode? (display : Display) : Option Nat :=
  (bytesAt? 10 2 display.edid).map Number.littleEndian

/-- The serial number that the manufacturer gave. -/
def serialNumber? (display : Display) : Option Nat :=
  (bytesAt? 12 4 display.edid).map Number.littleEndian

/-- The display in data. -/
def toJson (display : Display) : Json :=
  .object [("connector", .text display.connector),
    ("manufacturer_id", Json.optional .text display.manufacturer?),
    ("product_code", Json.optional Json.nat display.productCode?),
    ("serial_number", Json.optional Json.nat display.serialNumber?),
    ("edid_bytes", Json.nat display.edid.length)]

/-- The line for a display in a list. -/
def line (display : Display) : String :=
  let manufacturer := match display.manufacturer? with
    | some letters => ": " ++ letters
    | none => ""
  let product := match display.productCode? with
    | some code => " " ++ String.ofList (Number.padLeft 4 (Nat.toDigits 16 code))
    | none => ""
  let fault := if display.hasValidHeader then "" else " (invalid EDID)"
  "  " ++ display.connector ++ manufacturer ++ product ++ fault

end Display

end HardwareReport
