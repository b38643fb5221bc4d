import HardwareReport.Json
import HardwareReport.Text.AsciiCase
import HardwareReport.Text.Blank

/-!
# Firmware — the identity of a machine

The values that firmware and kernels report are padded and sometimes mere placeholders.

* `Firmware` — the firmware of a machine;
* `Firmware.trimmed?`, `Firmware.value?` — a reported value, cleaned;
* `Firmware.modelText?` — the model of a machine.
-/

namespace HardwareReport

/-- The firmware of a machine. -/
structure Firmware where
  vendor : Option String := none
  version : Option String := none
  releaseDate : Option String := none
  deriving DecidableEq, Repr

namespace Firmware

/-- The character that fixed-size fields are filled with. -/
def isNul (c : Char) : Bool := c == '\x00'

/-- A text without white space, then without NUL characters and then without white space at its
ends. -/
def trimValue (s : List Char) : List Char :=
  Text.trimEnds Text.isBlank (Text.trimEnds isNul (Text.trimEnds Text.isBlank s))

/-- A reported value without what pads it, if anything is left. -/
def trimmed? (raw : String) : Option String :=
  let value := trimValue raw.toList
  if value.isEmpty then none else some (String.ofList value)

/-- What vendors leave in fields that they did not fill. -/
def placeholders : List String :=
  ["none", "not specified", "to be filled by o.e.m.", "default string"]

/-- A reported value without what pads it, if it is no placeholder. -/
def value? (raw : String) : Option String :=
  (trimmed? raw).filter fun value => !placeholders.contains (.ofList (Text.lowerAscii value.toList))

/-- The model of a machine from the name and the version of the product. -/
def modelText? : Option String → Option String → Option String
  | some name, some version => some (name ++ " (version: " ++ version ++ ")")
  | some name, none => some name
  | none, version => version

/-- The firmware in data. -/
def toJson (firmware : Firmware) : Json :=
  .object [("vendor", Json.optional .text firmware.vendor),
    ("version", Json.optional .text firmware.version),
    ("release_date", Json.optional .text firmware.releaseDate)]

end Firmware

end HardwareReport
