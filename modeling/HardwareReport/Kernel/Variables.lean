import HardwareReport.Error
import HardwareReport.Firmware
import HardwareReport.Number.Bytes
import HardwareReport.Text.Encoding

/-!
# Kernel — variables

Some kernels keep what they know in variables with names. A variable is read into a buffer of a
fixed size.

* `Variables` — the variables of a kernel;
* `Variables.read` — a variable that has to fit its buffer;
* `Variables.integer`, `Variables.text` — variables of two types;
* `Variables.environmentText` — a variable of the loader's environment.
-/

namespace HardwareReport.Kernel

/-- The variables of a kernel, each with its bytes or the error number of reading it. -/
abbrev Variables := List (String × Except Int (List UInt8))

namespace Variables

/-- The bytes of a variable, which have to fit a buffer. -/
def read (known : Variables) (name : String) (room : Nat) : Except Fault (List UInt8) :=
  match known.lookup name with
  | none => .error .notFound
  | some (.error number) => .error (.code number)
  | some (.ok bytes) => if room < bytes.length then .error (.code 12) else .ok bytes

/-- A name that cannot be asked for, because it would end early. -/
def hasNul (name : String) : Bool :=
  name.toList.contains '\x00'

/-- A variable read by asking a named source; one that the kernel does not know is absent. -/
def orAbsent (source name : String) (found : Except Fault (List UInt8)) :
    Answer (Option (List UInt8)) :=
  if hasNul name then .error (.malformedData source ("'" ++ name ++ "' contains a NUL byte"))
  else
    match found with
    | .ok bytes => .ok (some bytes)
    | .error fault =>
      if fault.isNotFound then .ok none
      else .error (.ofFault (source ++ " " ++ name) fault)

/-- Text that ends before the first NUL. -/
def endedText (bytes : List UInt8) : String :=
  Text.lossyBytes (bytes.takeWhile (· != 0))

/-- An integer variable of four bytes. -/
def integer (known : Variables) (name : String) : Answer (Option Int) :=
  (orAbsent "sysctl" name (known.read name 4)).map (·.map (Number.signedLittleEndian 4))

/-- A text variable, without what pads it. -/
def text (known : Variables) (name : String) : Answer (Option String) :=
  (orAbsent "sysctl" name (known.read name 256)).map
    (·.bind fun bytes => Firmware.trimmed? (endedText bytes))

/-- How many bytes of a variable of the loader's environment are read. -/
def environmentRoom : Nat := 129

/-- The bytes of a variable of the loader's environment, cut where the buffer ends. -/
def readCut (known : Variables) (name : String) : Except Fault (List UInt8) :=
  match known.lookup name with
  | none => .error .notFound
  | some (.error number) => .error (.code number)
  | some (.ok bytes) => .ok (bytes.take environmentRoom)

/-- A text of the loader's environment, unless it is a placeholder. -/
def environmentText (known : Variables) (name : String) : Answer (Option String) :=
  (orAbsent "kenv" name (known.readCut name)).map
    (·.bind fun bytes => Firmware.value? (endedText bytes))

end Variables

end HardwareReport.Kernel
