import HardwareReport.Platform

/-!
# Error — why hardware could not be read

* `Fault` — why an operation of the operating system failed;
* `HardwareError` — why a question about the hardware has no answer.
-/

namespace HardwareReport

/-! ## Operating system faults -/

/-- What a fault comes down to. -/
inductive FaultKind where
  /-- Nothing is there. -/
  | notFound
  /-- Access is not granted. -/
  | denied
  | other
  deriving DecidableEq, Repr

/-- Why an operation of the operating system failed. -/
structure Fault where
  kind : FaultKind
  /-- The error number, if the system gave one. -/
  number? : Option Int
  /-- The wording. -/
  text : String
  deriving DecidableEq, Repr

namespace Fault

/-- What an error number comes down to. Systems number their errors differently; these are the
numbers of Linux, which the other Unix systems have as well. -/
def kindOf (number : Int) : FaultKind :=
  if number == 2 then .notFound
  else if number == 1 || number == 13 then .denied
  else .other

/-- The system's wording of an error number. -/
def wording (number : Int) : String :=
  match number with
  | 1 => "Operation not permitted"
  | 2 => "No such file or directory"
  | 5 => "Input/output error"
  | 12 => "Cannot allocate memory"
  | 13 => "Permission denied"
  | 17 => "File exists"
  | 20 => "Not a directory"
  | 21 => "Is a directory"
  | 22 => "Invalid argument"
  | 40 => "Too many levels of symbolic links"
  | number => "Unknown error " ++ toString number

/-- The fault with a number and the wording that the system has for it. -/
def numbered (kind : FaultKind) (number : Int) (wording : String) : Fault where
  kind := kind
  number? := some number
  text := wording ++ " (os error " ++ toString number ++ ")"

/-- The fault behind an error number. -/
def code (number : Int) : Fault :=
  numbered (kindOf number) number (wording number)

/-- Another reason, in words. -/
def other (text : String) : Fault where
  kind := .other
  number? := none
  text := text

/-- The bytes read are not UTF-8. -/
def notUtf8 : Fault := other "stream did not contain valid UTF-8"

/-- No such file or directory. -/
def notFound : Fault := code 2

/-- A file stands where a directory is needed. -/
def notADirectory : Fault := code 20

/-- A directory stands where a file is needed. -/
def isADirectory : Fault := code 21

/-- A file stands where another is to be made. -/
def alreadyThere : Fault := code 17

/-- The fault says that nothing is there. -/
def isNotFound (fault : Fault) : Bool :=
  fault.kind == .notFound

/-- The fault says that access is not granted. -/
def isDenied (fault : Fault) : Bool :=
  fault.kind == .denied

end Fault

/-! ## Hardware errors -/

/-- Why a question about the hardware has no answer. -/
inductive HardwareError where
  /-- Nothing can be read on the platform. -/
  | unsupportedPlatform (platform : Platform)
  /-- A call into the system failed; the code is `-1` where the system gave none. -/
  | nativeQuery (query : String) (code : Int) (detail : String)
  /-- The platform has no source to enumerate such things from, which is not the same as having
  none of them. -/
  | notEnumerable (what : String) (platform : Platform)
  /-- A source answered with something that cannot be understood. -/
  | malformedData (source reason : String)
  deriving DecidableEq, Repr

namespace HardwareError

/-- The wording of an error. -/
def message : HardwareError → String
  | .unsupportedPlatform platform =>
    "hwscope does not support the '" ++ platform.title ++ "' platform."
  | .nativeQuery query code detail =>
    "native query '" ++ query ++ "' failed with code " ++ toString code ++ ": " ++ detail
  | .notEnumerable what platform =>
    what ++ " cannot be enumerated on " ++ platform.title ++ "."
  | .malformedData source reason =>
    "malformed data from '" ++ source ++ "': " ++ reason

/-- The system's code, which only a failed call has. -/
def nativeCode? : HardwareError → Option Int
  | .nativeQuery _ code _ => some code
  | _ => none

/-- The failure of a query that an operation of the operating system caused. -/
def ofFault (query : String) (fault : Fault) : HardwareError :=
  .nativeQuery query (fault.number?.getD (-1)) fault.text

end HardwareError

/-- An answer about the hardware, or why there is none. -/
abbrev Answer (α : Type) := Except HardwareError α

/-- Reading a machine is refused on every platform but the registered ones. -/
def Platform.require (platform : Platform) : Answer Platform :=
  if platform ∈ registered then .ok platform else .error (.unsupportedPlatform platform)

end HardwareReport
