import HardwareReport.FileTree
import HardwareReport.Firmware

/-!
# Linux — attributes and listings

The kernel shows devices as directories of small files, their attributes. One that is missing or
may not be read counts as absent.
-/

namespace HardwareReport.Linux

open FileTree

/-- A fault that makes an attribute absent rather than unreadable. -/
def isAbsence (fault : Fault) : Bool :=
  fault.isNotFound || fault.isDenied

/-- The attribute at a path, without what pads it. -/
def readAttribute (tree : Node) (path : Path) : Answer (Option String) :=
  match tree.readText path with
  | .ok text => .ok (Firmware.trimmed? text)
  | .error fault =>
    if isAbsence fault then .ok none else .error (.ofFault path.text fault)

/-- The attribute at a path, or an empty text. -/
def attributeText (tree : Node) (path : Path) : Answer String :=
  (readAttribute tree path).map (·.getD "")

/-- The names in the directory at a path, in order. A directory that is not there is empty. -/
def sortedNames (tree : Node) (path : Path) : Answer (List String) :=
  match tree.names path with
  | .ok names => .ok (names.mergeSort fun a b => a ≤ b)
  | .error fault =>
    if fault.isNotFound then .ok [] else .error (.ofFault path.text fault)

end HardwareReport.Linux
