import HardwareReport.Host
import HardwareReport.Linux.Processor

/-!
# Linux — the services

What the services know can be read from the kernel's text files where nothing else provides it:
the logical processors, the load average and the memory. Disks, networks and batteries are not
among it.

* `Services.host` — what the files of a directory tree tell of.
-/

namespace HardwareReport.Linux.Services

open FileTree

/-- The text of a file, or nothing where it cannot be read. -/
def textOrEmpty (tree : Node) (path : Path) : String :=
  (tree.readText path).toOption.getD ""

/-! ## Processors -/

/-- The vendor and the brand in each paragraph of the file about processors, which begins with the
number of the processor. -/
def processors (info : List (String × String)) : List (String × String) :=
  let vendor := (CpuInfo.value? ["vendor_id", "CPU implementer"] info).getD ""
  let brand := (CpuInfo.value? ["model name"] info).getD ""
  (info.filter (·.1 == "processor")).map fun _ => (vendor, brand)

/-! ## Load average -/

/-- A number with two decimals. -/
def hundredths? (word : List Char) : Option Float :=
  match Text.splitOnce? ['.'] word with
  | some (whole, decimals) =>
    match Text.readUInt64 (whole ++ decimals) with
    | .ok n => some (Float.ofScientific n.toNat true decimals.length)
    | .error _ => none
  | none => none

/-- The load average over one minute, which comes first. -/
def loadAverage (text : String) : Float :=
  ((Text.words text.toList).head?.bind hundredths?).getD 0

/-! ## Memory -/

/-- The bytes of an entry, which counts kibibytes. -/
def entryBytes (info : List (String × String)) (key : String) : UInt64 :=
  let count := do
    let value ← CpuInfo.value? [key] info
    (Text.readUInt64 (← (Text.words value.toList).head?)).toOption
  count.getD 0 * 1024

/-! ## All of them -/

/-- What the files of a directory tree tell of. -/
def host (tree : Node) : Host :=
  let memory := CpuInfo.entries (textOrEmpty tree ["proc", "meminfo"])
  { processors := processors (CpuInfo.entries (textOrEmpty tree ["proc", "cpuinfo"]))
    loadAverage := loadAverage (textOrEmpty tree ["proc", "loadavg"])
    memoryTotal := entryBytes memory "MemTotal"
    memoryAvailable := entryBytes memory "MemAvailable"
    swapTotal := entryBytes memory "SwapTotal"
    swapUsed := entryBytes memory "SwapTotal" - entryBytes memory "SwapFree" }

end HardwareReport.Linux.Services
