import HardwareReport.FileTree
import HardwareReport.Processor.Identity
import HardwareReport.Processor.Ticks

/-!
# Linux — the processor

The kernel tells of the processor in two text files.

* `Stat.ticks` — the counters in `/proc/stat`;
* `CpuInfo.identity` — the identity in `/proc/cpuinfo`.
-/

namespace HardwareReport.Linux

open FileTree

/-! ## Counters -/

namespace Stat

/-- The fault of a file without the counters. -/
def malformed (reason : String) : HardwareError :=
  .malformedData "/proc/stat" reason

/-- A line about all processors together. -/
def isAggregate (line : List Char) : Bool :=
  (Text.words line).head? == some "cpu".toList

/-- The first `count` of the fields as counters. -/
def counters : Nat → List (List Char) → Answer (List UInt64)
  | 0, _ => .ok []
  | _ + 1, [] => .error (malformed "fewer than four tick fields")
  | count + 1, field :: rest =>
    match Text.readUInt64 field with
    | .ok value => (counters count rest).map (value :: ·)
    | .error fault => .error (malformed ("bad tick value: " ++ fault.message))

/-- The counters that a line about all processors gives. -/
def lineTicks (line : List Char) : Answer Ticks :=
  match counters 4 ((Text.words line).drop 1) with
  | .ok [user, nice, system, idle] => .ok ⟨user, nice, system, idle⟩
  | .ok _ => .error (malformed "fewer than four tick fields")
  | .error error => .error error

/-- The counters of the first line about all processors. -/
def ticks (text : String) : Answer Ticks :=
  match (Text.lines text.toList).find? isAggregate with
  | some line => lineTicks line
  | none => .error (malformed "no aggregate cpu line")

end Stat

/-! ## Identity -/

namespace CpuInfo

/-- The key and the value on a line, which a colon divides. -/
def field? (line : List Char) : Option (String × String) :=
  (Text.splitOnce? [':'] line).map fun parts =>
    (Text.trimmed parts.1, Text.trimmed parts.2)

/-- The keys and values of a file, in order. -/
def entries (text : String) : List (String × String) :=
  (Text.lines text.toList).filterMap field?

/-- The value of the first entry with one of the keys. -/
def value? (keys : List String) (entries : List (String × String)) : Option String :=
  (entries.find? fun entry => keys.contains entry.1).map (·.2)

/-- Whether a list of flags has the one for 64-bit processors. -/
def hasLongMode (flags : String) : Bool :=
  (Text.words flags.toList).contains "lm".toList

/-- The identity that a file tells of. -/
def identity (text : String) : Identity :=
  let found := entries text
  let vendor := (value? ["vendor_id", "CPU implementer"] found).getD ""
  let cpu64 := (value? ["flags"] found).map hasLongMode
  let identifier :=
    match value? ["cpu family"] found, value? ["model"] found, value? ["stepping"] found with
    | some family, some model, some stepping =>
      Identifier.write vendor cpu64 ⟨family, model, stepping⟩
    | _, _, _ => ""
  { vendor
    name := (value? ["model name", "Processor", "cpu model"] found).getD ""
    identifier
    cpu64 }

end CpuInfo

/-! ## Reading -/

/-- The text of a file that has to be there. -/
def requiredText (tree : Node) (path : Path) : Answer String :=
  match tree.readText path with
  | .ok text => .ok text
  | .error fault => .error (.ofFault path.text fault)

/-- The identity of the processor. -/
def processorIdentity (tree : Node) : Answer Identity :=
  (requiredText tree ["proc", "cpuinfo"]).map CpuInfo.identity

/-- The counters of the processor. -/
def processorTicks (tree : Node) : Answer Ticks := do
  Stat.ticks (← requiredText tree ["proc", "stat"])

end HardwareReport.Linux
