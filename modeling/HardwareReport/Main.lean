import HardwareReport.CommandLine
import HardwareReport.Linux.Layer
import HardwareReport.Linux.Services
import HardwareReport.Processor.Watch
import HardwareReport.Snapshot.Text

/-!
# Main — the program

Reads the arguments, the environment and the kernel's files, and prints the report. What is decided
on the way is decided elsewhere; here it is only carried out. A program that watches the load runs
until it is interrupted from the keyboard.
-/

namespace HardwareReport.Program

open FileTree

/-! ## Reading files -/

/-- The fault behind a failure of the system. -/
def faultOf : IO.Error → Fault
  | .noFileOrDirectory _ code _ => .code code.toNat
  | .permissionDenied _ code _ => .code code.toNat
  | .inappropriateType _ code _ => .code code.toNat
  | .alreadyExists _ code _ => .code code.toNat
  | .invalidArgument _ code _ => .code code.toNat
  | .hardwareFault code _ => .code code.toNat
  | .resourceExhausted _ code _ => .code code.toNat
  | .resourceBusy code _ => .code code.toNat
  | .otherError code _ => .code code.toNat
  | error => .other error.toString

/-- The entry at a path from the root. -/
def entryAt (path : Path) : IO.FS.DirEntry :=
  { root := "/", fileName := "/".intercalate path }

/-- What an entry leads to. Directories are read to a depth, below which they seem empty; entries
that are gone by the time they are looked at are left out. -/
def readEntry : Nat → IO.FS.DirEntry → IO (Option Node)
  | depth, entry => do
    if ← entry.path.isDir then
      match depth with
      | 0 => return some .empty
      | depth + 1 =>
        match ← entry.path.readDir.toBaseIO with
        | .error error => return some (.directory (some (faultOf error)) [])
        | .ok children =>
          let nodes ← children.toList.filterMapM fun child => do
            return (← readEntry depth child).map ((child.fileName, ·))
          return some (.directory none nodes)
    else if ← entry.path.pathExists then
      match ← (IO.FS.readBinFile entry.path).toBaseIO with
      | .ok bytes => return some (.file (.ok bytes))
      | .error error => return some (.file (.error (faultOf error)))
    else return none

/-- A directory tree with what is at some paths, each read to a depth. -/
def readPaths (paths : List (Nat × Path)) : IO Node :=
  paths.foldlM (fun tree (depth, path) => do
    match ← readEntry depth (entryAt path) with
    | some node => return tree.put path node
    | none => return tree) .empty

/-! ## The configuration -/

/-- What an action comes to. -/
def outcome {α : Type} (action : IO α) : ExceptT Fault IO α :=
  .mk do return (← action.toBaseIO).mapError faultOf

/-- The files of the system. -/
def access : FileAccess IO where
  isThere path := return (← (IO.FS.realPath path).toBaseIO).isOk
  readText path := do Node.decode (← outcome (IO.FS.readBinFile path))
  makeParents path := do
    let parent := Files.parentPath path
    unless parent.isEmpty do outcome (IO.FS.createDirAll parent)
  write path text := outcome (IO.FS.writeFile path text)

/-! ## The report -/

/-- What is read of the kernel's files, and to which depth. -/
def kernelPaths : List (Nat × Path) :=
  [(0, ["proc", "cpuinfo"]), (0, ["proc", "stat"]), (0, ["proc", "meminfo"]),
    (0, ["proc", "loadavg"]), (2, ["proc", "asound"]), (1, ["sys", "class", "dmi", "id"]),
    (2, ["sys", "class", "drm"]), (3, ["sys", "class", "hwmon"]),
    (2, ["sys", "bus", "usb", "devices"])]

/-- Puts a question to the machine as it is now. -/
def ask {α : Type} (question : StateM Linux.LinuxMachine α) : IO α := do
  let tree ← readPaths kernelPaths
  return (question.run ⟨tree, Linux.Services.host tree⟩).1

/-- A wait that only the end of the program cuts short. -/
def interrupt : Interrupt IO where
  isCancelled := return false
  sleep interval := do
    IO.sleep (UInt32.ofNat (min interval.milliseconds (UInt32.size - 1)))
    return false

/-- Prints a line for a load at once. -/
def writeLoad (json : Bool) (load : Float32) : IO Unit := do
  IO.print (Watch.line json load)
  (← IO.getStdout).flush

/-- Prints the load once an interval, until the counters cannot be read. -/
partial def watch (source : ProcessorSource IO) (options : ReportOptions) : IO UInt32 := do
  let outcome ← Watch.run source interrupt options.interval (writeLoad options.json) 1
  match outcome.ending with
  | .stopped => return 0
  | .failed error =>
    IO.eprintln ("Error: " ++ error.message)
    return 1
  | .unfinished => watch source options

/-- Prints the report. -/
def report (options : ReportOptions) : IO UInt32 := do
  let layer := Linux.layer.embed ask
  let snapshot ← Snapshot.collect layer interrupt options
  IO.print (snapshot.printed options.json)
  (← IO.getStdout).flush
  if options.watch then watch layer.processor options else return 0

end HardwareReport.Program

open HardwareReport in
/-- The program. -/
def main (arguments : List String) : IO UInt32 := do
  let environment : CommandLine.Environment := {
    configHome := ← IO.getEnv "XDG_CONFIG_HOME"
    home := ← IO.getEnv "HOME" }
  match ← CommandLine.prepare Program.access arguments environment with
  | .finish status output errorOutput =>
    IO.print output
    IO.eprint errorOutput
    return status
  | .report options => Program.report options
