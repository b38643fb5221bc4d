import HardwareReport.Snapshot.Data

/-!
# Snapshot — as text

A snapshot for a reader: the platform, and then a paragraph for each section that is there, of a
title and indented lines.
-/

namespace HardwareReport

/-- A value that may not be known. -/
def orUnknown (value : Option String) : String :=
  value.getD "unknown"

/-- A truth value that may not be known. -/
def yesNo : Option Bool → String
  | some true => "yes"
  | some false => "no"
  | none => "unknown"

/-- The lines of the processor section. -/
def ProcessorReport.lines (report : ProcessorReport) : List String :=
  ["  Name: " ++ report.identity.name, "  Vendor: " ++ report.identity.vendor,
    "  Identifier: " ++ report.identity.identifier,
    "  Family " ++ orUnknown report.identity.family? ++ " Model " ++
      orUnknown report.identity.model? ++ " Stepping " ++ orUnknown report.identity.stepping?,
    "  64-bit: " ++ yesNo report.identity.cpu64,
    "  Vendor frequency: " ++ Quantity.hertzText report.identity.vendorFrequency,
    "  Logical processors: " ++ toString report.logicalCount] ++
  (match report.loadAverage with
    | some average => ["  Load average (1m): " ++ Number.fixed 2 average]
    | none => []) ++
  ["  System CPU load: " ++ Number.fixed32 1 report.systemLoad ++ "%",
    "  Load: " ++ Number.fixed32 1 report.load ++ "% over " ++
      toString report.interval.milliseconds ++ "ms"]

/-- The lines of the memory section. -/
def MemoryReport.lines (report : MemoryReport) : List String :=
  ["  Available: " ++ Quantity.binaryBytesText report.available ++ " of " ++
      Quantity.binaryBytesText report.total ++ " (" ++ Number.fixed 1 report.usedPercent ++
      "% used)",
    "  Swap: " ++ Quantity.binaryBytesText report.swapUsed ++ " of " ++
      Quantity.binaryBytesText report.swapTotal ++ " used"]

/-- The lines of the system section. -/
def SystemReport.lines (report : SystemReport) : List String :=
  ["  Manufacturer: " ++ orUnknown report.manufacturer, "  Model: " ++ orUnknown report.model,
    "  Serial number: " ++ orUnknown report.serialNumber,
    "  Firmware: " ++ orUnknown report.firmware.vendor ++ " " ++
      orUnknown report.firmware.version ++ " (" ++ orUnknown report.firmware.releaseDate ++ ")"]

/-- The line for fans, if there are any. -/
def SensorsReport.fanLines (report : SensorsReport) : List String :=
  match report.fanSpeeds with
  | some (speed :: speeds) =>
    ["  Fans: " ++
      ", ".intercalate ((speed :: speeds).map fun rpm => toString rpm.toNat ++ " rpm")]
  | _ => []

/-- The lines of the sensors section. -/
def SensorsReport.lines (report : SensorsReport) : List String :=
  ["  CPU temperature: " ++ Temperature.celsiusText report.processorTemperature] ++
  (report.temperatures.map fun reading =>
    "  " ++ reading.label ++ ": " ++ Temperature.celsiusText reading.celsius) ++
  report.fanLines

/-- The line for an error. -/
def SectionError.line (error : SectionError) : String :=
  "  " ++ error.area.name ++ ": " ++ error.error.message

namespace Snapshot

/-- The paragraph for a section that is there: an empty line, a title and the section's lines. -/
def paragraph {α : Type} (title : String) (lines : α → List String) : Option α → List String
  | some report => "" :: title :: lines report
  | none => []

/-- The paragraph for the errors, if there are any. -/
def errorLines (errors : List SectionError) : List String :=
  if errors.isEmpty then [] else "" :: "Errors" :: errors.map SectionError.line

/-- The lines of a snapshot. -/
def lines (snapshot : Snapshot) : List String :=
  ["Platform: " ++ snapshot.platform.title] ++
  paragraph "Processor" ProcessorReport.lines snapshot.processor ++
  paragraph "Memory" MemoryReport.lines snapshot.memory ++
  paragraph "System" SystemReport.lines snapshot.system ++
  paragraph "Sensors" SensorsReport.lines snapshot.sensors ++
  paragraph "Disks" (List.map Disk.line) snapshot.disks ++
  paragraph "Displays" (List.map Display.line) snapshot.displays ++
  paragraph "Network" (List.flatMap NetworkInterface.lines) snapshot.network ++
  paragraph "Sound" (List.map SoundCard.line) snapshot.sound ++
  paragraph "Power" (List.map PowerSource.line) snapshot.power ++
  paragraph "USB" UsbDevice.lines snapshot.usb ++
  errorLines snapshot.errors

/-- A snapshot as text, every line of it ended. -/
def text (snapshot : Snapshot) : String :=
  String.join (snapshot.lines.map (· ++ "\n"))

/-- A snapshot as it is printed. -/
def printed (json : Bool) (snapshot : Snapshot) : String :=
  if json then snapshot.toJson.pretty ++ "\n" else snapshot.text

end Snapshot

end HardwareReport
