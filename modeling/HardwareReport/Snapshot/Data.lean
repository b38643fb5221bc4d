import HardwareReport.Quantity
import HardwareReport.Snapshot.Basic

/-!
# Snapshot — as data

A snapshot as a JSON object. Sections that are missing have no field, and there are errors only
where a section could not be read.
-/

namespace HardwareReport

/-- The percentage of memory in use. -/
def MemoryReport.usedPercent (report : MemoryReport) : Float :=
  Quantity.usedPercent report.total report.available

/-- The temperature of the processor, if a sensor shows it. -/
def SensorsReport.processorTemperature (report : SensorsReport) : Option Float32 :=
  Temperature.ofProcessor? report.temperatures

/-- The processor section in data. -/
def ProcessorReport.toJson (report : ProcessorReport) : Json :=
  .object [("name", .text report.identity.name), ("vendor", .text report.identity.vendor),
    ("identifier", .text report.identity.identifier),
    ("family", Json.optional .text report.identity.family?),
    ("model", Json.optional .text report.identity.model?),
    ("stepping", Json.optional .text report.identity.stepping?),
    ("cpu64", Json.optional .bool report.identity.cpu64),
    ("vendor_freq", .int report.identity.vendorFrequency),
    ("logical_processors", Json.nat report.logicalCount),
    ("load_average", Json.optional .real report.loadAverage),
    ("system_cpu_load", .real32 report.systemLoad), ("ticks", report.ticks.toJson),
    ("load", .real32 report.load),
    ("load_interval_ms", Json.nat report.interval.milliseconds)]

/-- The memory section in data. -/
def MemoryReport.toJson (report : MemoryReport) : Json :=
  .object [("total_bytes", Json.nat report.total.toNat),
    ("available_bytes", Json.nat report.available.toNat),
    ("used_percent", .real report.usedPercent),
    ("swap_total_bytes", Json.nat report.swapTotal.toNat),
    ("swap_used_bytes", Json.nat report.swapUsed.toNat)]

/-- The system section in data. -/
def SystemReport.toJson (report : SystemReport) : Json :=
  .object [("manufacturer", Json.optional .text report.manufacturer),
    ("model", Json.optional .text report.model),
    ("serial_number", Json.optional .text report.serialNumber),
    ("firmware", report.firmware.toJson)]

/-- The sensors section in data. -/
def SensorsReport.toJson (report : SensorsReport) : Json :=
  .object [("cpu_temperature", Json.optional .real32 report.processorTemperature),
    ("temperatures", .list (report.temperatures.map Temperature.toJson)),
    ("fan_speeds", Json.optional
      (fun speeds => .list (speeds.map fun speed => Json.nat speed.toNat)) report.fanSpeeds)]

/-- An error in data. -/
def SectionError.toJson (error : SectionError) : Json :=
  .object [("section", .text error.area.name), ("message", .text error.error.message)]

namespace Snapshot

/-- A list of things in data. -/
def listJson {α : Type} (toJson : α → Json) (things : List α) : Json :=
  .list (things.map toJson)

/-- A field for a section that is there. -/
def sectionField {α : Type} (area : Section) (toJson : α → Json) :
    Option α → List (String × Json)
  | some report => [(area.name, toJson report)]
  | none => []

/-- The field for the errors, if there are any. -/
def errorField (errors : List SectionError) : List (String × Json) :=
  if errors.isEmpty then [] else [("errors", listJson SectionError.toJson errors)]

/-- The fields of a snapshot. -/
def fields (snapshot : Snapshot) : List (String × Json) :=
  [("platform", snapshot.platform.toJson)] ++
  sectionField .processor ProcessorReport.toJson snapshot.processor ++
  sectionField .memory MemoryReport.toJson snapshot.memory ++
  sectionField .system SystemReport.toJson snapshot.system ++
  sectionField .sensors SensorsReport.toJson snapshot.sensors ++
  sectionField .disks (listJson Disk.toJson) snapshot.disks ++
  sectionField .displays (listJson Display.toJson) snapshot.displays ++
  sectionField .network (listJson NetworkInterface.toJson) snapshot.network ++
  sectionField .sound (listJson SoundCard.toJson) snapshot.sound ++
  sectionField .power (listJson PowerSource.toJson) snapshot.power ++
  sectionField .usb (listJson UsbDevice.toJson) snapshot.usb ++
  errorField snapshot.errors

/-- A snapshot in data. -/
def toJson (snapshot : Snapshot) : Json :=
  .object snapshot.fields

end Snapshot

end HardwareReport
