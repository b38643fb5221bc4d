import HardwareReport.Options.Arguments
import HardwareReport.Options.Basic
import HardwareReport.Options.Config
import HardwareReport.Options.Error
import HardwareReport.Options.Interval

/-!
# Options — arguments over configuration

What the arguments say wins over what the configuration says, and that over the defaults. A setting
that an argument overrides is not looked at.

* `ReportOptions.interval?`, `ReportOptions.sections?` — single options;
* `ReportOptions.merge` — all of them.
-/

namespace HardwareReport

namespace ReportOptions

/-! ## The interval -/

/-- An interval, unless it is too short. -/
def checkInterval (source : SettingSource) (interval : Duration) : Except OptionError Duration :=
  if interval.nanoseconds < Interval.shortest.nanoseconds then .error (.intervalTooShort source)
  else .ok interval

/-- An interval given as text. -/
def readInterval (source : SettingSource) (text : String) : Except OptionError Duration :=
  match Interval.read? text with
  | some interval => checkInterval source interval
  | none => .error (.intervalInvalid source)

/-- The interval of a setting. -/
def settingInterval : IntervalSetting → Except OptionError Duration
  | .text text => readInterval .config text
  | .milliseconds count => checkInterval .config (.ofMilliseconds count)

/-- The interval to sample over. -/
def chooseInterval (argument : Option String) (setting : Option IntervalSetting) :
    Except OptionError Duration :=
  match argument, setting with
  | some text, _ => readInterval .arguments text
  | none, some setting => settingInterval setting
  | none, none => .ok (.ofMilliseconds 1000)

/-! ## The sections -/

/-- The section of a name in the configuration. -/
def settingSection (name : String) : Except OptionError Section :=
  match Section.ofNameAnyCase? name with
  | some s => .ok s
  | none => .error (.unknownSection name)

/-- The sections of the configuration. -/
def settingSections : List String → Except OptionError (List Section)
  | [] => .error .noSections
  | names => names.mapM settingSection

/-- A list with each element where it first occurs. -/
def firstOccurrences (sections : List Section) : List Section :=
  sections.foldl (fun kept s => if kept.contains s then kept else kept ++ [s]) []

/-- The sections to report, each once. -/
def chooseSections (arguments : List Section) (setting : Option (List String)) :
    Except OptionError (List Section) :=
  match arguments, setting with
  | [], some names => (settingSections names).map firstOccurrences
  | [], none => .ok Section.all
  | arguments, _ => .ok (firstOccurrences arguments)

/-! ## All options -/

/-- A flag that the arguments or the configuration set. -/
def chooseFlag (argument : Bool) (setting : Option Bool) : Bool :=
  argument || setting.getD false

/-- The options that arguments and configuration come to. -/
def merge (arguments : Arguments) (config : Config) : Except OptionError ReportOptions := do
  let flags := config.flags.getD {}
  let interval ← chooseInterval arguments.interval flags.interval
  let sections ← chooseSections arguments.sections flags.sections
  return {
    interval
    sections
    usbTree := chooseFlag arguments.usbTree flags.usbTree
    json := chooseFlag arguments.json flags.json
    watch := arguments.watch }

end ReportOptions

end HardwareReport
