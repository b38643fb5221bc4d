import HardwareReport.Toml.Document

/-!
# Options — configuration

Under the key `flags` the configuration holds settings for options of the command line.

* `Config` — the settings;
* `Config.ofEntries?` — the settings that a document holds;
* `Config.read?` — the settings that a text holds;
* `Config.defaultText` — the text of a new configuration file, with every setting commented out.
-/

namespace HardwareReport

/-- An interval as set: a text or a count of milliseconds. -/
inductive IntervalSetting where
  | text (value : String)
  | milliseconds (count : Nat)
  deriving DecidableEq, Repr

/-- The settings that stand for options of the command line. -/
structure FlagSettings where
  interval : Option IntervalSetting := none
  usbTree : Option Bool := none
  json : Option Bool := none
  sections : Option (List String) := none
  deriving DecidableEq, Repr

/-- A configuration. -/
structure Config where
  flags : Option FlagSettings := none
  deriving DecidableEq, Repr

open Toml

namespace FlagSettings

/-! ## Single settings -/

/-- An interval. -/
def intervalOf? : Item → Option IntervalSetting
  | .scalar (.text value) => some (.text value)
  | .scalar (.integer n) => if 0 ≤ n then some (.milliseconds n.toNat) else none
  | _ => none

/-- A truth value. -/
def boolOf? : Item → Option Bool
  | .scalar (.bool value) => some value
  | _ => none

/-- A text. -/
def textOf? : Item → Option String
  | .scalar (.text value) => some value
  | _ => none

/-- A list of texts. -/
def textsOf? : Item → Option (List String)
  | .array items => items.mapM textOf?
  | _ => none

/-! ## All settings -/

/-- The setting under a key: missing, or of the type it has to have. -/
def setting? {α : Type} (ofItem? : Item → Option α) (key : String) (entries : Entries) :
    Option (Option α) :=
  match List.lookup key entries with
  | some item => (ofItem? item).map some
  | none => some none

/-- The settings of a table. Other keys do not count. -/
def ofEntries? (entries : Entries) : Option FlagSettings := do
  let interval ← setting? intervalOf? "interval" entries
  let usbTree ← setting? boolOf? "usb_tree" entries
  let json ← setting? boolOf? "json" entries
  let sections ← setting? textsOf? "sections" entries
  return { interval, usbTree, json, sections }

/-- The settings of an array, which has all of them in order. Further items do not count. -/
def ofItems? : List Item → Option FlagSettings
  | interval :: usbTree :: json :: sections :: _ => do
    let interval ← intervalOf? interval
    let usbTree ← boolOf? usbTree
    let json ← boolOf? json
    let sections ← textsOf? sections
    return {
      interval := some interval, usbTree := some usbTree, json := some json
      sections := some sections }
  | _ => none

/-- The settings of a value. A date sets nothing. -/
def ofItem? : Item → Option FlagSettings
  | .table _ _ entries | .braced entries => ofEntries? entries
  | .array items => ofItems? items
  | .scalar .datetime => some {}
  | _ => none

end FlagSettings

namespace Config

/-- The settings that a document holds. -/
def ofEntries? (entries : Entries) : Option Config :=
  match List.lookup "flags" entries with
  | some item => (FlagSettings.ofItem? item).map fun flags => { flags := some flags }
  | none => some {}

/-- The settings that a text holds. -/
def read? (text : String) : Option Config :=
  (Document.read? text).bind ofEntries?

/-- The text of a new configuration file. -/
def defaultText : String :=
  "# This is a default config file for hwscope. All of the settings are commented\n" ++
  "# out by default; if you wish to change them uncomment and modify as you see\n" ++
  "# fit.\n" ++
  "\n" ++
  "# This group of options represents a command-line option. Flags explicitly\n" ++
  "# added when running (ie: hws --json) will override this config file if an\n" ++
  "# option is also set here.\n" ++
  "[flags]\n" ++
  "# How long processor load is sampled for. Takes a number of milliseconds or a\n" ++
  "# human duration such as \"1s\" or \"500ms\". The minimum is 100ms.\n" ++
  "#interval = \"1s\"\n" ++
  "# Whether USB devices are shown as a tree of hubs and the devices plugged\n" ++
  "# into them, rather than a flat list.\n" ++
  "#usb_tree = true\n" ++
  "# Whether to print the report as JSON.\n" ++
  "#json = false\n" ++
  "# Which sections to report. Defaults to all of them. Possible values are\n" ++
  "# processor, memory, system, sensors, disks, displays, network, sound,\n" ++
  "# power, and usb.\n" ++
  "#sections = [\"processor\", \"memory\", \"system\", \"sensors\", \"disks\", \"displays\", " ++
  "\"network\", \"sound\", \"power\", \"usb\"]\n"

end Config

end HardwareReport
