import HardwareReport.Section

/-!
# Options — the declared command line

Every option of the command line, with its names and what the help says of it.
-/

namespace HardwareReport

/-- An option of the command line. -/
inductive Switch where
  | configLocation
  | interval
  | watch
  | sections
  | usbTree
  | json
  | help
  | version
  deriving DecidableEq, Repr

/-- What is declared of an option. -/
structure Declaration where
  long : String
  short : Option Char
  /-- The group of the help that the option stands in. -/
  heading : String
  help : String
  longHelp : Option String
  /-- What the help calls the value, of an option that has one. -/
  valueName : Option String := none
  /-- The values that the option may have, if there are only some. -/
  possible : List String := []
  /-- Whether the option may be given more than once, collecting its values. -/
  repeatable : Bool := false
  deriving DecidableEq, Repr

namespace Switch

/-- Every option, in the order of the help. -/
def all : List Switch :=
  [.configLocation, .interval, .watch, .sections, .usbTree, .json, .help, .version]

/-- The groups of the help. -/
def generalHeading : String := "General Options"

/-- The options about what is printed. -/
def outputHeading : String := "Output Options"

/-- The options about the program itself. -/
def otherHeading : String := "Other Options"

/-- The long help of the option for sections. -/
def sectionsHelp : String :=
  "Only reports the given section, and can be repeated to report several. By default every " ++
  "section is reported. Supported values are:\n" ++
  "- processor (identity, frequency and load)\n" ++
  "- memory\n" ++
  "- system    (manufacturer, model and firmware)\n" ++
  "- sensors   (temperatures and fans)\n" ++
  "- disks\n" ++
  "- displays\n" ++
  "- network\n" ++
  "- sound\n" ++
  "- power     (batteries)\n" ++
  "- usb"

/-- What is declared of an option. -/
def declaration : Switch → Declaration
  | .configLocation => {
    long := "config_location", short := some 'C', heading := generalHeading
    help := "Sets the location of the config file."
    longHelp := some
      ("Sets the location of the config file. Expects a config file in the TOML format. " ++
      "If it doesn't exist, a default config file is created at the path.")
    valueName := some "PATH" }
  | .interval => {
    long := "interval", short := some 'i', heading := generalHeading
    help := "How long processor load is sampled for."
    longHelp := some
      ("How long processor load is sampled for. Takes a number in milliseconds or a human " ++
      "duration (e.g. 2s). The minimum is 100ms, and the default is 1s.")
    valueName := some "TIME" }
  | .watch => {
    long := "watch", short := some 'w', heading := generalHeading
    help := "Keeps reporting processor load until interrupted."
    longHelp := some
      ("After the report, keeps sampling and printing processor load once per interval " ++
      "until interrupted with Ctrl-C.") }
  | .sections => {
    long := "section", short := some 's', heading := outputHeading
    help := "Only reports the given section. Can be repeated."
    longHelp := some sectionsHelp, valueName := some "SECTION"
    possible := Section.all.map Section.name, repeatable := true }
  | .usbTree => {
    long := "usb_tree", short := none, heading := outputHeading
    help := "Shows USB devices as a tree."
    longHelp := some
      ("Shows USB devices as a tree of controllers, hubs, and the devices plugged into " ++
      "them, rather than as a flat list.") }
  | .json => {
    long := "json", short := none, heading := outputHeading
    help := "Prints the report as JSON.", longHelp := none }
  | .help => {
    long := "help", short := some 'h', heading := otherHeading
    help := "Prints help info (for more details use '--help').", longHelp := none }
  | .version => {
    long := "version", short := some 'V', heading := otherHeading
    help := "Prints version information.", longHelp := none }

/-- Whether an option has a value. -/
def takesValue (switch : Switch) : Bool :=
  switch.declaration.valueName.isSome

/-- The option with a long name. -/
def ofLong? (name : String) : Option Switch :=
  all.find? fun switch => switch.declaration.long == name

/-- The option with a short name. -/
def ofShort? (c : Char) : Option Switch :=
  all.find? fun switch => switch.declaration.short == some c

end Switch

/-! ## The program -/

/-- The name of the program. -/
def programName : String := "hws"

/-- The version of the program. -/
def programVersion : String := "0.1.0"

/-- What the program says when asked for its version. -/
def versionText : String :=
  programName ++ " " ++ programVersion ++ "\n"

/-- What the program is. -/
def programDescription : String :=
  "A cross-platform hardware abstraction layer for reading live hardware and OS telemetry. " ++
  "Supports Linux, macOS, Windows, and FreeBSD."

end HardwareReport
