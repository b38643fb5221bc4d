import HardwareReport.Options.ConfigFile
import HardwareReport.Options.Merge

/-!
# CommandLine — from arguments to a report

What the program does with its arguments before it looks at any hardware.

* `CommandLine.helpText` — the help;
* `CommandLine.prepare` — the options to report with, or what is printed instead.
-/

namespace HardwareReport.CommandLine

/-! ## Help -/

/-- The names of an option and of its value. -/
def usage (declaration : Declaration) : String :=
  let short := match declaration.short with
    | some c => "-" ++ String.singleton c ++ ", "
    | none => "    "
  let value := match declaration.valueName with
    | some name => " <" ++ name ++ ">"
    | none => ""
  "  " ++ short ++ "--" ++ declaration.long ++ value

/-- The help of one option. -/
def optionHelp (declaration : Declaration) : List String :=
  [usage declaration, "          " ++ declaration.longHelp.getD declaration.help]

/-- The help of the options in a group. -/
def groupHelp (heading : String) : List String :=
  let declarations := (Switch.all.map Switch.declaration).filter (·.heading == heading)
  ["", heading ++ ":"] ++ declarations.flatMap optionHelp

/-- The help. -/
def helpText : String :=
  let groups := [Switch.generalHeading, Switch.outputHeading, Switch.otherHeading]
  String.join
    (([programName ++ " " ++ programVersion, "", programDescription, "",
      "Usage: " ++ programName ++ " [OPTIONS]"] ++ groups.flatMap groupHelp).map (· ++ "\n"))

/-! ## Failures -/

/-- What is said about arguments at fault. -/
def argumentMessage : ArgumentFault → String
  | .unknownArgument => "error: unexpected argument found"
  | .invalidValue => "error: invalid or missing value for an argument"
  | .conflict => "error: an argument cannot be used multiple times"
  | .tooManyValues => "error: unexpected value for an argument that takes none"
  | .displayHelp | .displayVersion => ""

/-- What is said when the configuration cannot be used. -/
def configMessage (error : OptionError) : String :=
  "Error: Unable to properly parse or create the config file.\n\nCaused by:\n    " ++
    error.message ++ "\n"

/-- What is said when the options cannot be used. -/
def optionMessage (error : OptionError) : String :=
  "Error: " ++ error.message ++ "\n"

/-! ## Launching -/

/-- What the program does next. -/
inductive Launch where
  /-- It prints and ends with an exit status. -/
  | finish (status : UInt32) (output errorOutput : String)
  /-- It reports. -/
  | report (options : ReportOptions)

/-- The variables of the environment that say where the configuration is. -/
structure Environment where
  configHome : Option String := none
  home : Option String := none

/-- Where the configuration is that the arguments and the environment name. -/
def configPath? (arguments : Arguments) (environment : Environment) : Option String :=
  ConfigFile.path? arguments.configLocation environment.configHome environment.home

/-- What is done about arguments that reading stopped at. -/
def stopped : ArgumentFault → Launch
  | .displayHelp => .finish 0 helpText ""
  | .displayVersion => .finish 0 versionText ""
  | fault => .finish 2 "" (argumentMessage fault ++ "\n")

/-- What is done once the configuration is known. -/
def withConfig (arguments : Arguments) (config : Config) : Launch :=
  match ReportOptions.merge arguments config with
  | .ok options => .report options
  | .error error => .finish 1 "" (optionMessage error)

/-- What the program does with its arguments. The configuration file is made if it is missing. -/
def prepare {m : Type → Type} [Monad m] (access : FileAccess m) (arguments : List String)
    (environment : Environment) : m Launch := do
  match Arguments.read arguments with
  | .error fault => return stopped fault
  | .ok arguments =>
    match configPath? arguments environment with
    | none => return withConfig arguments {}
    | some path =>
      match ← (ConfigFile.load access path).run with
      | .ok config => return withConfig arguments config
      | .error error => return .finish 1 "" (configMessage error)

end HardwareReport.CommandLine
