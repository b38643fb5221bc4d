import HardwareReport.Error

/-!
# Options — why options cannot be used
-/

namespace HardwareReport

/-- Where a setting comes from. -/
inductive SettingSource where
  | arguments
  | config
  deriving DecidableEq, Repr

/-- Why options cannot be used. -/
inductive OptionError where
  /-- The interval cannot be read. -/
  | intervalInvalid (source : SettingSource)
  /-- The interval is shorter than it may be. -/
  | intervalTooShort (source : SettingSource)
  /-- The configuration asks for no section at all. -/
  | noSections
  /-- The configuration asks for a section that does not exist. -/
  | unknownSection (name : String)
  /-- The configuration is no TOML document, or its values have the wrong types. -/
  | notConfig
  /-- The configuration cannot be read or made. -/
  | fault (cause : Fault)
  deriving DecidableEq, Repr

namespace OptionError

/-- What an error is about. -/
inductive Kind where
  | config
  | argument
  | other
  deriving DecidableEq, Repr

/-- What an error about a setting from a source is about. -/
def kindOfSource : SettingSource → Kind
  | .arguments => .argument
  | .config => .config

/-- What an error is about. -/
def kind : OptionError → Kind
  | .intervalInvalid source | .intervalTooShort source => kindOfSource source
  | .noSections | .unknownSection _ | .notConfig => .config
  | .fault _ => .other

/-- The cause of an error. -/
def reason : OptionError → String
  | .intervalInvalid .arguments =>
    "'--interval' was set with an invalid value, please update your arguments."
  | .intervalInvalid .config =>
    "'interval' was set with an invalid value, please update it in your config file."
  | .intervalTooShort .arguments => "'--interval' must be at least 100ms."
  | .intervalTooShort .config => "'interval' must be at least 100ms."
  | .noSections => "'sections' must name at least one section."
  | .unknownSection name => "'" ++ name ++ "' is not a valid section name."
  | .notConfig => "the file is not a valid configuration."
  | .fault cause => cause.text

/-- What comes before the cause. -/
def Kind.introduction : Kind → String
  | .config => "Configuration file error: "
  | .argument => "Argument error: "
  | .other => "Error with the config file or the arguments: "

/-- The wording of an error. -/
def message (error : OptionError) : String :=
  error.kind.introduction ++ error.reason

end OptionError

end HardwareReport
