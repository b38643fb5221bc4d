import HardwareReport.FileSystem
import HardwareReport.Options.Config
import HardwareReport.Options.Error

/-!
# Options — the configuration file

The configuration is read from a file. If the file is not there, it is made with a default text,
along with the directories on the way to it.

* `ConfigFile.defaultPath?` — where the file is, unless it is named;
* `ConfigFile.load` — the configuration, which is read or made.
-/

namespace HardwareReport.ConfigFile

/-- Where the file is in the directory for configuration. -/
def location : String := "hwscope/hwscope.toml"

/-- A path followed by a relative one. -/
def join (directory path : String) : String :=
  if directory.endsWith "/" then directory ++ path else directory ++ "/" ++ path

/-- The directory for configuration: the one the environment names if its path is absolute, and
otherwise one in the home directory. -/
def directory? (configHome home : Option String) : Option String :=
  match configHome.filter (·.startsWith "/") with
  | some directory => some directory
  | none => (home.filter fun path => !path.isEmpty).map (join · ".config")

/-- Where the file is: at the named path if there is one. -/
def path? (named configHome home : Option String) : Option String :=
  match named with
  | some path => some path
  | none => (directory? configHome home).map (join · location)

/-- The configuration that the text of the file holds. -/
def read (text : String) : Except OptionError Config :=
  match Config.read? text with
  | some config => .ok config
  | none => .error .notConfig

/-- The configuration at a path, where a default file is made if nothing is there. -/
def load {m : Type → Type} [Monad m] (access : FileAccess m) (path : String) :
    ExceptT OptionError m Config := do
  if ← access.isThere path then
    read (← (access.readText path).adapt .fault)
  else
    (access.makeParents path).adapt .fault
    (access.write path Config.defaultText).adapt .fault
    return {}

end HardwareReport.ConfigFile
