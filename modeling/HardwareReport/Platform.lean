import HardwareReport.Json

/-!
# Platform — operating system families

The families that a backend can be written for, and the ones this library reads a machine of.
-/

namespace HardwareReport

/-- An operating system family. -/
inductive Platform where
  | windows
  | linux
  | macOs
  | solaris
  | freeBsd
  | unknown
  deriving DecidableEq, Repr

namespace Platform

/-- The family of an operating system, by the name the system goes under. -/
def ofName (name : String) : Platform :=
  match name with
  | "windows" => .windows
  | "linux" => .linux
  | "macos" => .macOs
  | "solaris" | "illumos" => .solaris
  | "freebsd" => .freeBsd
  | _ => .unknown

/-- The name shown to a reader. -/
def title : Platform → String
  | .windows => "Windows"
  | .linux => "Linux"
  | .macOs => "macOS"
  | .solaris => "Solaris"
  | .freeBsd => "FreeBSD"
  | .unknown => "Unknown"

/-- The name used in data. -/
def key : Platform → String
  | .windows => "windows"
  | .linux => "linux"
  | .macOs => "macos"
  | .solaris => "solaris"
  | .freeBsd => "freebsd"
  | .unknown => "unknown"

/-- The family in data. -/
def toJson (platform : Platform) : Json :=
  .text platform.key

/-- The platform the program runs on. -/
def current : Platform := .linux

/-- The platforms whose machines can be read while the program runs. -/
def registered : List Platform := [current]

end Platform

end HardwareReport
