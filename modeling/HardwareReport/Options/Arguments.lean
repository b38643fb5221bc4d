import HardwareReport.Options.Declaration
import HardwareReport.Text.Split

/-!
# Options — arguments

Reads the arguments of the command line from left to right and stops at the first that is at
fault. The value of an option stands in the same argument or in the next one; in the latter case
it is looked at only when the next option or the end is reached, so that an argument nobody knows
is reported before a value that is at fault.

* `Arguments` — what the arguments ask for;
* `ArgumentFault` — why reading stopped;
* `Arguments.read` — reads arguments.
-/

namespace HardwareReport

/-- What the arguments ask for. -/
structure Arguments where
  configLocation : Option String := none
  interval : Option String := none
  watch : Bool := false
  /-- The sections asked for, in order. -/
  sections : List Section := []
  usbTree : Bool := false
  json : Bool := false
  deriving DecidableEq, Repr

/-- Why reading stopped. The questions for help and for the version are such stops too. -/
inductive ArgumentFault where
  | unknownArgument
  /-- A value that the option cannot have, or no value where one is needed. -/
  | invalidValue
  /-- A second occurrence of an option that may be given once only. -/
  | conflict
  /-- A value for an option that has none. -/
  | tooManyValues
  | displayHelp
  | displayVersion
  deriving DecidableEq, Repr

namespace Arguments

/-! ## Single options -/

/-- The arguments with an option set. -/
def set (switch : Switch) (value : String) (arguments : Arguments) :
    Except ArgumentFault Arguments :=
  match switch with
  | .configLocation => .ok { arguments with configLocation := some value }
  | .interval => .ok { arguments with interval := some value }
  | .watch => .ok { arguments with watch := true }
  | .sections =>
    match Section.ofName? value with
    | some s => .ok { arguments with sections := arguments.sections ++ [s] }
    | none => .error .invalidValue
  | .usbTree => .ok { arguments with usbTree := true }
  | .json => .ok { arguments with json := true }
  | .help => .error .displayHelp
  | .version => .error .displayVersion

/-- Where a reader stands between two arguments. -/
structure Reader where
  arguments : Arguments := {}
  /-- The options looked at so far. -/
  given : List Switch := []
  /-- An option whose value was not looked at yet, with the value if it has come. -/
  pending : Option (Switch × Option String) := none
  /-- Whether no further options are expected. -/
  closed : Bool := false

namespace Reader

/-- Looks at an option and its value. -/
def give (switch : Switch) (value : Option String) (reader : Reader) :
    Except ArgumentFault Reader :=
  -- A missing value comes before a second occurrence, and that before a value at fault.
  if switch.takesValue && value.isNone then .error .invalidValue
  else if !switch.declaration.repeatable && reader.given.contains switch then .error .conflict
  else
    (reader.arguments.set switch (value.getD "")).map fun arguments =>
      { reader with arguments, given := switch :: reader.given }

/-- Looks at the pending option. -/
def settle (reader : Reader) : Except ArgumentFault Reader :=
  match reader.pending with
  | some (switch, value) => { reader with pending := none }.give switch value
  | none => .ok reader

/-- An option with its value in the same argument, or without a value. -/
def react (switch : Switch) (value : Option String) (reader : Reader) :
    Except ArgumentFault Reader := do
  (← reader.settle).give switch value

/-- An option whose value comes in the next argument. -/
def await (switch : Switch) (reader : Reader) : Except ArgumentFault Reader := do
  return { ← reader.settle with pending := some (switch, none) }

/-! ## Arguments -/

/-- An argument that begins with two dashes, without them. -/
def long (body : List Char) (reader : Reader) : Except ArgumentFault Reader :=
  let (name, value) := match Text.splitOnce? ['='] body with
    | some (name, value) => (name, some (String.ofList value))
    | none => (body, none)
  match Switch.ofLong? (String.ofList name), value with
  | none, _ => .error .unknownArgument
  | some switch, some value =>
    if switch.takesValue then reader.react switch (some value) else .error .tooManyValues
  | some switch, none =>
    if switch.takesValue then reader.await switch else reader.react switch none

/-- The value that follows a short name in the same argument. -/
def attached : List Char → String
  | '=' :: value => String.ofList value
  | value => String.ofList value

/-- An argument that begins with one dash, without it: short names, and after the name of an option
that has a value the value. -/
def short : List Char → Reader → Except ArgumentFault Reader
  | [], reader => .ok reader
  | c :: rest, reader =>
    match Switch.ofShort? c with
    | none => .error .unknownArgument
    | some switch =>
      if switch.takesValue then
        if rest.isEmpty then reader.await switch
        else reader.react switch (some (attached rest))
      else do
        let reader ← reader.react switch none
        short rest reader

/-- An argument that is no option. -/
def plain (argument : String) (reader : Reader) : Except ArgumentFault Reader :=
  match reader.pending with
  | some (switch, none) => .ok { reader with pending := some (switch, some argument) }
  | _ => .error .unknownArgument

/-- One argument. -/
def next (reader : Reader) (argument : String) : Except ArgumentFault Reader :=
  -- There are no arguments but options, so that nothing may follow two dashes.
  if reader.closed then .error .unknownArgument
  else
    match argument.toList with
    | ['-', '-'] => .ok { reader with closed := true }
    | '-' :: '-' :: body => reader.long body
    | '-' :: c :: rest => short (c :: rest) reader
    | _ => reader.plain argument

end Reader

/-- Reads arguments. -/
def read (arguments : List String) : Except ArgumentFault Arguments := do
  let reader ← arguments.foldlM Reader.next {}
  let reader ← reader.settle
  return reader.arguments

end Arguments

end HardwareReport
