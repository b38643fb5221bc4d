import HardwareReport.Text.Encoding
import HardwareReport.Windows.Registry

/-!
# Windows — a registry in memory

A registry as a value, from which a key may be refused to be opened or listed and a value to be
read. Its names are matched as they are written.

* `kindOf`, `fault` — what the numbers of Windows come down to;
* `RegistryValue`, `RegistryKey` — what it holds;
* `RegistryKey.put` — how it is filled;
* `RegistryKey.asRegistry` — what it answers.
-/

namespace HardwareReport.Windows

/-! ## Faults -/

/-- The numbers that say that nothing is there: no such file, path, drive, network path or network
name. -/
def absentNumbers : List Int := [2, 3, 15, 53, 67]

/-- The numbers that say that access is not granted, by the system or by its sockets. -/
def deniedNumbers : List Int := [5, 10013]

/-- What an error number of Windows comes down to. -/
def kindOf (number : Int) : FaultKind :=
  if number ∈ absentNumbers then .notFound
  else if number ∈ deniedNumbers then .denied
  else .other

/-- The fault behind an error number of Windows, which has its own wording for it. -/
def fault (number : Int) (wording : String) : Fault :=
  .numbered (kindOf number) number wording

/-! ## Values and keys -/

/-- A value: what reading it as a text and as bytes comes to. -/
structure RegistryValue where
  asText : Except Fault String
  asBytes : Except Fault (List UInt8)

namespace RegistryValue

/-- The bytes of a text as they are stored, in units of two bytes and with a zero at the end. -/
def stored (value : String) : List UInt8 :=
  (Text.units value ++ [0]).flatMap fun (unit : UInt16) =>
    [unit.toUInt8, (unit >>> 8).toUInt8]

/-- A text. -/
def text (value : String) : RegistryValue where
  asText := .ok value
  asBytes := .ok (stored value)

/-- Bytes that are no text, with what reading them as one fails with. -/
def bytes (value : List UInt8) (mismatch : Fault) : RegistryValue where
  asText := .error mismatch
  asBytes := .ok value

/-- A value that cannot be read. -/
def refused (fault : Fault) : RegistryValue where
  asText := .error fault
  asBytes := .error fault

end RegistryValue

/-- A key: why it cannot be opened and why its keys cannot be listed, if so, its values and its
keys. -/
inductive RegistryKey where
  | key (openFault listFault : Option Fault) (values : List (String × RegistryValue))
      (keys : List (String × RegistryKey))

namespace RegistryKey

/-- The key with nothing in it. -/
def empty : RegistryKey := .key none none [] []

/-- The names on the way to a key. -/
def pathOf (text : String) : List String :=
  (Text.pieces (· == '\\') text.toList).map String.ofList

/-- Keys with the one of a name replaced, or added at the end. -/
def setKey (name : String) (inner : RegistryKey) :
    List (String × RegistryKey) → List (String × RegistryKey)
  | [] => [(name, inner)]
  | (other, old) :: rest =>
    if other == name then (name, inner) :: rest else (other, old) :: setKey name inner rest

/-- The registry with the faults and the values of the key at a path set. Keys on the way are made
where they are missing. -/
def put (openFault listFault : Option Fault) (values : List (String × RegistryValue)) :
    RegistryKey → List String → RegistryKey
  | .key _ _ _ keys, [] => .key openFault listFault values keys
  | .key oldOpen oldList oldValues keys, name :: rest =>
    .key oldOpen oldList oldValues
      (setKey name (put openFault listFault values ((keys.lookup name).getD empty) rest) keys)

/-! ## Answers -/

/-- The key that a path leads to, if every key on the way can be opened. -/
def openPath : RegistryKey → List String → Except Fault RegistryKey
  | found, [] => .ok found
  | .key _ _ _ keys, name :: rest =>
    match keys.lookup name with
    | none => .error .notFound
    | some (.key (some fault) _ _ _) => .error fault
    | some (.key none listFault values inner) => openPath (.key none listFault values inner) rest

/-- The names of the keys in a key. -/
def names : RegistryKey → Except Fault (List String)
  | .key _ (some fault) _ _ => .error fault
  | .key _ none _ keys => .ok (keys.map (·.1))

/-- The value of a name in a key. One that is missing cannot be read. -/
def value : RegistryKey → String → RegistryValue
  | .key _ _ values _, name => (values.lookup name).getD (.refused .notFound)

/-- What the registry with a key at its root answers. -/
def asRegistry (root : RegistryKey) : Registry RegistryKey where
  root := root
  subkey key path := key.openPath (pathOf path)
  subkeyNames := names
  text key name := (key.value name).asText
  bytes key name := (key.value name).asBytes

end RegistryKey

end HardwareReport.Windows
