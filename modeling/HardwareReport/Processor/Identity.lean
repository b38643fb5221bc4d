import HardwareReport.Json
import HardwareReport.Processor.Frequency
import HardwareReport.Processor.Identifier
import HardwareReport.Text.Quoted

/-!
# Processor — identity

What a processor says about itself, and what follows from that alone.
-/

namespace HardwareReport

/-- What a processor says about itself. What is not known is empty. -/
structure Identity where
  vendor : String := ""
  name : String := ""
  identifier : String := ""
  /-- Whether the processor is a 64-bit one, if the platform says. -/
  cpu64 : Option Bool := none
  deriving DecidableEq, Repr

namespace Identity

/-- The identity of a processor that nothing is known of. -/
def unknown : Identity := {}

/-- The family number in the identifier. -/
def family? (identity : Identity) : Option String :=
  (Identifier.parts? identity.identifier).map (·.family)

/-- The model number in the identifier. -/
def model? (identity : Identity) : Option String :=
  (Identifier.parts? identity.identifier).map (·.model)

/-- The stepping in the identifier. -/
def stepping? (identity : Identity) : Option String :=
  (Identifier.parts? identity.identifier).map (·.stepping)

/-- The frequency in the name, in hertz, or `-1`. -/
def vendorFrequency (identity : Identity) : Int :=
  Frequency.ofName identity.name

/-- The identity in data. -/
def toJson (identity : Identity) : Json :=
  .object [("vendor", .text identity.vendor), ("name", .text identity.name),
    ("identifier", .text identity.identifier), ("cpu64", Json.optional .bool identity.cpu64)]

/-! ## For a developer -/

/-- An optional value for a developer. -/
def describeOption {α : Type} (describe : α → String) : Option α → String
  | some value => "Some(" ++ describe value ++ ")"
  | none => "None"

/-- A truth value for a developer. -/
def describeBool : Bool → String
  | true => "true"
  | false => "false"

/-- The identity for a developer, with every field named. -/
def describe (identity : Identity) : String :=
  "ProcessorIdentity \x7b vendor: " ++ Text.Quoted.quote identity.vendor ++
    ", name: " ++ Text.Quoted.quote identity.name ++
    ", identifier: " ++ Text.Quoted.quote identity.identifier ++
    ", cpu64: " ++ describeOption describeBool identity.cpu64 ++ " \x7d"

end Identity

end HardwareReport
