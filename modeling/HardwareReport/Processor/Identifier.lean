import HardwareReport.Text.Split

/-!
# Processor — identifiers

An identifier such as `Intel64 Family 6 Model 15 Stepping 10` names a processor by three numbers.

* `Identifier.Parts` — the three numbers, as texts;
* `Identifier.parts?` — reads them from an identifier;
* `Identifier.write` — writes an identifier.
-/

namespace HardwareReport.Identifier

/-- The numbers that an identifier gives. -/
structure Parts where
  family : String
  model : String
  stepping : String
  deriving DecidableEq, Repr

/-! ## Reading -/

/-- A character of a word. -/
def isWordChar (c : Char) : Bool :=
  !Text.isBlank c

/-- The word that a text begins with, and what follows it. -/
def wordAt? (s : List Char) : Option (List Char × List Char) :=
  if (s.takeWhile isWordChar).isEmpty then none
  else some (s.takeWhile isWordChar, s.dropWhile isWordChar)

/-- A word without a comma at its end, unless it is the comma alone. -/
def dropComma (word : List Char) : List Char :=
  -- A word has at least one character, so that a lone comma stays.
  if word.getLast? = some ',' ∧ 1 < word.length then word.dropLast else word

/-- The numbers of an identifier that a text begins with. -/
def partsAt? (s : List Char) : Option Parts := do
  let afterFamily ← Text.dropStart? "Family ".toList s
  let (family, rest) ← wordAt? afterFamily
  let afterModel ← Text.dropStart? " Model ".toList rest
  let (model, rest) ← wordAt? afterModel
  let afterStepping ← Text.dropStart? " Stepping ".toList rest
  let (stepping, _) ← wordAt? afterStepping
  return ⟨.ofList family, .ofList model, .ofList (dropComma stepping)⟩

/-- The numbers of the leftmost identifier in a text. -/
def partsIn? : List Char → Option Parts
  | [] => none
  | c :: rest =>
    match partsAt? (c :: rest) with
    | some parts => some parts
    | none => partsIn? rest

/-- The numbers that an identifier gives. -/
def parts? (identifier : String) : Option Parts :=
  partsIn? identifier.toList

/-! ## Writing -/

/-- The first word of an identifier: the 64-bit processors of two vendors have names of their
own. -/
def architecture (vendor : String) (cpu64 : Option Bool) : String :=
  match vendor, cpu64 with
  | "GenuineIntel", some true => "Intel64"
  | "AuthenticAMD", some true => "AMD64"
  | _, _ => "x86"

/-- The identifier of a processor. -/
def write (vendor : String) (cpu64 : Option Bool) (parts : Parts) : String :=
  architecture vendor cpu64 ++ " Family " ++ parts.family ++ " Model " ++ parts.model ++
    " Stepping " ++ parts.stepping

end HardwareReport.Identifier
