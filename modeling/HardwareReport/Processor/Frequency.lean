import HardwareReport.Number.Binary
import HardwareReport.Text.DecimalDigit
import HardwareReport.Text.Natural
import HardwareReport.Text.Split

/-!
# Processor — frequencies in names

Processor names end with the frequency the vendor sold the processor at, as in
`CPU T7300 @ 2.00GHz`.

* `Frequency.Occurrence` — a frequency as it stands in a text;
* `Frequency.find?` — the leftmost frequency of a text;
* `Frequency.ofText` — its value in hertz, or `-1`;
* `Frequency.ofName` — the frequency after the mark in a processor's name.
-/

namespace HardwareReport.Frequency

/-! ## Occurrences -/

/-- The unit of a frequency. -/
inductive Scale where
  | hertz
  | kilo
  | mega
  | giga
  | tera
  deriving DecidableEq, Repr

/-- The count of hertz in a unit. -/
def Scale.hertzCount : Scale → Float
  | .hertz => 1
  | .kilo => 1e3
  | .mega => 1e6
  | .giga => 1e9
  | .tera => 1e12

/-- The unit that a text begins with. -/
def scaleAt? : List Char → Option Scale
  | 'H' :: 'z' :: _ => some .hertz
  | 'k' :: 'H' :: 'z' :: _ => some .kilo
  | 'M' :: 'H' :: 'z' :: _ => some .mega
  | 'G' :: 'H' :: 'z' :: _ => some .giga
  | 'T' :: 'H' :: 'z' :: _ => some .tera
  | _ => none

/-- A frequency as it stands in a text: the digits before the point, those after it, and the
unit. -/
structure Occurrence where
  whole : List Char
  decimals : List Char
  scale : Scale
  deriving DecidableEq, Repr

/-- The decimal digits after a point that a text begins with, and what follows them. Without a
digit after it the point does not count. -/
def decimalsAt (s : List Char) : List Char × List Char :=
  match s with
  | '.' :: rest =>
    if (rest.takeWhile Text.isDecimalDigit).isEmpty then ([], s)
    else (rest.takeWhile Text.isDecimalDigit, rest.dropWhile Text.isDecimalDigit)
  | _ => ([], s)

/-- A text without one space at its start. -/
def dropSpace : List Char → List Char
  | ' ' :: rest => rest
  | s => s

/-- The frequency that a text begins with: digits of any script, with decimals or not, at most one
space, and a unit. -/
def occurrenceAt? (s : List Char) : Option Occurrence :=
  let whole := s.takeWhile Text.isDecimalDigit
  let decimals := decimalsAt (s.dropWhile Text.isDecimalDigit)
  if whole.isEmpty then none
  else (scaleAt? (dropSpace decimals.2)).map fun scale => ⟨whole, decimals.1, scale⟩

/-- The leftmost frequency of a text. -/
def find? : List Char → Option Occurrence
  | [] => none
  | c :: rest =>
    match occurrenceAt? (c :: rest) with
    | some occurrence => some occurrence
    | none => find? rest

/-! ## Values -/

/-- The greatest frequency that is told apart, in hertz. -/
def greatest : Nat := UInt64.size / 2 - 1

/-- The value of ASCII digits. -/
def digitsValue? (digits : List Char) : Option Nat :=
  digits.foldlM (fun value c => (Text.digitValue? c).map (value * 10 + ·)) 0

/-- The value of an occurrence in hertz, rounded to the nearest. Digits that are not ASCII have
no value here. -/
def Occurrence.value? (occurrence : Occurrence) : Option Nat :=
  (digitsValue? (occurrence.whole ++ occurrence.decimals)).map fun digits =>
    let number := Float.ofScientific digits true occurrence.decimals.length
    Number.nearestNat greatest (Number.ofFloat (number * occurrence.scale.hertzCount))

/-- The leftmost frequency of a text in hertz, or `-1` if there is none or it has no value. -/
def ofText (s : List Char) : Int :=
  match (find? s).bind Occurrence.value? with
  | some hertz => hertz
  | none => -1

/-! ## Names -/

/-- The last line of a text. -/
def lastLine (s : List Char) : List Char :=
  match Text.splitLast? '\n' s with
  | some parts => parts.2
  | none => s

/-- What follows the first mark `@ ` of the last line of a name. -/
def afterMark? (name : List Char) : Option (List Char) :=
  -- Only the last line reaches to the end of the name.
  (Text.splitOnce? ['@', ' '] (lastLine name)).map (·.2)

/-- The frequency that a processor's name ends with, in hertz, or `-1` if it has none. -/
def ofName (name : String) : Int :=
  match afterMark? name.toList with
  | some text => ofText text
  | none => -1

end HardwareReport.Frequency
