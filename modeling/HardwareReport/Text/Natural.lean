/-!
# Text — reading natural numbers

A natural number is written in ASCII digits, with an optional plus sign before them, and lies
below a bound that the reader gives. The first fault from the left is the one reported.
-/

namespace HardwareReport.Text

/-- Why a text is no natural number below the bound. -/
inductive NumberFault where
  | empty
  | invalidDigit
  | tooLarge
  deriving DecidableEq, Repr

/-- The wording of a fault. -/
def NumberFault.message : NumberFault → String
  | .empty => "cannot parse integer from empty string"
  | .invalidDigit => "invalid digit found in string"
  | .tooLarge => "number too large to fit in target type"

/-- The value of an ASCII digit. -/
def digitValue? (c : Char) : Option Nat :=
  if c.isDigit then some (c.toNat - '0'.toNat) else none

/-- Reads further digits of a number whose digits so far have the value `value`. -/
def readDigits (bound : Nat) : Nat → List Char → Except NumberFault Nat
  | value, [] => .ok value
  | value, c :: rest =>
    match digitValue? c with
    | none => .error .invalidDigit
    | some digit =>
      if value * 10 + digit < bound then readDigits bound (value * 10 + digit) rest
      else .error .tooLarge

/-- Reads a whole text as a natural number below `bound`. -/
def readNatural (bound : Nat) : List Char → Except NumberFault Nat
  | [] => .error .empty
  | ['+'] => .error .invalidDigit
  | '+' :: digits => readDigits bound 0 digits
  | digits => readDigits bound 0 digits

/-- Reads a 64-bit counter. -/
def readUInt64 (s : List Char) : Except NumberFault UInt64 :=
  (readNatural UInt64.size s).map UInt64.ofNat

/-- Reads a 32-bit number. -/
def readUInt32 (s : List Char) : Except NumberFault UInt32 :=
  (readNatural UInt32.size s).map UInt32.ofNat

end HardwareReport.Text
