import HardwareReport.Text.Printable

/-!
# Text — quoted for reading by a developer

A text between double quotes in which everything that does not show as itself is escaped.
-/

namespace HardwareReport.Text.Quoted

/-- The lower-case hexadecimal digits of `n`. -/
def hexDigits (n : Nat) : List Char :=
  Nat.toDigits 16 n

/-- One character between the quotes: a short escape where there is one, itself if it is graphic
and stands alone, and otherwise its code point in braces. -/
def encodeChar (c : Char) : List Char :=
  match c with
  | '\x00' => ['\\', '0']
  | '\t' => ['\\', 't']
  | '\n' => ['\\', 'n']
  | '\r' => ['\\', 'r']
  | '"' => ['\\', '"']
  | '\\' => ['\\', '\\']
  | c => if isGraphic c then [c] else ['\\', 'u', '\x7b'] ++ hexDigits c.toNat ++ ['\x7d']

/-- The quoted form of a text. -/
def quote (s : String) : String :=
  String.ofList (['"'] ++ s.toList.flatMap encodeChar ++ ['"'])

end HardwareReport.Text.Quoted
