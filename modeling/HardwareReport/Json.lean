import HardwareReport.Number.Shortest

/-!
# Json — values and their text

A value of the JSON data model in which objects keep the order of their fields and numbers keep
the width they were measured in.

* `Json` — the values;
* `Json.compact` — the text without white space;
* `Json.pretty` — the text with one item or field a line, indented by two spaces.
-/

namespace HardwareReport

open Float.Model (Format UnpackedFloat)

/-- A JSON value. -/
inductive Json where
  | null
  | bool (value : Bool)
  | int (value : Int)
  | real (value : Float)
  | real32 (value : Float32)
  | text (value : String)
  | list (items : List Json)
  | object (fields : List (String × Json))

namespace Json

/-! ## Optional values -/

/-- A value, or null where there is none. -/
def optional {α : Type} (encode : α → Json) : Option α → Json
  | some value => encode value
  | none => .null

/-- A natural number. -/
def nat (n : Nat) : Json := .int n

/-! ## Text -/

/-- The lower-case hexadecimal digits of a code point below 256, two of them. -/
def twoHexDigits (n : Nat) : List Char :=
  Number.padLeft 2 (Nat.toDigits 16 n)

/-- One character between quotes. The control characters are escaped, those that have a short
escape by it; everything else but the quote and the backslash stands for itself. -/
def escapeChar (c : Char) : List Char :=
  match c with
  | '"' => ['\\', '"']
  | '\\' => ['\\', '\\']
  | '\n' => ['\\', 'n']
  | '\r' => ['\\', 'r']
  | '\t' => ['\\', 't']
  | '\x08' => ['\\', 'b']
  | '\x0c' => ['\\', 'f']
  | c => if c.toNat < 0x20 then ['\\', 'u', '0', '0'] ++ twoHexDigits c.toNat else [c]

/-- A quoted text. -/
def quoted (s : String) : List Char :=
  '"' :: s.toList.flatMap escapeChar ++ ['"']

/-! ## Numbers -/

/-- How the real numbers of one width are written: positionally if the exponent of the leading
digit lies between the two bounds, and with an exponent otherwise. -/
structure RealStyle where
  format : Format
  leastPlain : Int
  mostPlain : Int

/-- The style of double-precision numbers. -/
def doubleStyle : RealStyle := ⟨Format.binary64, -5, 15⟩

/-- The style of single-precision numbers. -/
def singleStyle : RealStyle := ⟨Format.binary32, -6, 12⟩

/-- Positional digits with at least one decimal place. -/
def withPlace (digits : List Char) : List Char :=
  if digits.contains '.' then digits else digits ++ ['.', '0']

/-- The text of a decimal in a style. -/
def decimalText (style : RealStyle) (d : Number.Decimal) : List Char :=
  if style.leastPlain ≤ d.leading ∧ d.leading ≤ style.mostPlain then withPlace d.plain
  else d.scientific

/-- The text of a real number: the fewest digits that read back. What is no finite number has no
form in JSON and is written as null. -/
def realText (style : RealStyle) : UnpackedFloat → List Char
  | .notANumber | .infinity _ => ['n', 'u', 'l', 'l']
  | .zero sign => Number.signText sign ++ ['0', '.', '0']
  | .finite sign significand exponent _ =>
    Number.signText sign ++ decimalText style (Number.shortest style.format significand exponent)

/-! ## Compact text -/

/-- The text of a value that holds no others. -/
def scalar : Json → List Char
  | .null => "null".toList
  | .bool true => "true".toList
  | .bool false => "false".toList
  | .int n => (toString n).toList
  | .real x => realText doubleStyle (Number.ofFloat x)
  | .real32 x => realText singleStyle (Number.ofFloat32 x)
  | .text s => quoted s
  | .list _ | .object _ => []

mutual

/-- The text of a value without white space. -/
def compactChars : Json → List Char
  | .list items => '[' :: compactItems items ++ [']']
  | .object fields => '\x7b' :: compactFields fields ++ ['\x7d']
  | value => scalar value

/-- Items with commas between them. -/
def compactItems : List Json → List Char
  | [] => []
  | [item] => compactChars item
  | item :: rest => compactChars item ++ ',' :: compactItems rest

/-- Fields with commas between them. -/
def compactFields : List (String × Json) → List Char
  | [] => []
  | [(key, value)] => quoted key ++ ':' :: compactChars value
  | (key, value) :: rest => quoted key ++ ':' :: compactChars value ++ ',' :: compactFields rest

end

/-- The text of a value without white space. -/
def compact (value : Json) : String :=
  String.ofList (compactChars value)

/-! ## Indented text -/

/-- The start of a line at a nesting depth. -/
def newLine (depth : Nat) : List Char :=
  '\n' :: List.replicate (2 * depth) ' '

mutual

/-- The text of a value whose first line starts at a nesting depth. -/
def prettyChars (depth : Nat) : Json → List Char
  | .list [] => ['[', ']']
  | .list items => '[' :: prettyItems depth items ++ newLine depth ++ [']']
  | .object [] => ['\x7b', '\x7d']
  | .object fields => '\x7b' :: prettyFields depth fields ++ newLine depth ++ ['\x7d']
  | value => scalar value

/-- Items one level deeper than `depth`, each on lines of its own. -/
def prettyItems (depth : Nat) : List Json → List Char
  | [] => []
  | [item] => newLine (depth + 1) ++ prettyChars (depth + 1) item
  | item :: rest =>
    newLine (depth + 1) ++ prettyChars (depth + 1) item ++ ',' :: prettyItems depth rest

/-- Fields one level deeper than `depth`, each on lines of its own. -/
def prettyFields (depth : Nat) : List (String × Json) → List Char
  | [] => []
  | [(key, value)] =>
    newLine (depth + 1) ++ quoted key ++ [':', ' '] ++ prettyChars (depth + 1) value
  | (key, value) :: rest =>
    newLine (depth + 1) ++ quoted key ++ [':', ' '] ++ prettyChars (depth + 1) value ++
      ',' :: prettyFields depth rest

end

/-- The text of a value with one item or field a line. -/
def pretty (value : Json) : String :=
  String.ofList (prettyChars 0 value)

end Json

end HardwareReport
