/-!
# Text — decoding bytes and 16-bit units

Names that a system hands over as bytes or as 16-bit units are shown even where they are not well
formed: every part that decodes to nothing is replaced by `U+FFFD`.

* `lossyBytes` — UTF-8, one replacement for each longest ill-formed part;
* `lossyUnits` — UTF-16, one replacement for each surrogate that stands alone.
-/

namespace HardwareReport.Text

/-- The character that stands for a part that decodes to nothing. -/
def replacement : Char := '\ufffd'

/-! ## UTF-8 -/

/-- What the first byte of a character asks for: how many bytes follow it, the bits it holds, and
the range that the first of them lies in. The narrowed ranges rule out overlong forms, surrogates
and code points past the last one. -/
structure LeadByte where
  following : Nat
  bits : Nat
  low : Nat
  high : Nat

/-- The kind of a byte that begins a character of more than one byte. -/
def leadByte? (b : Nat) : Option LeadByte :=
  if b < 0xC2 then none
  else if b < 0xE0 then some ⟨1, b - 0xC0, 0x80, 0xBF⟩
  else if b = 0xE0 then some ⟨2, 0, 0xA0, 0xBF⟩
  else if b = 0xED then some ⟨2, 0xD, 0x80, 0x9F⟩
  else if b < 0xF0 then some ⟨2, b - 0xE0, 0x80, 0xBF⟩
  else if b = 0xF0 then some ⟨3, 0, 0x90, 0xBF⟩
  else if b < 0xF4 then some ⟨3, b - 0xF0, 0x80, 0xBF⟩
  else if b = 0xF4 then some ⟨3, 4, 0x80, 0x8F⟩
  else none

/-- Where a decoder stands between two bytes: between characters, or inside one, with the bytes
still owed, the bits so far and the range of the next byte. -/
inductive Utf8State where
  | start
  | inside (owed bits low high : Nat)

/-- One byte from between characters: what it shows and the state after it. -/
def Utf8State.begin (b : Nat) : List Char × Utf8State :=
  if b < 0x80 then ([Char.ofNat b], .start)
  else match leadByte? b with
    | some lead => ([], .inside lead.following lead.bits lead.low lead.high)
    | none => ([replacement], .start)

/-- One byte: what it shows and the state after it. A byte that does not continue the character
begun before it leaves that one ill formed, and begins the next. -/
def Utf8State.step : Utf8State → Nat → List Char × Utf8State
  | .start, b => Utf8State.begin b
  | .inside owed bits low high, b =>
    if low ≤ b ∧ b ≤ high then
      if owed ≤ 1 then ([Char.ofNat (bits * 64 + (b - 0x80))], .start)
      else ([], .inside (owed - 1) (bits * 64 + (b - 0x80)) 0x80 0xBF)
    else
      let next := Utf8State.begin b
      (replacement :: next.1, next.2)

/-- The characters that bytes show from a decoder's state on. -/
def decodeBytes : Utf8State → List UInt8 → List Char
  | .start, [] => []
  | .inside .., [] => [replacement]
  | state, b :: rest =>
    let next := state.step b.toNat
    next.1 ++ decodeBytes next.2 rest

/-- The text of bytes in UTF-8, with a replacement for each longest ill-formed part. -/
def lossyBytes (bytes : List UInt8) : String :=
  String.ofList (decodeBytes .start bytes)

/-! ## UTF-16 -/

/-- A unit that opens a surrogate pair. -/
def isHighSurrogate (u : UInt16) : Bool := 0xD800 ≤ u && u < 0xDC00

/-- A unit that closes a surrogate pair. -/
def isLowSurrogate (u : UInt16) : Bool := 0xDC00 ≤ u && u < 0xE000

/-- The code point of a surrogate pair. -/
def surrogatePair (high low : UInt16) : Char :=
  Char.ofNat (0x10000 + (high.toNat - 0xD800) * 0x400 + (low.toNat - 0xDC00))

/-- The characters of 16-bit units, with a replacement for each surrogate that stands alone. -/
def decodeUnits : List UInt16 → List Char
  | [] => []
  | [u] => if isHighSurrogate u || isLowSurrogate u then [replacement] else [Char.ofNat u.toNat]
  | u :: v :: rest =>
    if isHighSurrogate u then
      if isLowSurrogate v then surrogatePair u v :: decodeUnits rest
      else replacement :: decodeUnits (v :: rest)
    else if isLowSurrogate u then replacement :: decodeUnits (v :: rest)
    else Char.ofNat u.toNat :: decodeUnits (v :: rest)

/-- The text of units in UTF-16, with a replacement for each surrogate that stands alone. -/
def lossyUnits (units : List UInt16) : String :=
  String.ofList (decodeUnits units)

/-- The 16-bit units of one character. -/
def unitsOfChar (c : Char) : List UInt16 :=
  if c.toNat < 0x10000 then [UInt16.ofNat c.toNat]
  else
    let n := c.toNat - 0x10000
    [UInt16.ofNat (0xD800 + n / 0x400), UInt16.ofNat (0xDC00 + n % 0x400)]

/-- The 16-bit units of a text. -/
def units (s : String) : List UInt16 :=
  s.toList.flatMap unitsOfChar

end HardwareReport.Text
