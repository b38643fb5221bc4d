import HardwareReport.Text.Natural
import HardwareReport.Text.Split

/-!
# Network — addresses

Hardware and internet addresses and their text. Of an IPv6 address the longest run of two or more
zero groups is left out, the first of several; an address that stands for an IPv4 address ends in
its dotted form.

* `Address` — an internet address;
* `Address.text` — its text;
* `Address.parse?` — reads one;
* `macText` — the text of a hardware address.
-/

namespace HardwareReport

/-- An internet address: four bytes, or eight groups of sixteen bits. -/
inductive Address where
  | v4 (bytes : List UInt8)
  | v6 (groups : List UInt16)
  deriving DecidableEq, Repr

namespace Address

/-- Texts with a separator between them. -/
def separated (sep : List Char) : List (List Char) → List Char
  | [] => []
  | [last] => last
  | first :: rest => first ++ sep ++ separated sep rest

/-! ## Writing -/

/-- The lower-case hexadecimal digits of a group. -/
def groupText (group : UInt16) : List Char :=
  Nat.toDigits 16 group.toNat

/-- The dotted form of bytes. -/
def dotted (bytes : List UInt8) : List Char :=
  separated ['.'] (bytes.map fun b => Nat.toDigits 10 b.toNat)

/-- Groups with colons between them. -/
def coloned (groups : List UInt16) : List Char :=
  separated [':'] (groups.map groupText)

/-- How many zero groups stand at the start. -/
def zeroRun (groups : List UInt16) : Nat :=
  (groups.takeWhile (· == 0)).length

/-- Where the longest run of zero groups starts, and how long it is; of several the first. -/
def longestZeroRun : Nat → List UInt16 → Nat × Nat
  | _, [] => (0, 0)
  | start, group :: rest =>
    let here := zeroRun (group :: rest)
    let later := longestZeroRun (start + 1) rest
    if later.2 ≤ here then (start, here) else later

/-- The two bytes of a group. -/
def bytesOfGroup (group : UInt16) : List UInt8 :=
  [(group >>> 8).toUInt8, group.toUInt8]

/-- The text of groups. -/
def groupsText (groups : List UInt16) : List Char :=
  match groups with
  | [0, 0, 0, 0, 0, 0xFFFF, high, low] =>
    "::ffff:".toList ++ dotted (bytesOfGroup high ++ bytesOfGroup low)
  | groups =>
    let run := longestZeroRun 0 groups
    if 1 < run.2 then
      coloned (groups.take run.1) ++ [':', ':'] ++ coloned (groups.drop (run.1 + run.2))
    else coloned groups

/-- The text of an address. -/
def text : Address → String
  | .v4 bytes => String.ofList (dotted bytes)
  | .v6 groups => String.ofList (groupsText groups)

/-! ## Reading -/

/-- Reads four decimal bytes with points between them. -/
def readDotted? (s : List Char) : Option (List UInt8) := do
  let bytes ← (Text.pieces (· == '.') s).mapM fun piece =>
    (Text.readNatural 256 piece).toOption.map UInt8.ofNat
  if bytes.length = 4 then some bytes else none

/-- The value of a hexadecimal digit. -/
def hexValue? (c : Char) : Option Nat :=
  if c.isDigit then some (c.toNat - '0'.toNat)
  else if 'a' ≤ c ∧ c ≤ 'f' then some (c.toNat - 'a'.toNat + 10)
  else if 'A' ≤ c ∧ c ≤ 'F' then some (c.toNat - 'A'.toNat + 10)
  else none

/-- Reads a group of one to four hexadecimal digits. -/
def readGroup? (s : List Char) : Option UInt16 :=
  if s.isEmpty ∨ 4 < s.length then none
  else (s.foldlM (fun value c => (hexValue? c).map (value * 16 + ·)) 0).map UInt16.ofNat

/-- The two groups of four bytes. -/
def groupsOfBytes : List UInt8 → List UInt16
  | a :: b :: rest => UInt16.ofNat (a.toNat * 256 + b.toNat) :: groupsOfBytes rest
  | _ => []

/-- Reads pieces between colons as groups; the last may be four bytes in dotted form. -/
def readPieces? : List (List Char) → Option (List UInt16)
  | [] => some []
  | [last] =>
    if last.contains '.' then (readDotted? last).map groupsOfBytes
    else (readGroup? last).map fun group => [group]
  | piece :: rest => do
    let group ← readGroup? piece
    let groups ← readPieces? rest
    return group :: groups

/-- Reads groups with colons between them, or nothing. -/
def readGroups? (s : List Char) : Option (List UInt16) :=
  if s.isEmpty then some [] else readPieces? (Text.pieces (· == ':') s)

/-- Reads the eight groups of an address, of which two colons may stand for zeros. -/
def readV6? (s : List Char) : Option (List UInt16) :=
  match Text.splitOnce? [':', ':'] s with
  | some (before, after) => do
    let front ← readGroups? before
    let back ← readGroups? after
    if front.length + back.length < 8 then
      return front ++ List.replicate (8 - front.length - back.length) 0 ++ back
    none
  | none => do
    let groups ← readGroups? s
    if groups.length = 8 then some groups else none

/-- Reads an address. -/
def parse? (s : String) : Option Address :=
  match readDotted? s.toList with
  | some bytes => some (.v4 bytes)
  | none => (readV6? s.toList).map .v6

end Address

/-- The text of a hardware address: bytes of two hexadecimal digits with colons between them. -/
def macText (bytes : List UInt8) : String :=
  String.ofList (Address.separated [':'] (bytes.map fun b =>
    [Nat.digitChar (b.toNat / 16), Nat.digitChar (b.toNat % 16)]))

end HardwareReport
