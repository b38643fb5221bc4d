/-!
# Number — numbers in bytes

Whole numbers as machines keep them: in bytes, the least significant first.

* `littleEndian` — a natural number;
* `signedLittleEndian` — an integer of a fixed width.
-/

namespace HardwareReport.Number

/-- The number that bytes give with the least significant first. -/
def littleEndian : List UInt8 → Nat
  | [] => 0
  | b :: rest => b.toNat + 256 * littleEndian rest

/-- The signed number of a width in bytes. Bytes that are missing count as zero. -/
def signedLittleEndian (width : Nat) (bytes : List UInt8) : Int :=
  Int.bmod (littleEndian (bytes.take width)) (Nat.pow 256 width)

end HardwareReport.Number
