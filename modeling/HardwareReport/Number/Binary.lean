import HardwareReport.Number.Rounding

/-!
# Number — binary floating-point numbers as exact values

A finite floating-point number is a sign and a fraction of natural numbers whose denominator is a
power of two. Conversions between the two widths and to integers are made on that exact value.

* `ofFloat`, `ofFloat32` — a number taken apart into class, sign, significand and exponent;
* `narrow`, `widen` — the nearest number of the other width;
* `fraction` — the exact value of a significand and an exponent;
* `nearestNat` — the nearest integer, a tie going up, capped.
-/

namespace HardwareReport.Number

open Float.Model (Format UnpackedFloat)

/-! ## Taking apart and putting together -/

/-- A double-precision number taken apart. -/
def ofFloat (x : Float) : UnpackedFloat :=
  UnpackedFloat.unpack Format.binary64 x.toBits.toBitVec

/-- A single-precision number taken apart. -/
def ofFloat32 (x : Float32) : UnpackedFloat :=
  UnpackedFloat.unpack Format.binary32 x.toBits.toBitVec

/-- The number of a format nearest to a given number. -/
def roundTo (format : Format) : UnpackedFloat → UnpackedFloat
  | .finite sign significand exponent _ => UnpackedFloat.round format sign significand exponent
  | other => other

/-- The single-precision number nearest to a double-precision one. -/
def narrow (x : Float) : Float32 :=
  Float32.ofBits (UInt32.ofBitVec ((roundTo Format.binary32 (ofFloat x)).pack Format.binary32))

/-- A single-precision number in double precision, which holds it exactly. -/
def widen (x : Float32) : Float :=
  Float.ofBits (UInt64.ofBitVec ((roundTo Format.binary64 (ofFloat32 x)).pack Format.binary64))

/-! ## Exact values -/

/-- A non-negative fraction. -/
structure Fraction where
  num : Nat
  den : Nat
  deriving DecidableEq, Repr

/-- The fraction `significand · 2 ^ exponent`. -/
def fraction (significand : Nat) (exponent : Int) : Fraction :=
  ⟨significand * Nat.pow 2 exponent.toNat, Nat.pow 2 (-exponent).toNat⟩

/-- The denominator of an exact value is not zero. -/
theorem fraction_den_pos (significand : Nat) (exponent : Int) :
    0 < (fraction significand exponent).den :=
  Nat.two_pow_pos _

/-- The integer nearest to a number, at least zero and at most `cap`; a tie goes up, and what is
not a number counts as zero. -/
def nearestNat (cap : Nat) : UnpackedFloat → Nat
  | .finite .positive significand exponent _ =>
    let value := fraction significand exponent
    min cap (roundHalfUp value.num value.den)
  | .infinity .positive => cap
  | _ => 0

end HardwareReport.Number
