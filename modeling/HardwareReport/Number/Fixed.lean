import HardwareReport.Number.Binary

/-!
# Number — text with fixed decimal places

A number is written with a given count of decimal places. The digits are those of the exact value,
rounded to the nearest, a tie going to the even digit. The sign of a negative number stays, also
where nothing but zeros is left of it.
-/

namespace HardwareReport.Number

open Float.Model (UnpackedFloat)

/-- The sign written before a number. -/
def signText : UnpackedFloat.Sign → List Char
  | .positive => []
  | .negative => ['-']

/-- The digits of a natural number. -/
def digits (n : Nat) : List Char :=
  Nat.toDigits 10 n

/-- Digits with zeros before them up to `width` places. -/
def padLeft (width : Nat) (s : List Char) : List Char :=
  List.replicate (width - s.length) '0' ++ s

/-- The text of `scaled / 10 ^ places`. -/
def placesText (places scaled : Nat) : List Char :=
  if places = 0 then digits scaled
  else digits (scaled / Nat.pow 10 places) ++ '.' :: padLeft places (digits (scaled % Nat.pow 10 places))

/-- A non-negative fraction with fixed places. -/
def Fraction.fixed (places : Nat) (value : Fraction) : List Char :=
  placesText places (roundHalfEven (value.num * Nat.pow 10 places) value.den)

/-- A number with fixed places. -/
def fixedText (places : Nat) : UnpackedFloat → List Char
  | .notANumber => ['N', 'a', 'N']
  | .infinity sign => signText sign ++ ['i', 'n', 'f']
  | .zero sign => signText sign ++ placesText places 0
  | .finite sign significand exponent _ =>
    signText sign ++ (fraction significand exponent).fixed places

/-- A double-precision number with fixed places. -/
def fixed (places : Nat) (x : Float) : String :=
  String.ofList (fixedText places (ofFloat x))

/-- A single-precision number with fixed places. -/
def fixed32 (places : Nat) (x : Float32) : String :=
  String.ofList (fixedText places (ofFloat32 x))

end HardwareReport.Number
