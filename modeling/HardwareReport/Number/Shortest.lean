import HardwareReport.Number.Fixed

/-!
# Number — the fewest digits that read back

A floating-point number stands for every real number that rounds to it. Its shortest decimal is
the one with the fewest digits among those reals, and the nearest to the number itself of those.

The reals that round to `m · 2 ^ e` lie between the midpoints to its two neighbours; the midpoints
belong to them exactly when `m` is even. For one digit, two digits and so on, the search tries the
two points next to the number on the decimal grid with that many digits: if any point of a grid
reads back, one of these two does.

* `Decimal` — a decimal `digits · 10 ^ exponent`;
* `shortest` — the shortest decimal of a positive number of a format;
* `Decimal.plain` — positional notation;
* `Decimal.scientific` — notation with an exponent.
-/

namespace HardwareReport.Number

open Float.Model (Format UnpackedFloat)

/-! ## Decimals -/

/-- The number `digits · 10 ^ exponent`. -/
structure Decimal where
  digits : Nat
  exponent : Int
  deriving DecidableEq, Repr

/-- The exponent of the leading digit of a decimal. -/
def Decimal.leading (d : Decimal) : Int :=
  d.exponent + ((Number.digits d.digits).length - 1 : Nat)

/-- A decimal of one digit or the number ten times one digit, without the final zero. -/
def Decimal.dropTen (d : Decimal) : Decimal :=
  if d.digits = 10 then ⟨1, d.exponent + 1⟩ else d

/-! ## The search -/

/-- The exponent of the leading decimal digit of a positive fraction. -/
def Fraction.leadingExponent (value : Fraction) : Int :=
  if value.den ≤ value.num then ((digits (value.num / value.den)).length - 1 : Nat)
  else
    let short := (digits (value.den / value.num)).length - 1
    if value.den ≤ value.num * Nat.pow 10 short then -(short : Int) else -(short + 1 : Int)

/-- The reals that round to a number, with ends over the denominator of the number. -/
structure Interval where
  low : Nat
  high : Nat
  den : Nat
  closed : Bool

/-- Whether `num / den` lies between the ends of an interval. -/
def Interval.contains (range : Interval) (num den : Nat) : Bool :=
  if range.closed then
    range.low * den ≤ num * range.den && num * range.den ≤ range.high * den
  else
    range.low * den < num * range.den && num * range.den < range.high * den

/-- The point of the grid of step `10 ^ exponent` that reads back and is nearest to `value`. -/
def gridPoint? (range : Interval) (value : Fraction) (exponent : Int) : Option Decimal :=
  let up := Nat.pow 10 exponent.toNat
  let down := Nat.pow 10 (-exponent).toNat
  let num := value.num * down
  let den := value.den * up
  let below := num / den
  let above := if num % den = 0 then below else below + 1
  let fits := fun n => range.contains (n * up) down
  let nearBelow := 2 * (num % den) < den ∨ 2 * (num % den) = den ∧ below % 2 = 0
  if fits below ∧ (nearBelow ∨ ¬ fits above) then some ⟨below, exponent⟩
  else if fits above then some ⟨above, exponent⟩
  else none

/-- The first grid with a point that reads back, from `count` digits on, with `more` finer grids
left to try. -/
def searchGrids (range : Interval) (value : Fraction) (leading : Int) : Nat → Nat → Decimal
  | count, 0 => (gridPoint? range value (leading + 1 - count)).getD ⟨0, 0⟩
  | count, more + 1 =>
    match gridPoint? range value (leading + 1 - count) with
    | some point => point
    | none => searchGrids range value leading (count + 1) more

/-- The reals that round to `significand · 2 ^ exponent` in a format. Below a power of two the
neighbours are half as far apart. -/
def roundingInterval (format : Format) (significand : Nat) (exponent : Int) : Interval :=
  let atPower := significand = Nat.pow 2 (format.mantissaBits - 1) ∧ format.minExponent < exponent
  let scale := fraction 1 (exponent - 2)
  { low := (if atPower then 4 * significand - 1 else 4 * significand - 2) * scale.num
    high := (4 * significand + 2) * scale.num
    den := scale.den
    closed := significand % 2 = 0 }

/-- The most digits a double-precision number needs to read back. -/
def mostDigits : Nat := 17

/-- The shortest decimal that reads back as `significand · 2 ^ exponent` in a format. -/
def shortest (format : Format) (significand : Nat) (exponent : Int) : Decimal :=
  let value := fraction significand exponent
  (searchGrids (roundingInterval format significand exponent) value value.leadingExponent 1
    mostDigits).dropTen

/-! ## Notations -/

/-- Positional notation, without a point where no digit follows it. -/
def Decimal.plain (d : Decimal) : List Char :=
  let text := Number.digits d.digits
  if 0 ≤ d.exponent then text ++ List.replicate d.exponent.toNat '0'
  else
    let places := (-d.exponent).toNat
    let padded := padLeft (places + 1) text
    padded.take (padded.length - places) ++ '.' :: padded.drop (padded.length - places)

/-- One digit, a point and further digits if there are any, and the exponent with its sign. -/
def Decimal.scientific (d : Decimal) : List Char :=
  let exponent := d.leading
  let mantissa := match Number.digits d.digits with
    | first :: second :: rest => first :: '.' :: second :: rest
    | text => text
  mantissa ++ 'e' :: (if exponent < 0 then '-' else '+') :: Number.digits exponent.natAbs

/-- A number in positional notation with the fewest digits that read back. -/
def plainText (format : Format) : UnpackedFloat → List Char
  | .notANumber => ['N', 'a', 'N']
  | .infinity sign => signText sign ++ ['i', 'n', 'f']
  | .zero sign => signText sign ++ ['0']
  | .finite sign significand exponent _ =>
    signText sign ++ (shortest format significand exponent).plain

/-- A double-precision number in positional notation. -/
def plain (x : Float) : String :=
  String.ofList (plainText Format.binary64 (ofFloat x))

/-- A double-precision number rounded to an integer, halves away from zero. From the point on where
there are only integers it is written with the fewest digits that read back. -/
def wholeText : UnpackedFloat → List Char
  | .finite sign significand exponent hPos =>
    if exponent < 0 then
      signText sign ++ Number.digits (roundHalfUp significand (Nat.pow 2 (-exponent).toNat))
    else plainText Format.binary64 (.finite sign significand exponent hPos)
  | other => plainText Format.binary64 other

/-- The text of a double-precision number rounded to an integer. -/
def whole (x : Float) : String :=
  String.ofList (wholeText (ofFloat x))

end HardwareReport.Number
