import HardwareReport.Text.Natural

/-!
# Toml — numbers

Integers of sixty-four bits in four bases, and floating-point numbers of double precision.
Underscores may stand between two digits.
-/

namespace HardwareReport.Toml.Number

/-- The value of a digit in a base of at most sixteen. -/
def digit? (base : Nat) (c : Char) : Option Nat :=
  let value :=
    if c.isDigit then c.toNat - '0'.toNat
    else if 'a' ≤ c ∧ c ≤ 'f' then c.toNat - 'a'.toNat + 10
    else if 'A' ≤ c ∧ c ≤ 'F' then c.toNat - 'A'.toNat + 10
    else base
  if value < base then some value else none

/-- Further digits of a number, after a digit; an underscore needs a digit after it. -/
def moreDigits? (base : Nat) : Nat → List Char → Option Nat
  | value, [] => some value
  | value, '_' :: c :: rest =>
    match digit? base c with
    | some digit => moreDigits? base (value * base + digit) rest
    | none => none
  | value, c :: rest =>
    match digit? base c with
    | some digit => moreDigits? base (value * base + digit) rest
    | none => none

/-- The value of digits in a base, with underscores between them or not. -/
def digits? (base : Nat) : List Char → Option Nat
  | [] => none
  | c :: rest =>
    match digit? base c with
    | some digit => moreDigits? base digit rest
    | none => none

/-- A sign at the start of a text, and what follows it. -/
def sign : List Char → Bool × List Char
  | '-' :: rest => (true, rest)
  | '+' :: rest => (false, rest)
  | s => (false, s)

/-- The value of decimal digits that do not start with a zero, unless there is only one. -/
def decimal? (s : List Char) : Option Nat :=
  match s with
  | '0' :: _ :: _ => none
  | s => digits? 10 s

/-- An integer, if it fits sixty-four bits. -/
def fits? (n : Int) : Option Int :=
  if Int64.minValue.toInt ≤ n ∧ n ≤ Int64.maxValue.toInt then some n else none

/-- Reads an integer. Only decimal ones have a sign. -/
def integer? (s : List Char) : Option Int :=
  match s with
  | '0' :: 'x' :: digits => (digits? 16 digits).bind fun n => fits? n
  | '0' :: 'o' :: digits => (digits? 8 digits).bind fun n => fits? n
  | '0' :: 'b' :: digits => (digits? 2 digits).bind fun n => fits? n
  | s =>
    let (negative, digits) := sign s
    (decimal? digits).bind fun n => fits? (if negative then -n else n)

/-! ## Floating-point numbers -/

/-- The parts of a floating-point number: whole digits, decimals and exponent. -/
structure Parts where
  whole : List Char
  decimals : Option (List Char)
  exponent : Option (List Char)

/-- Whether a character introduces an exponent. -/
def isExponentMark (c : Char) : Bool := c == 'e' || c == 'E'

/-- A text cut at the point and at the mark of the exponent. -/
def parts (s : List Char) : Parts :=
  let mantissa := s.takeWhile fun c => !isExponentMark c
  let exponent := match s.dropWhile fun c => !isExponentMark c with
    | _ :: rest => some rest
    | [] => none
  let decimals := match mantissa.dropWhile (· != '.') with
    | _ :: rest => some rest
    | [] => none
  ⟨mantissa.takeWhile (· != '.'), decimals, exponent⟩

/-- The value of an exponent, which may start with zeros. -/
def exponent? (s : List Char) : Option Int :=
  let (negative, digits) := sign s
  (digits? 10 digits).map fun n => if negative then -n else n

/-- Whether `digits · 10 ^ exponent` is below what double precision can hold. Far from the bound
the count of digits decides. -/
def isFinite (digits : Nat) (exponent : Int) : Bool :=
  let leading : Int := exponent + (Nat.toDigits 10 digits).length
  if digits = 0 ∨ leading < -400 then true
  else if 400 < leading then false
  else
    (if 0 ≤ exponent then Float.ofScientific digits false exponent.toNat
      else Float.ofScientific digits true (-exponent).toNat).isFinite

/-- Whether a text without a sign is a floating-point number with digits. -/
def isDigitsReal (s : List Char) : Bool :=
  let p := parts s
  match decimal? p.whole, p.decimals.map (digits? 10), p.exponent.map exponent? with
  | some _, none, some (some exponent) =>
    match digits? 10 p.whole with
    | some whole => isFinite whole exponent
    | none => false
  | some whole, some (some decimals), none =>
    let places := ((p.decimals.getD []).filter Char.isDigit).length
    isFinite (whole * Nat.pow 10 places + decimals) (-places)
  | some whole, some (some decimals), some (some exponent) =>
    let places := ((p.decimals.getD []).filter Char.isDigit).length
    isFinite (whole * Nat.pow 10 places + decimals) (exponent - places)
  | _, _, _ => false

/-- Whether a text is a floating-point number. -/
def isReal (s : List Char) : Bool :=
  let body := (sign s).2
  body == "inf".toList || body == "nan".toList || isDigitsReal body

end HardwareReport.Toml.Number
