import HardwareReport.Duration
import HardwareReport.Text.Natural
import HardwareReport.Text.Split

/-!
# Options — intervals in text

An interval is a whole number of milliseconds, or numbers with units such as `1m 30s` or `1.5s`.
White space may stand between numbers and inside them, and ends a unit; so does a digit. A number
may have decimals where they come to a whole count of the unit's finest part.

Every count on the way, digits as well as sums, has to fit sixty-four bits.

* `TimeUnit` — the units;
* `Interval.Scan` — where a reader stands between two characters;
* `Interval.read?` — reads an interval.
-/

namespace HardwareReport

/-! ## Units -/

/-- A unit of time. -/
structure TimeUnit where
  names : List String
  /-- The count of seconds in the unit, or of nanoseconds in a unit below the second. -/
  scale : Nat
  belowSecond : Bool := false
  /-- What a unit with decimals is counted in: the count of seconds, or of nanoseconds if
  `fineInNanoseconds`, that one unit has. Without it decimals are refused. -/
  fineScale : Option Nat
  fineInNanoseconds : Bool := false

namespace TimeUnit

/-- Every unit. -/
def all : List TimeUnit :=
  [{ names := ["nanos", "nsec", "ns"], scale := 1, belowSecond := true, fineScale := none },
   { names := ["usec", "us", "µs"], scale := 1000, belowSecond := true
     fineScale := some 1000, fineInNanoseconds := true },
   { names := ["millis", "msec", "ms"], scale := 1000000, belowSecond := true
     fineScale := some 1000000, fineInNanoseconds := true },
   { names := ["seconds", "second", "secs", "sec", "s"], scale := 1
     fineScale := some 1000000000, fineInNanoseconds := true },
   { names := ["minutes", "minute", "min", "mins", "m"], scale := 60
     fineScale := some 60000000000, fineInNanoseconds := true },
   { names := ["hours", "hour", "hr", "hrs", "h"], scale := 3600, fineScale := some 3600 },
   { names := ["days", "day", "d"], scale := 86400, fineScale := some 86400 },
   { names := ["weeks", "week", "wk", "wks", "w"], scale := 604800, fineScale := some 604800 },
   { names := ["months", "month", "M"], scale := 2630016, fineScale := some 2630016 },
   { names := ["years", "year", "yr", "yrs", "y"], scale := 31557600
     fineScale := some 31557600 }]

/-- The unit with a name. -/
def ofName? (name : String) : Option TimeUnit :=
  all.find? fun unit => unit.names.contains name

end TimeUnit

namespace Interval

/-! ## Counts -/

/-- A count, if it fits sixty-four bits. -/
def fits? (n : Nat) : Option Nat :=
  if n < UInt64.size then some n else none

/-- The sum of a duration and some seconds and nanoseconds. -/
def add? (total : Duration) (seconds nanoseconds : Nat) : Option Duration := do
  let fine ← fits? (total.subsecond + nanoseconds)
  let whole ← fits? (seconds + fine / 1000000000)
  let sum ← fits? (total.seconds + whole)
  return ⟨sum * 1000000000 + fine % 1000000000⟩

/-- A number before a unit: its whole part, and its decimals as a fraction if it has any. -/
structure Amount where
  whole : Nat
  decimals : Option (Nat × Nat)

/-- The sum of a duration and the whole part of an amount. -/
def addWhole? (total : Duration) (unit : TimeUnit) (whole : Nat) : Option Duration := do
  let count ← fits? (whole * unit.scale)
  if unit.belowSecond then add? total 0 count else add? total count 0

/-- The sum of a duration and the decimals of an amount, which have to come to a whole count. -/
def addDecimals? (total : Duration) (unit : TimeUnit) (num den : Nat) : Option Duration := do
  let scale ← unit.fineScale
  let scaled ← fits? (num * scale)
  if scaled % den = 0 then
    if unit.fineInNanoseconds then add? total 0 (scaled / den) else add? total (scaled / den) 0
  else none

/-- The sum of a duration and an amount in a named unit. -/
def addAmount? (total : Duration) (amount : Amount) (name : String) : Option Duration := do
  let unit ← TimeUnit.ofName? name
  let sum ← addWhole? total unit amount.whole
  match amount.decimals with
  | some (num, den) => addDecimals? sum unit num den
  | none => return sum

/-! ## Scanning -/

/-- Where a reader stands between two characters. -/
inductive Scan where
  /-- Before a number. -/
  | between
  /-- In the whole part of a number. -/
  | whole (value : Nat)
  /-- In the decimals of a number, which so far are `num / den`. -/
  | decimals (value num den : Nat)
  /-- In a unit, with its letters so far. -/
  | unit (amount : Amount) (letters : List Char)

/-- A letter of a unit. -/
def isUnitLetter (c : Char) : Bool :=
  c.isAlpha || c == 'µ'

/-- A number with one more digit, if it fits. -/
def pushDigit? (value digit : Nat) : Option Nat :=
  fits? (value * 10 + digit)

/-- One character, with the sum of what has been read in full. -/
def step? (state : Duration × Scan) (c : Char) : Option (Duration × Scan) :=
  let total := state.1
  match state.2, Text.digitValue? c with
  | .between, some digit => some (total, .whole digit)
  | .between, none => if Text.isBlank c then some (total, .between) else none
  | .whole value, some digit => (pushDigit? value digit).map fun value => (total, .whole value)
  | .whole value, none =>
    if Text.isBlank c then some (total, .whole value)
    else if isUnitLetter c then some (total, .unit ⟨value, none⟩ [c])
    else if c == '.' then some (total, .decimals value 0 1)
    else none
  | .decimals value num den, some digit => do
    let den ← fits? (den * 10)
    let num ← pushDigit? num digit
    return (total, .decimals value num den)
  | .decimals value num den, none =>
    if Text.isBlank c then some (total, .decimals value num den)
    else if isUnitLetter c ∧ den ≠ 1 then some (total, .unit ⟨value, some (num, den)⟩ [c])
    else none
  | .unit amount letters, some digit =>
    (addAmount? total amount (String.ofList letters)).map fun total => (total, .whole digit)
  | .unit amount letters, none =>
    if Text.isBlank c then
      (addAmount? total amount (String.ofList letters)).map fun total => (total, .between)
    else if isUnitLetter c then some (total, .unit amount (letters ++ [c]))
    else none

/-- The sum at the end of a text, which must not end before a unit. -/
def finish? : Duration × Scan → Option Duration
  | (total, .between) => some total
  | (total, .unit amount letters) => addAmount? total amount (String.ofList letters)
  | _ => none

/-- Reads numbers with units. -/
def readUnits? (s : List Char) : Option Duration := do
  if s.isEmpty then none
  let state ← s.foldlM step? (⟨0⟩, .between)
  finish? state

/-- Reads an interval, milliseconds or numbers with units. -/
def read? (text : String) : Option Duration :=
  let s := Text.trimEnds Text.isBlank text.toList
  -- A count too large for milliseconds has no unit either, and is refused below.
  match Text.readUInt64 s with
  | .ok milliseconds => some (.ofMilliseconds milliseconds.toNat)
  | .error _ => readUnits? s

/-- The shortest interval that can be asked for. -/
def shortest : Duration := .ofMilliseconds 100

end Interval

end HardwareReport
