import HardwareReport.Text.Natural

/-!
# Toml — dates and times

A date, a time of day, or both, with an offset from universal time or not. The numbers have to name
a day that exists and a time that a clock can show.
-/

namespace HardwareReport.Toml.Datetime

/-- Exactly `count` digits at the start of a text, as a number, and what follows them. -/
def digits? : Nat → Nat → List Char → Option (Nat × List Char)
  | 0, value, rest => some (value, rest)
  | count + 1, value, c :: rest =>
    match Text.digitValue? c with
    | some digit => digits? count (value * 10 + digit) rest
    | none => none
  | _ + 1, _, [] => none

/-- A character at the start of a text, and what follows it. -/
def expect? (c : Char) : List Char → Option (List Char)
  | d :: rest => if d == c then some rest else none
  | [] => none

/-- A leap year. -/
def isLeap (year : Nat) : Bool :=
  year % 4 == 0 && (year % 100 != 0 || year % 400 == 0)

/-- The count of days in a month. -/
def daysIn (year month : Nat) : Nat :=
  if month = 2 then if isLeap year then 29 else 28
  else if month = 4 ∨ month = 6 ∨ month = 9 ∨ month = 11 then 30
  else 31

/-- What follows a date at the start of a text. -/
def date? (s : List Char) : Option (List Char) := do
  let (year, rest) ← digits? 4 0 s
  let rest ← expect? '-' rest
  let (month, rest) ← digits? 2 0 rest
  let rest ← expect? '-' rest
  let (day, rest) ← digits? 2 0 rest
  if 1 ≤ month ∧ month ≤ 12 ∧ 1 ≤ day ∧ day ≤ daysIn year month then some rest else none

/-- What follows a fraction of a second at the start of a text, if there is one. -/
def fraction? : List Char → Option (List Char)
  | '.' :: rest =>
    if (rest.takeWhile Char.isDigit).isEmpty then none else some (rest.dropWhile Char.isDigit)
  | s => some s

/-- What follows hours and minutes at the start of a text. -/
def clock? (s : List Char) : Option (List Char) := do
  let (hour, rest) ← digits? 2 0 s
  let rest ← expect? ':' rest
  let (minute, rest) ← digits? 2 0 rest
  if hour ≤ 23 ∧ minute ≤ 59 then some rest else none

/-- What follows a time of day at the start of a text. -/
def time? (s : List Char) : Option (List Char) := do
  let rest ← clock? s
  let rest ← expect? ':' rest
  let (second, rest) ← digits? 2 0 rest
  if second ≤ 60 then fraction? rest else none

/-- Whether a text is an offset from universal time, or nothing. -/
def isOffset : List Char → Bool
  | [] | ['Z'] | ['z'] => true
  | '+' :: rest | '-' :: rest => clock? rest == some []
  | _ => false

/-- Whether a text is a date, a time or both. -/
def isValid (s : List Char) : Bool :=
  match date? s with
  | some [] => true
  | some (c :: rest) =>
    if c == 'T' || c == 't' || c == ' ' then
      match time? rest with
      | some offset => isOffset offset
      | none => false
    else false
  | none => time? s == some []

end HardwareReport.Toml.Datetime
