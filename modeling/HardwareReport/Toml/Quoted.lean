import HardwareReport.Toml.Number

/-!
# Toml — quoted texts

Texts between double quotes, in which a backslash starts an escape, and between single quotes, in
which nothing does; each also over several lines, between three quotes.

Each reader takes what follows the opening quotes and gives the text and what follows the closing
ones.
-/

namespace HardwareReport.Toml.Quoted

/-- A control character that may stand nowhere: all of them but the tab. -/
def isForbidden (c : Char) : Bool :=
  (c.toNat < 0x20 && c != '\t') || c == '\x7f'

/-- The character with a code point, unless there is none. -/
def charOf? (n : Nat) : Option Char :=
  if n.isValidChar then some (Char.ofNat n) else none

/-- A code point in exactly `count` hexadecimal digits, and what follows it. -/
def hexChar? : Nat → Nat → List Char → Option (Char × List Char)
  | 0, value, rest => (charOf? value).map fun c => (c, rest)
  | count + 1, value, c :: rest =>
    match Number.digit? 16 c with
    | some digit => hexChar? count (value * 16 + digit) rest
    | none => none
  | _ + 1, _, [] => none

/-- The character that follows a backslash stands for, and what follows it. -/
def escape? : List Char → Option (Char × List Char)
  | 'b' :: rest => some ('\x08', rest)
  | 't' :: rest => some ('\t', rest)
  | 'n' :: rest => some ('\n', rest)
  | 'f' :: rest => some ('\x0c', rest)
  | 'r' :: rest => some ('\r', rest)
  | 'e' :: rest => some ('\x1b', rest)
  | '"' :: rest => some ('"', rest)
  | '\\' :: rest => some ('\\', rest)
  | 'x' :: rest => hexChar? 2 0 rest
  | 'u' :: rest => hexChar? 4 0 rest
  | 'U' :: rest => hexChar? 8 0 rest
  | _ => none

/-- A text and what follows it, with one more character before. -/
def push (c : Char) (read : Option (List Char × List Char)) : Option (List Char × List Char) :=
  read.map fun r => (c :: r.1, r.2)

/-! ## On one line -/

/-- A text between double quotes. The first argument bounds the count of characters. -/
def basic? : Nat → List Char → Option (List Char × List Char)
  | _, '"' :: rest => some ([], rest)
  | more + 1, '\\' :: rest =>
    match escape? rest with
    | some (c, rest) => push c (basic? more rest)
    | none => none
  | more + 1, c :: rest => if isForbidden c then none else push c (basic? more rest)
  | _, _ => none

/-- A text between single quotes. -/
def literal? : List Char → Option (List Char × List Char)
  | '\'' :: rest => some ([], rest)
  | c :: rest => if isForbidden c then none else push c (literal? rest)
  | [] => none

/-! ## Over several lines -/

/-- A text without the line end it starts with. -/
def dropLineEnd : List Char → List Char
  | '\n' :: rest => rest
  | '\r' :: '\n' :: rest => rest
  | s => s

/-- What stands at closing quotes: as many quotes as there are past the third belong to the text,
up to two. Nothing is closed by fewer than three. -/
def closing? (quote : Char) (s : List Char) : Option (List Char × List Char) :=
  let count := min 5 (s.takeWhile (· == quote)).length
  if 3 ≤ count then some (List.replicate (count - 3) quote, s.drop count) else none

/-- Whether a character is a space or a tab. -/
def isSpace (c : Char) : Bool := c == ' ' || c == '\t'

/-- What follows a backslash at the end of a line: everything up to the next character that is no
white space. -/
def continued? (s : List Char) : Option (List Char) :=
  match s.dropWhile isSpace with
  | '\n' :: rest => some (skipLines rest)
  | '\r' :: '\n' :: rest => some (skipLines rest)
  | _ => none
where
  /-- What follows white space and line ends. -/
  skipLines : List Char → List Char
    | '\n' :: rest => skipLines rest
    | '\r' :: '\n' :: rest => skipLines rest
    | ' ' :: rest => skipLines rest
    | '\t' :: rest => skipLines rest
    | s => s

/-- A text between three double quotes, once a line end after them was dropped. The first argument
bounds the count of characters. -/
def basicLines? : Nat → List Char → Option (List Char × List Char)
  | _, [] => none
  | 0, _ => none
  | more + 1, '"' :: rest =>
    match closing? '"' ('"' :: rest) with
    | some closed => some closed
    | none => push '"' (basicLines? more rest)
  | more + 1, '\\' :: rest =>
    match continued? rest with
    | some rest => basicLines? more rest
    | none =>
      match escape? rest with
      | some (c, rest) => push c (basicLines? more rest)
      | none => none
  | more + 1, '\n' :: rest => push '\n' (basicLines? more rest)
  | more + 1, '\r' :: '\n' :: rest => push '\n' (basicLines? more rest)
  | more + 1, c :: rest => if isForbidden c then none else push c (basicLines? more rest)

/-- A text between three single quotes, once a line end after them was dropped. The first argument
bounds the count of characters. -/
def literalLines? : Nat → List Char → Option (List Char × List Char)
  | _, [] => none
  | 0, _ => none
  | more + 1, '\'' :: rest =>
    match closing? '\'' ('\'' :: rest) with
    | some closed => some closed
    | none => push '\'' (literalLines? more rest)
  | more + 1, '\n' :: rest => push '\n' (literalLines? more rest)
  | more + 1, '\r' :: '\n' :: rest => push '\n' (literalLines? more rest)
  | more + 1, c :: rest => if isForbidden c then none else push c (literalLines? more rest)

/-! ## Opening quotes -/

/-- A text on one line, from its opening quote on. -/
def lineText? : List Char → Option (List Char × List Char)
  | '"' :: rest => basic? rest.length rest
  | '\'' :: rest => literal? rest
  | _ => none

/-- A text on one or more lines, from its opening quotes on. -/
def text? : List Char → Option (List Char × List Char)
  | '"' :: '"' :: '"' :: rest =>
    let body := dropLineEnd rest
    basicLines? body.length body
  | '\'' :: '\'' :: '\'' :: rest =>
    let body := dropLineEnd rest
    literalLines? body.length body
  | s => lineText? s

end HardwareReport.Toml.Quoted
