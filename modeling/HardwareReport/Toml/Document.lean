import HardwareReport.Toml.Datetime
import HardwareReport.Toml.Item
import HardwareReport.Toml.Quoted

/-!
# Toml — documents

Reads a whole document as the entries of its root table. Between braces, line ends, comments and a
comma after the last entry are allowed.

* `Scalar.read?` — a value without quotes;
* `keyPath?` — a key, dotted or not;
* `itemAt?` — the value that a text begins with;
* `Document.read?` — a document.
-/

namespace HardwareReport.Toml

/-! ## Blanks -/

/-- What follows spaces and tabs. -/
def skipSpaces (s : List Char) : List Char :=
  s.dropWhile Quoted.isSpace

/-- What follows a comment that a text begins with, if it begins with one; a comment ends before
the end of its line. -/
def skipComment? : List Char → Option (List Char)
  | '#' :: rest => comment rest
  | s => some s
where
  /-- What follows the rest of a comment. -/
  comment : List Char → Option (List Char)
    | [] => some []
    | '\n' :: rest => some ('\n' :: rest)
    | '\r' :: '\n' :: rest => some ('\r' :: '\n' :: rest)
    | c :: rest => if Quoted.isForbidden c then none else comment rest

/-- What follows spaces and a comment. -/
def skipTrailing? (s : List Char) : Option (List Char) :=
  skipComment? (skipSpaces s)

/-- What follows spaces, comments and line ends. The first argument bounds the count of lines. -/
def skipLines? : Nat → List Char → Option (List Char)
  | 0, s => some s
  | more + 1, s =>
    match skipTrailing? s with
    | some ('\n' :: rest) => skipLines? more rest
    | some ('\r' :: '\n' :: rest) => skipLines? more rest
    | other => other

/-! ## Values without quotes -/

/-- A character that ends a value without quotes. -/
def endsScalar (c : Char) : Bool :=
  Quoted.isSpace c || "\n\r#,=[]\x7b\x7d\"'".toList.contains c

/-- Reads a value without quotes. -/
def Scalar.read? (s : List Char) : Option Scalar :=
  if s == "true".toList then some (.bool true)
  else if s == "false".toList then some (.bool false)
  else
    match Number.integer? s with
    | some n => some (.integer n)
    | none =>
      if Number.isReal s then some .real
      else if Datetime.isValid s then some .datetime
      else none

/-- The value without quotes that a text begins with, and what follows it. A date may go on after
one space with a time. -/
def scalarAt? (s : List Char) : Option (Scalar × List Char) :=
  let first := s.takeWhile fun c => !endsScalar c
  let rest := s.dropWhile fun c => !endsScalar c
  -- The space between a date and a time belongs to the value if a digit follows it.
  let joined : Option (List Char × List Char) :=
    match rest with
    | ' ' :: c :: more =>
      if c.isDigit && Datetime.date? first == some [] then
        some (first ++ ' ' :: (c :: more).takeWhile fun c => !endsScalar c,
          (c :: more).dropWhile fun c => !endsScalar c)
      else none
    | _ => none
  let (token, rest) := joined.getD (first, rest)
  (Scalar.read? token).map fun value => (value, rest)

/-! ## Keys -/

/-- A character of a key without quotes. -/
def isKeyChar (c : Char) : Bool :=
  c.isAlphanum || c == '_' || c == '-'

/-- The part of a key that a text begins with, and what follows it. -/
def keyPart? (s : List Char) : Option (String × List Char) :=
  match s with
  | '"' :: _ | '\'' :: _ => (Quoted.lineText? s).map fun r => (String.ofList r.1, r.2)
  | s =>
    if (s.takeWhile isKeyChar).isEmpty then none
    else some (String.ofList (s.takeWhile isKeyChar), s.dropWhile isKeyChar)

/-- The key that a text begins with, as the parts before the last and the last, and what follows
it and spaces after it. The first argument bounds the count of parts. -/
def keyPath? : Nat → List Char → Option ((List String × String) × List Char)
  | 0, _ => none
  | more + 1, s => do
    let (part, rest) ← keyPart? (skipSpaces s)
    match skipSpaces rest with
    | '.' :: rest =>
      let ((path, key), rest) ← keyPath? more rest
      return ((part :: path, key), rest)
    | rest => return (([], part), rest)

/-! ## Values -/

mutual

/-- The value that a text begins with, and what follows it. The first argument bounds the count of
steps, the second how deep the value may be nested. -/
def itemAt? : Nat → Nat → List Char → Option (Item × List Char)
  | 0, _, _ => none
  | fuel + 1, depth, s =>
    match s with
    | '"' :: _ | '\'' :: _ =>
      (Quoted.text? s).map fun r => (.scalar (.text (String.ofList r.1)), r.2)
    | '[' :: rest =>
      match depth with
      | 0 => none
      | depth + 1 => (elements? fuel depth rest).map fun r => (.array r.1, r.2)
    | '\x7b' :: rest =>
      match depth with
      | 0 => none
      | depth + 1 => (bracedEntries? fuel depth [] rest).map fun r => (.braced r.1, r.2)
    | s => (scalarAt? s).map fun r => (.scalar r.1, r.2)

/-- The elements of an array up to its closing bracket. -/
def elements? : Nat → Nat → List Char → Option (List Item × List Char)
  | 0, _, _ => none
  | fuel + 1, depth, s => do
    match ← skipLines? s.length s with
    | ']' :: rest => return ([], rest)
    | s =>
      let (item, rest) ← itemAt? fuel depth s
      match ← skipLines? rest.length rest with
      | ',' :: rest =>
        let (items, rest) ← elements? fuel depth rest
        return (item :: items, rest)
      | ']' :: rest => return ([item], rest)
      | _ => none

/-- The entries of a table in braces up to its closing brace, added to those before them. -/
def bracedEntries? : Nat → Nat → Entries → List Char → Option (Entries × List Char)
  | 0, _, _, _ => none
  | fuel + 1, depth, entries, s => do
    match ← skipLines? s.length s with
    | '\x7d' :: rest => return (entries, rest)
    | s =>
      let ((path, key), rest) ← keyPath? s.length s
      let rest ← Datetime.expect? '=' rest
      let (item, rest) ← itemAt? fuel depth (skipSpaces rest)
      let entries ← Entries.insert path key item entries
      match ← skipLines? rest.length rest with
      | ',' :: rest => bracedEntries? fuel depth entries rest
      | '\x7d' :: rest => return (entries, rest)
      | _ => none

end

/-- How deep values may be nested. -/
def greatestDepth : Nat := 80

/-- The value that a text begins with, and what follows it. -/
def item? (s : List Char) : Option (Item × List Char) :=
  itemAt? (2 * s.length + 2) greatestDepth s

/-! ## Lines -/

namespace Document

/-- What has been read of a document: the root table, and the header of the table that lines add
to. -/
structure State where
  root : Entries := []
  header : List String := []

/-- What follows the end of a line. -/
def lineEnd? (s : List Char) : Option (List Char) := do
  match ← skipTrailing? s with
  | [] => return []
  | '\n' :: rest => return rest
  | '\r' :: '\n' :: rest => return rest
  | _ => none

/-- The header in double brackets that follows them. -/
def elementHeader? (state : State) (s : List Char) : Option (State × List Char) := do
  let ((path, key), rest) ← keyPath? s.length s
  let rest ← Datetime.expect? ']' rest
  let rest ← Datetime.expect? ']' rest
  let root ← Entries.openElement path key state.root
  return ({ root, header := path ++ [key] }, rest)

/-- The header in brackets that follows the first of them. -/
def tableHeader? (state : State) (s : List Char) : Option (State × List Char) := do
  let ((path, key), rest) ← keyPath? s.length s
  let rest ← Datetime.expect? ']' rest
  let root ← Entries.openTable path key state.root
  return ({ root, header := path ++ [key] }, rest)

/-- A line with a key and a value. -/
def keyValue? (state : State) (s : List Char) : Option (State × List Char) := do
  let ((path, key), rest) ← keyPath? s.length s
  let rest ← Datetime.expect? '=' rest
  let (item, rest) ← item? (skipSpaces rest)
  let root ← Entries.insertBelow state.header path key item state.root
  return ({ state with root }, rest)

/-- One line, and what follows its end. -/
def line? (state : State) (s : List Char) : Option (State × List Char) := do
  let s := skipSpaces s
  let (state, rest) ← match s with
    | [] | '#' :: _ | '\n' :: _ | '\r' :: _ => some (state, s)
    | '[' :: '[' :: rest => elementHeader? state rest
    | '[' :: rest => tableHeader? state rest
    | s => keyValue? state s
  return (state, ← lineEnd? rest)

/-- All lines. The first argument bounds their count. -/
def lines? : Nat → State → List Char → Option State
  | _, state, [] => some state
  | 0, _, _ :: _ => none
  | more + 1, state, s =>
    match line? state s with
    | some (state, rest) => lines? more state rest
    | none => none

/-- Reads a document. A byte order mark before it does not count. -/
def read? (text : String) : Option Entries :=
  let s := match text.toList with
    | '\ufeff' :: rest => rest
    | s => s
  (lines? (s.length + 1) {} s).map (·.root)

end Document

end HardwareReport.Toml
