import HardwareReport.Error

/-!
# FileTree — directory trees

A directory tree as a value, for what is only read, at paths of plain names from the root. Files and
listings may fail to be read, each in its own way. A link counts as what it leads to.

* `Node` — a file or a directory;
* `Path` — the names on the way from the root;
* `Node.lookup`, `Node.readBytes`, `Node.readText`, `Node.names` — reading;
* `Node.put`, `Node.remove` — the tree after a change.
-/

namespace HardwareReport.FileTree

/-- A file or a directory. -/
inductive Node where
  /-- A file and its bytes, or why they cannot be read. -/
  | file (content : Except Fault ByteArray)
  /-- A directory, why it cannot be listed if it cannot, and its entries in the order in which the
  system yields them. Entries that it fails to yield, and those whose names are no text, are passed
  over by whoever lists a directory, and are not among these. -/
  | directory (refusal : Option Fault) (entries : List (String × Node))

/-! ## Paths -/

/-- The names on the way from the root. -/
abbrev Path := List String

namespace Path

/-- The text that names a path from the root. -/
def text (path : Path) : String :=
  "/" ++ "/".intercalate path

end Path

namespace Node

/-- The tree with nothing in it. -/
def empty : Node := .directory none []

/-! ## Reading -/

/-- What a path leads to. -/
def lookup : Node → Path → Except Fault Node
  | node, [] => .ok node
  | .file _, _ :: _ => .error .notADirectory
  | .directory _ entries, name :: rest =>
    match entries.lookup name with
    | some child => lookup child rest
    | none => .error .notFound

/-- Whether a path leads to something. -/
def has (tree : Node) (path : Path) : Bool :=
  (tree.lookup path).isOk

/-- The bytes of the file at a path. -/
def readBytes (tree : Node) (path : Path) : Except Fault ByteArray :=
  match tree.lookup path with
  | .ok (.file content) => content
  | .ok (.directory _ _) => .error .isADirectory
  | .error fault => .error fault

/-- Bytes as text. -/
def decode (bytes : ByteArray) : Except Fault String :=
  match String.fromUTF8? bytes with
  | some text => .ok text
  | none => .error .notUtf8

/-- The text of the file at a path. -/
def readText (tree : Node) (path : Path) : Except Fault String :=
  tree.readBytes path >>= decode

/-- The names in the directory at a path, as the system yields them. -/
def names (tree : Node) (path : Path) : Except Fault (List String) :=
  match tree.lookup path with
  | .ok (.directory none entries) => .ok (entries.map (·.1))
  | .ok (.directory (some fault) _) => .error fault
  | .ok (.file _) => .error .notADirectory
  | .error fault => .error fault

/-! ## Changing -/

/-- Entries with the one of a name replaced, or added at the end. -/
def setEntry (name : String) (node : Node) : List (String × Node) → List (String × Node)
  | [] => [(name, node)]
  | (other, old) :: rest =>
    if other == name then (name, node) :: rest else (other, old) :: setEntry name node rest

/-- The tree with a node at a path and directories on the way to it; files on the way give way to
directories. -/
def put : Node → Path → Node → Node
  | _, [], node => node
  | .file _, name :: rest, node => .directory none [(name, put empty rest node)]
  | .directory refusal entries, name :: rest, node =>
    .directory refusal
      (setEntry name (put ((entries.lookup name).getD empty) rest node) entries)

/-- The tree without what a path leads to. -/
def remove : Node → Path → Node
  | .directory refusal entries, [name] =>
    .directory refusal (entries.filter fun entry => entry.1 != name)
  | .directory refusal entries, name :: rest =>
    match entries.lookup name with
    | some child => .directory refusal (setEntry name (remove child rest) entries)
    | none => .directory refusal entries
  | node, _ => node

/-! ## Small laws -/

/-- The bytes of a text are read as that text. -/
theorem decode_toUTF8 (text : String) : decode text.toUTF8 = .ok text := by
  have hText : String.fromUTF8? text.toUTF8 = some text := by
    rw [String.fromUTF8?, dif_pos (show text.toUTF8.IsValidUTF8 from text.isValidUTF8)]
    rfl
  rw [decode, hText]

/-- An entry that was set is found. -/
theorem lookup_setEntry (name : String) (node : Node) (entries : List (String × Node)) :
    (setEntry name node entries).lookup name = some node := by
  induction entries with
  | nil => simp [setEntry]
  | cons entry rest ih =>
    obtain ⟨other, old⟩ := entry
    by_cases hName : other = name
    · simp [setEntry, hName]
    · have hFlip : (name == other) = false := by simpa using fun h => hName h.symm
      simp [setEntry, hName, List.lookup_cons, hFlip, ih]

/-- Setting an entry leaves the others alone. -/
theorem lookup_setEntry_of_ne {name other : String} (node : Node)
    (entries : List (String × Node)) (hNe : other ≠ name) :
    (setEntry name node entries).lookup other = entries.lookup other := by
  have hFlip : (other == name) = false := by simpa using hNe
  induction entries with
  | nil => simp [setEntry, List.lookup_cons, hFlip]
  | cons entry rest ih =>
    obtain ⟨first, old⟩ := entry
    by_cases hName : first = name
    · simp [setEntry, hName, List.lookup_cons, hFlip]
    · simp [setEntry, hName, List.lookup_cons, ih]

end Node

end HardwareReport.FileTree
