import HardwareReport.FileTree
import HardwareReport.Text.Blank

/-!
# FileSystem — paths through links

Where a path leads is decided by what it passes on the way: a link leads elsewhere, even to where
nothing is, and `..` leads up from the directory that has been reached, whatever the path was to it.
So a file system is not a tree in which paths are looked up by their names alone.

* `FileAccess` — what can be done with files;
* `Step`, `steps`, `components` — what a path is made of, for the system and for a look at its text;
* `FileSystem` — files, directories and links, each at its place;
* `FileSystem.walk`, `FileSystem.reach` — where a path leads;
* `FileSystem.makeDirectories`, `FileSystem.write` — the file system after a change;
* `FileSystem.access` — a file system as something to work on.

Files are regular ones. One that is made can be read, and one that cannot be read can be written all
the same.
-/

namespace HardwareReport

/-- What can be done with files, in a computation that others may share. -/
structure FileAccess (m : Type → Type) where
  /-- Whether a path leads to something. -/
  isThere : String → m Bool
  readText : String → ExceptT Fault m String
  /-- Makes the directory that the last component of a path stands in, and those on the way. -/
  makeParents : String → ExceptT Fault m Unit
  /-- Writes the file at a path, which is made if it is missing. -/
  write : String → String → ExceptT Fault m Unit

namespace Files

/-! ## Paths -/

/-- A step of a path. -/
inductive Step where
  /-- To the entry of a name. -/
  | enter (name : String)
  /-- To the directory above: `..`. -/
  | up
  /-- Nowhere: `.`. -/
  | here
  /-- Nowhere, as nothing stands between two separators or after the last. -/
  | slash
  deriving DecidableEq, Repr

/-- The names on the way from a place to the root, the innermost first. -/
abbrev Place := List String

namespace Step

/-- The step that a piece of a path stands for. -/
def ofPiece (piece : String) : Step :=
  if piece == "" then .slash
  else if piece == "." then .here
  else if piece == ".." then .up
  else .enter piece

/-- The piece of a path that stands for a step. -/
def piece : Step → String
  | .enter name => name
  | .up => ".."
  | .here => "."
  | .slash => ""

/-- The place that a step leads to from another. -/
def target : Step → Place → Place
  | .enter name, place => name :: place
  | .up, place => place.tail
  | .here, place | .slash, place => place

/-- Whether a step goes anywhere. -/
def moves : Step → Bool
  | .enter _ | .up => true
  | .here | .slash => false

end Step

/-- Whether a path starts at the root. -/
def isAbsolute (path : String) : Bool :=
  path.toList.head? == some '/'

/-- The steps of a path. -/
def steps (path : String) : List Step :=
  (Text.pieces (· == '/') path.toList).map fun piece => .ofPiece (String.ofList piece)

/-- The components of a path: the steps that a look at its text finds. Separators do not count, nor
does `.` but in front. -/
def components (path : String) : List Step :=
  match steps path with
  | .here :: rest => .here :: rest.filter Step.moves
  | all => all.filter Step.moves

/-- The components of the directory that the last component stands in. -/
def parents (path : String) : List Step :=
  (components path).dropLast

/-- The path of that directory. -/
def parentPath (path : String) : String :=
  (if isAbsolute path then "/" else "") ++ "/".intercalate ((parents path).map Step.piece)

/-- Where a path starts that is seen from a place. -/
def origin (base : Place) (path : String) : Place :=
  if isAbsolute path then [] else base

/-! ## File systems -/

/-- What stands at a place. -/
inductive Entry where
  /-- A file, its bytes, and why they cannot be read, if they cannot. -/
  | file (bytes : ByteArray) (unread : Option Fault)
  | directory
  /-- A link and the path that it stands for. -/
  | link (path : String)

namespace Entry

def isDirectory : Entry → Bool
  | .directory => true
  | _ => false

def isLink : Entry → Bool
  | .link _ => true
  | _ => false

/-- Why a file cannot be read, if it cannot. -/
def unread : Entry → Option Fault
  | .file _ unread => unread
  | .directory | .link _ => none

end Entry

/-- What a file system grants, which does not change with its entries. -/
structure Grants where
  /-- The working directory. -/
  current : Place := []
  /-- How many links one path may lead through. -/
  linkLimit : Nat := 40
  /-- Why a path is not accepted, if it is not, such as one that is too long. -/
  refused : List Step → Option Fault := fun _ => none
  /-- Why a step from a directory is not granted, if it is not. -/
  barred : Place → Step → Option Fault := fun _ _ => none
  /-- Why nothing can be made or written at a place, if nothing can. -/
  sealed : Place → Option Fault := fun _ => none
  /-- How many bytes are written at a place, and why no more, if there are too many to write. -/
  short : Place → Nat → Option (Nat × Fault) := fun _ _ => none

/-- A file system. Whatever is there stands in a directory, but for the root, which is one. -/
structure FileSystem extends Grants where
  entry : Place → Option Entry
  root : entry [] = some .directory
  above : ∀ name place, (entry (name :: place)).isSome → entry place = some .directory

namespace FileSystem

/-- The file system with nothing in it. -/
def empty : FileSystem where
  entry place := if place = [] then some .directory else none
  root := rfl
  above := by simp

variable (files : FileSystem)

/-! ## Walking -/

/-- The place that a step leads to, if it is one from a directory and is granted. -/
def look (place : Place) (step : Step) : Except Fault Place :=
  match files.entry place with
  | none => .error .notFound
  | some .directory =>
    match files.barred place step with
    | some fault => .error fault
    | none => .ok (step.target place)
  | some _ => .error .notADirectory

/-- Whether a path ends with a step and those after it in a way that only a directory has: with a
separator, or with the name of a directory that is relative to another. -/
def endsAsDirectory : Step → List Step → Bool
  | .enter _, [] => false
  | _, rest => rest.all (· == .slash)

/-- The place that steps lead to from another. Where a link is met, `follow` goes on with the steps
of its path. If a file is to be made there, the last name need not lead to anything. -/
def walkWith (making : Bool) (follow : Place → List Step → Except Fault Place) :
    Place → List Step → Except Fault Place
  | place, [] => .ok place
  | place, step :: rest =>
    match files.look place step with
    | .error fault => .error fault
    | .ok next =>
      if making && endsAsDirectory step rest then .error .isADirectory
      else
        match files.entry next with
        | none => if making && rest.isEmpty then .ok next else .error .notFound
        | some (.link path) =>
          if path.isEmpty then .error .notFound
          else follow (origin place path) (steps path ++ rest)
        | some _ => walkWith making follow next rest

/-- The place that steps lead to from another through at most as many links as are left. -/
def walk (files : FileSystem) (making : Bool) : Nat → Place → List Step → Except Fault Place
  | 0 => files.walkWith making fun _ _ => .error (.code 40)
  | left + 1 => files.walkWith making (walk files making left)

/-- The place that the steps of a path lead to, if the system accepts it. -/
def reach (making : Bool) (start : Place) (route : List Step) : Except Fault Place :=
  match files.refused route with
  | some fault => .error fault
  | none => files.walk making files.linkLimit start route

/-- The place that a path leads to. The empty path leads nowhere. -/
def find (making : Bool) (path : String) : Except Fault Place :=
  if path.isEmpty then .error .notFound
  else files.reach making (origin files.current path) (steps path)

/-! ## Reading -/

/-- Whether a path leads to something. -/
def isThere (path : String) : Bool :=
  (files.find false path).isOk

/-- Why the file at a place cannot be read, if there is one that cannot. -/
def unread (place : Place) : Option Fault :=
  (files.entry place).bind Entry.unread

/-- The bytes of the file that a path leads to. -/
def readBytes (path : String) : Except Fault ByteArray :=
  match files.find false path with
  | .error fault => .error fault
  | .ok place =>
    match files.entry place with
    | some (.file _ (some fault)) => .error fault
    | some (.file bytes none) => .ok bytes
    | some .directory => .error .isADirectory
    | _ => .error .notFound

/-- The text of the file that a path leads to. -/
def readText (path : String) : Except Fault String :=
  files.readBytes path >>= FileTree.Node.decode

/-- Whether steps lead to a directory. -/
def isDirectory (start : Place) (route : List Step) : Bool :=
  match files.reach false start route with
  | .error _ => false
  | .ok place => (files.entry place).any Entry.isDirectory

/-! ## Changing -/

/-- Whether something can be put at a place: it is in a directory and no directory itself. -/
def admits : Place → Bool
  | [] => false
  | name :: place =>
    (files.entry place).any Entry.isDirectory &&
      !(files.entry (name :: place)).any Entry.isDirectory

theorem any_isDirectory_iff {found : Option Entry} :
    found.any Entry.isDirectory = true ↔ found = some .directory := by
  rcases found with _ | _ | _ | _ <;> simp [Entry.isDirectory]

/-- The entries with another one at a place that admits it. -/
def entryWith (place : Place) (entry : Entry) (other : Place) : Option Entry :=
  if files.admits place && other == place then some entry else files.entry other

theorem entryWith_root (place : Place) (entry : Entry) :
    files.entryWith place entry [] = some .directory := by
  unfold entryWith
  cases place with
  | nil => exact files.root
  | cons name above => simpa using files.root

/-- A new entry leaves whatever is there in a directory: it is in one itself, and in the way of
none. -/
theorem entryWith_above (place : Place) (entry : Entry) (name : String) (other : Place)
    (h : (files.entryWith place entry (name :: other)).isSome) :
    files.entryWith place entry other = some .directory := by
  unfold entryWith at h ⊢
  cases hAdmits : files.admits place with
  | false =>
    rw [hAdmits] at h
    exact files.above name other h
  | true =>
    obtain _ | ⟨last, directory⟩ := place
    · exact absurd hAdmits Bool.false_ne_true
    rw [admits, Bool.and_eq_true, Bool.not_eq_true', any_isDirectory_iff] at hAdmits
    by_cases hSame : name :: other = last :: directory
    · -- the new entry is in a directory, which has not changed
      obtain ⟨-, rfl⟩ := List.cons.inj hSame
      simpa using hAdmits.1
    · have hNot : (name :: other == last :: directory) = false := beq_eq_false_iff_ne.mpr hSame
      rw [hNot, Bool.and_false] at h
      have hOther : files.entry other = some .directory := files.above name other h
      -- nor is the directory above in the way: no entry is put in its place
      have hNe : other ≠ last :: directory := by
        rintro rfl
        rw [hOther] at hAdmits
        exact absurd hAdmits.2 (by decide)
      simpa [hNe] using hOther

/-- The file system with something at a place that admits it. -/
def put (place : Place) (entry : Entry) : FileSystem where
  toGrants := files.toGrants
  entry := files.entryWith place entry
  root := files.entryWith_root place entry
  above := files.entryWith_above place entry

/-- The file system with a directory at the place that steps lead to, of which the last comes
first. Nothing may stand there, not even a link. -/
def makeDirectory (start : Place) : List Step → Except Fault FileSystem
  | [] => .error .alreadyThere
  | step :: before =>
    match files.refused (before.reverse ++ [step]) with
    | some fault => .error fault
    | none =>
      match files.walk false files.linkLimit start before.reverse >>= (files.look · step) with
      | .error fault => .error fault
      | .ok place =>
        match files.entry place, files.sealed place with
        | some _, _ => .error .alreadyThere
        | none, some fault => .error fault
        | none, none => .ok (files.put place .directory)

/-- Why there is no directory where steps lead to, if there is none. -/
def unlessDirectory (start : Place) (route : List Step) (fault : Fault) : Except Fault Unit :=
  if files.isDirectory start route then .ok () else .error fault

/-- The file system with a directory at the place that steps lead to, of which the last comes first,
and directories on the way to it. What has been made stays if another cannot be. -/
def makeDirectories (files : FileSystem) (start : Place) :
    List Step → Except Fault Unit × FileSystem
  | [] => (.ok (), files)
  | step :: before =>
    match files.makeDirectory start (step :: before) with
    | .ok made => (.ok (), made)
    | .error fault =>
      if fault.isNotFound then
        match makeDirectories files start before with
        | (.error fault, made) => (.error fault, made)
        | (.ok (), made) =>
          match made.makeDirectory start (step :: before) with
          | .ok made => (.ok (), made)
          | .error fault =>
            (made.unlessDirectory start (before.reverse ++ [step]) fault, made)
      else (files.unlessDirectory start (before.reverse ++ [step]) fault, files)

/-- The file system with the directory that the last component of a path stands in. -/
def makeParents (path : String) : Except Fault Unit × FileSystem :=
  files.makeDirectories (origin files.current path) (parents path).reverse

/-- The file system with bytes in the file at a place, which can be read if it could be before. -/
def fill (place : Place) (bytes : ByteArray) : FileSystem :=
  files.put place (.file bytes (files.unread place))

/-- The file system with bytes in the file that a path leads to. If not all of them can be written,
the first ones are. -/
def write (path : String) (bytes : ByteArray) : Except Fault Unit × FileSystem :=
  match files.find true path with
  | .error fault => (.error fault, files)
  | .ok place =>
    if (files.entry place).any Entry.isDirectory then (.error .isADirectory, files)
    else
      match files.sealed place, files.short place bytes.size with
      | some fault, _ => (.error fault, files)
      | none, some (count, fault) => (.error fault, files.fill place (bytes.extract 0 count))
      | none, none => (.ok (), files.fill place bytes)

/-- A file system to work on. -/
def access : FileAccess (StateM FileSystem) where
  isThere path := return (← get).isThere path
  readText path := .mk do return (← get).readText path
  makeParents path := .mk (modifyGet fun files => files.makeParents path)
  write path text := .mk (modifyGet fun files => files.write path text.toUTF8)

end FileSystem

end Files

end HardwareReport
