/-!
# Toml — tables

What a TOML document holds, and how its lines add up to tables. A table may be begun by a header,
by a longer header that passes through it, or by a dotted key; which of these it was decides what
may still be added to it.

* `Item` — what stands under a key;
* `Entries` — the keys of a table, in order;
* `Entries.descend` — a change to a table that a path leads to;
* `Entries.insert`, `Entries.openTable`, `Entries.openElement` — what a line adds.
-/

namespace HardwareReport.Toml

/-- A value that holds no others. -/
inductive Scalar where
  | text (value : String)
  | integer (value : Int)
  | real
  | bool (value : Bool)
  | datetime
  deriving DecidableEq, Repr

/-- What stands under a key. -/
inductive Item where
  | scalar (value : Scalar)
  | array (items : List Item)
  /-- A table written between braces, which nothing can be added to. -/
  | braced (entries : List (String × Item))
  /-- A table. It is `implicit` until a header of its own begins it, and `dotted` if a dotted key
  brought it up. -/
  | table (implicit dotted : Bool) (entries : List (String × Item))
  /-- The tables that headers in double brackets began. -/
  | tables (elements : List (List (String × Item)))

/-- The keys of a table and what stands under them, in order. -/
abbrev Entries := List (String × Item)

namespace Entries

/-- Entries with the one of a key replaced, or added at the end. -/
def set (key : String) (item : Item) : Entries → Entries
  | [] => [(key, item)]
  | (other, old) :: rest =>
    if other == key then (key, item) :: rest else (other, old) :: set key item rest

/-- A change to the table that a path leads to. Tables that are missing on the way are begun;
`dotted` says whether the path is that of a dotted key, which must not enter tables that have
headers. The change is told whether a dotted key brought the table up. -/
def descend (dotted : Bool) (change : Bool → Entries → Option Entries) :
    Bool → List String → Entries → Option Entries
  | broughtUp, [], entries => change broughtUp entries
  | _, key :: path, entries =>
    match List.lookup key entries with
    | none =>
      (descend dotted change dotted path []).map fun inner =>
        set key (.table true dotted inner) entries
    | some (.table implicit inDotted inner) =>
      if dotted && !implicit then none
      else (descend dotted change inDotted path inner).map fun inner =>
        set key (.table implicit inDotted inner) entries
    | some (.tables elements) =>
      if dotted then none
      else match elements.getLast? with
        | some last => (descend dotted change false path last).map fun last =>
            set key (.tables (elements.dropLast ++ [last])) entries
        | none => none
    | some _ => none

/-- Adds an item under a new key. A table that a dotted key brought up takes dotted keys only, and
any other table the last part of a key only. -/
def addKey (path : List String) (key : String) (item : Item) (broughtUp : Bool)
    (entries : Entries) : Option Entries :=
  if broughtUp == path.isEmpty || (List.lookup key entries).isSome then none
  else some (set key item entries)

/-- The line `path.key = item` in a table. -/
def insert (path : List String) (key : String) (item : Item) (entries : Entries) :
    Option Entries :=
  descend true (addKey path key item) false path entries

/-- The line `path.key = item` below the header `[header]`. -/
def insertBelow (header path : List String) (key : String) (item : Item) (entries : Entries) :
    Option Entries :=
  descend false (fun _ => insert path key item) false header entries

/-- The header `[path.key]`. -/
def openTable (path : List String) (key : String) (entries : Entries) : Option Entries :=
  descend false (fun _ inner =>
    match List.lookup key inner with
    | none => some (set key (.table false false []) inner)
    | some (.table true false old) => some (set key (.table false false old) inner)
    | some _ => none) false path entries

/-- The header `[[path.key]]`. -/
def openElement (path : List String) (key : String) (entries : Entries) : Option Entries :=
  descend false (fun _ inner =>
    match List.lookup key inner with
    | none => some (set key (.tables [[]]) inner)
    | some (.tables elements) => some (set key (.tables (elements ++ [[]])) inner)
    | some _ => none) false path entries

end Entries

end HardwareReport.Toml
