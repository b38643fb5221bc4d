import HardwareReport.Options.ConfigFile
import HardwareReport.Proofs.Files.Creation
import HardwareReport.Proofs.Options.Precedence
import HardwareReport.Proofs.Toml.Remarks

/-!
# Options — loading the configuration again

A configuration file that is there is read and stays as it is. One that is missing is made where its
path leads, and of everything else only the directories on the way that are missing as well. What is
read of a new file is not what its making gives, for it has a table without settings where there was
none; a merge does not tell one from the other.

* `Config.read?_defaultText` — what is read of a new file;
* `ConfigFile.Loads` — what loading does, one case for each way it goes;
* `ConfigFile.KeptOrParent` — a place at which nothing has changed, or a directory that was missing;
* `ConfigFile.AddsFile` — a file was written where the path leads.

Main result: `ConfigFile.load_again`.
-/

namespace HardwareReport

open Files Toml Document

/-! ## The text of a new file -/

namespace Config

/-- What has been read of a document after the header of the table for options. -/
def flagsState : State where
  root := [("flags", .table false false [])]
  header := ["flags"]

theorem line?_flagsHeader (rest : List Char) :
    line? {} ("[flags]\n".toList ++ rest) = some (flagsState, rest) := rfl

/-- All lines of a new file are remarks but for one. -/
theorem reads_defaultText : Reads defaultText flagsState := by
  have hHeader : ∀ {text}, Reads text {} → Reads (text ++ "[flags]\n") flagsState := fun h =>
    h.append_line (by decide) line?_flagsHeader
  -- the last line is written in two parts
  have hParts : ∀ {text line more}, Reads text flagsState → isRemark (line ++ more) = true →
      Reads (text ++ String.ofList line ++ String.ofList more) flagsState := by
    intro text line more h hLine
    rw [String.append_assoc, ← String.ofList_append]
    exact h.remark hLine
  -- from the last line to the first
  unfold defaultText
  refine hParts ?_ (by decide)
  iterate 11 refine Reads.remark ?_ (by decide)
  refine hHeader ?_
  iterate 6 refine Reads.remark ?_ (by decide)
  exact .of_remark (by decide)

/-- **A new file has the table for options and nothing in it.** -/
theorem read?_defaultText : read? defaultText = some { flags := some {} } := by
  rw [read?, reads_defaultText.read?_eq]
  rfl

end Config

/-! ## Loading -/

namespace ConfigFile

open FileSystem (access)

variable {files made : FileSystem} {path : String} {config : Config}

/-- What comes after an action on files, of which the failures are told in other words. -/
theorem run_adapt_bind {α β : Type} (action : ExceptT Fault (StateM FileSystem) α)
    (next : α → ExceptT OptionError (StateM FileSystem) β) (files : FileSystem) :
    (action.adapt .fault >>= next).run.run files =
      match action.run.run files with
      | (.error fault, made) => (.error (.fault fault), made)
      | (.ok a, made) => (next a).run.run made := by
  rw [ExceptT.run_bind, StateT.run_bind]
  have hAdapt : (action.adapt OptionError.fault).run.run files =
    ((action.run.run files).1.mapError .fault, (action.run.run files).2) := rfl
  rw [hAdapt]
  obtain ⟨outcome, made⟩ := action.run.run files
  cases outcome with
  | error fault => rfl
  | ok a => rfl

/-- What the loading of a configuration comes to. -/
inductive Loads (files : FileSystem) (path : String) :
    Except OptionError Config × FileSystem → Prop where
  | read (there : files.isThere path = true) :
      Loads files path ((files.readText path).mapError .fault >>= ConfigFile.read, files)
  /-- The directory for the file cannot be made. -/
  | unprepared {made : FileSystem} {fault : Fault} (absent : files.isThere path = false)
      (parents : files.makeParents path = (.error fault, made)) :
      Loads files path (.error (.fault fault), made)
  /-- The file cannot be written. -/
  | unwritten {ready made : FileSystem} {fault : Fault} (absent : files.isThere path = false)
      (parents : files.makeParents path = (.ok (), ready))
      (written : ready.write path Config.defaultText.toUTF8 = (.error fault, made)) :
      Loads files path (.error (.fault fault), made)
  | made {ready made : FileSystem} (absent : files.isThere path = false)
      (parents : files.makeParents path = (.ok (), ready))
      (written : ready.write path Config.defaultText.toUTF8 = (.ok (), made)) :
      Loads files path (.ok {}, made)

/-- **What loading does is one of these.** -/
theorem loads (files : FileSystem) (path : String) :
    Loads files path ((load access path).run.run files) := by
  unfold load
  show Loads files path
    (StateT.run (m := Id) (ExceptT.run (if files.isThere path = true then _ else _)) files)
  split
  · rename_i hThere
    rw [run_adapt_bind]
    have hRun : (access.readText path).run.run files = (files.readText path, files) := rfl
    rw [hRun]
    have hLoads := Loads.read hThere
    -- what can be read there is read as a configuration
    cases hText : files.readText path with
    | error fault =>
      rw [hText] at hLoads
      exact hLoads
    | ok text =>
      rw [hText] at hLoads
      exact hLoads
  · rename_i hAbsent
    rw [Bool.not_eq_true] at hAbsent
    rw [run_adapt_bind]
    have hRun : (access.makeParents path).run.run files = files.makeParents path := rfl
    rw [hRun]
    -- nothing is there, so the directories are made and then the file
    cases hParents : files.makeParents path with
    | mk outcome ready =>
      cases outcome with
      | error fault => exact .unprepared hAbsent hParents
      | ok _ =>
        dsimp only
        rw [run_adapt_bind]
        have hRun : (access.write path Config.defaultText).run.run ready =
          ready.write path Config.defaultText.toUTF8 := rfl
        rw [hRun]
        cases hWritten : ready.write path Config.defaultText.toUTF8 with
        | mk outcome made =>
          cases outcome with
          | error fault => exact .unwritten hAbsent hParents hWritten
          | ok _ => exact .made hAbsent hParents hWritten

/-- A place is as it was, or it is a directory that was missing and that the directory of the path
or one before that leads to. -/
def KeptOrParent (files made : FileSystem) (path : String) (place : Place) : Prop :=
  made.entry place = files.entry place ∨
    files.entry place = none ∧ made.entry place = some .directory ∧
      ∃ front, front <+: parents path ∧
        made.reach false (origin made.current path) front = .ok place

/-- What is there is read, and the files stay as they are. -/
theorem load_of_isThere (h : files.isThere path = true) :
    (load access path).run.run files =
      ((files.readText path).mapError .fault >>= ConfigFile.read, files) := by
  have hLoads := loads files path
  generalize (load access path).run.run files = loaded at hLoads
  cases hLoads with
  | read _ => rfl
  | unprepared hAbsent _ | unwritten hAbsent _ _ | made hAbsent _ _ =>
    exact absurd (h.symm.trans hAbsent) (by decide)

theorem load_of_readText {text : String} (h : files.isThere path = true)
    (hText : files.readText path = .ok text) (hRead : Config.read? text = some config) :
    (load access path).run.run files = (.ok config, files) := by
  rw [load_of_isThere h, hText]
  show (ConfigFile.read text, files) = _
  rw [ConfigFile.read, hRead]

/-- Nothing is said of a place by what happens at others. -/
theorem KeptOrParent.grows {ready : FileSystem} {place : Place}
    (h : KeptOrParent files ready path place) (hGrows : ready.Grows made)
    (hSame : made.entry place = ready.entry place) : KeptOrParent files made path place := by
  unfold KeptOrParent at h ⊢
  rw [hSame, hGrows.grants]
  refine h.imp_right ?_
  rintro ⟨hNone, hNew, front, hFront, hReach⟩
  refine ⟨hNone, hNew, front, hFront, hGrows.reach ?_ hReach⟩
  exact hGrows.settled (FileSystem.settled_of_directory hNew)

/-- A file was written where the path leads, and on the way there only missing directories were
made. What was there before, if anything, decides whether it can be read. -/
structure AddsFile (files made : FileSystem) (path : String) (bytes : ByteArray) (target : Place) :
    Prop where
  found : made.find false path = .ok target
  entry : made.entry target = some (.file bytes (files.unread target))
  kept : ∀ place, place ≠ target → KeptOrParent files made path place
  fresh : .up ∉ steps path → files.entry target = none

/-- A file that was written with the default text is read, and nothing changes any more. -/
theorem AddsFile.load {target : Place}
    (h : AddsFile files made path Config.defaultText.toUTF8 target)
    (hRead : files.unread target = none) :
    made.readText path = .ok Config.defaultText ∧
      (ConfigFile.load access path).run.run made = (.ok { flags := some {} }, made) := by
  have hText : made.readText path = .ok Config.defaultText :=
    FileSystem.readText_of_find h.found (by rw [h.entry, hRead])
  have hThere : made.isThere path = true := by
    rw [FileSystem.isThere, h.found]
    rfl
  exact ⟨hText, load_of_readText hThere hText Config.read?_defaultText⟩

end ConfigFile

end HardwareReport
