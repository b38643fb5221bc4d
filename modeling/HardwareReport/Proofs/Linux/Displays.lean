import HardwareReport.Linux.Devices
import HardwareReport.Proofs.Enumeration.Entries
import HardwareReport.Proofs.Linux.Listing

/-!
# Linux — displays

A connector that a display is plugged into is a directory with the description of the display in a
file. A directory without such a file is passed over, and so is one in which it may not be read or
is empty. A plain file is not: to look for a description below it fails in a way that is not taken
for absence, and with that the whole enumeration fails.

* `Exposes` — there is a description to be read;
* `DescriptionsLegible` — no description fails to be read but for being withheld.

Main result: `displays_of_connectors` — the displays of a directory without plain files, and the
failure of one with plain files.
-/

namespace HardwareReport.Linux

open FileTree

/-! ## Connectors -/

/-- Below an entry there is a description of a display that can be read, with something in it. -/
def Exposes (entry : Node) (edid : ByteArray) : Prop :=
  entry.readBytes ["edid"] = .ok edid ∧ edid.isEmpty = false

/-- Every description that is there can be read, or fails to be as one that is not there or may not
be read. -/
def DescriptionsLegible (entries : List (String × Node)) : Prop :=
  ∀ name entry description, (name, entry) ∈ entries → entry.lookup ["edid"] = .ok description →
    ∀ fault, description.readBytes [] = .error fault → isAbsence fault = true

/-- The display that an entry shows. -/
def shownDisplay? (name : String) (entry : Node) : Option Display :=
  match entry.readBytes ["edid"] with
  | .ok edid => if edid.isEmpty then none else some ⟨name, edid.toList⟩
  | .error _ => none

theorem shownDisplay?_eq_some_iff {name : String} {entry : Node} {display : Display} :
    shownDisplay? name entry = some display ↔
      display.connector = name ∧ ∃ edid, Exposes entry edid ∧ display.edid = edid.toList := by
  obtain ⟨connector, bytes⟩ := display
  rw [shownDisplay?]
  cases hRead : entry.readBytes ["edid"] with
  | error fault => simp [Exposes, hRead]
  | ok edid =>
    cases hEmpty : edid.isEmpty with
    | true => simp [Exposes, hRead, hEmpty]
    | false =>
      simp [Exposes, hRead, hEmpty]
      grind

section Directory

variable {tree : Node} {root : Path} {entries : List (String × Node)}
  (hRoot : tree.lookup root = .ok (.directory none entries))
  (hNames : (entries.map Prod.fst).Nodup)
include hRoot hNames

theorem readBytes_connector {name : String} {entry : Node} (hEntry : (name, entry) ∈ entries) :
    tree.readBytes (root ++ [name, "edid"]) = entry.readBytes ["edid"] := by
  have hFound := lookup_eq_some_of_mem hNames hEntry
  rw [Node.readBytes_append, hRoot]
  show Node.readBytes (.directory none entries) [name, "edid"] = _
  rw [Node.readBytes, Node.lookup, hFound, Node.readBytes]

/-- A directory is looked into, or passed over. -/
theorem connectorDisplay?_directory (hLegible : DescriptionsLegible entries) {name : String}
    {refusal : Option Fault} {inner : List (String × Node)}
    (hEntry : (name, .directory refusal inner) ∈ entries) :
    connectorDisplay? tree root name = .ok (shownDisplay? name (.directory refusal inner)) := by
  -- what keeps a description from being read counts as its absence
  have hAbsence : ∀ fault, Node.readBytes (.directory refusal inner) ["edid"] = .error fault →
      isAbsence fault = true := by
    intro fault hFault
    rw [Node.readBytes, Node.lookup] at hFault
    cases hFound : inner.lookup "edid" with
    | none =>
      rw [hFound] at hFault
      rw [← Except.error.inj hFault]
      decide
    | some description =>
      rw [hFound] at hFault
      have hDescription : Node.lookup (.directory refusal inner) ["edid"] = .ok description := by
        rw [Node.lookup, hFound]
        rfl
      exact hLegible name _ description hEntry hDescription fault hFault
  rw [connectorDisplay?, shownDisplay?, readBytes_connector hRoot hNames hEntry]
  cases hRead : Node.readBytes (.directory refusal inner) ["edid"] with
  | ok edid => rfl
  | error fault => exact if_pos (hAbsence fault hRead)

/-- A plain file is neither. -/
theorem connectorDisplay?_file {name : String} {content : Except Fault ByteArray}
    (hEntry : (name, .file content) ∈ entries) :
    connectorDisplay? tree root name =
      .error (.ofFault (Path.text (root ++ [name])) .notADirectory) := by
  have hRead : Node.readBytes (.file content) ["edid"] = .error .notADirectory := rfl
  rw [connectorDisplay?, readBytes_connector hRoot hNames hEntry, hRead]
  rfl

/-- The connectors are gone through in the order of the bytes of their names. -/
theorem exists_connectors :
    ∃ names : List String, displays tree root =
        (names.mapM (connectorDisplay? tree root)).map (·.filterMap id) ∧
      names.Perm (entries.map Prod.fst) ∧
      names.Pairwise fun a b => Text.bytes a < Text.bytes b := by
  have hListed : tree.names root = .ok (entries.map Prod.fst) := by rw [Node.names, hRoot]
  have hSorted : sortedNames tree root =
      .ok ((entries.map Prod.fst).mergeSort fun a b => a ≤ b) := by
    rw [sortedNames, hListed]
  obtain ⟨hPerm, hOrder⟩ := of_sortedNames_eq_ok hSorted
  rw [hListed] at hPerm
  -- names that differ are strictly in order
  have hDistinct : (((entries.map Prod.fst).mergeSort fun a b => a ≤ b).map
      fun name => name).Nodup := by
    rw [List.map_id']
    exact hPerm.nodup_iff.mpr hNames
  refine ⟨_, ?_, hPerm,
    (Text.pairwise_lt (fun name => name) hOrder hDistinct).imp Text.bytes_lt_bytes_iff.mpr⟩
  rw [displays, hSorted]
  rfl

variable (hLegible : DescriptionsLegible entries)
include hLegible

/-- Without plain files the displays are those that the entries show. -/
theorem exists_displays_eq_ok (hNoFile : ∀ name content, (name, .file content) ∉ entries) :
    ∃ found, displays tree root = .ok found ∧
      (found.map Display.connector).Pairwise (fun a b => Text.bytes a < Text.bytes b) ∧
      ∀ display, display ∈ found ↔ ∃ entry edid, (display.connector, entry) ∈ entries ∧
        Exposes entry edid ∧ display.edid = edid.toList := by
  obtain ⟨names, hDisplays, hPerm, hOrder⟩ := exists_connectors hRoot hNames
  -- the answers are a function of the names
  set shown : String → Option Display :=
    fun name => (entries.lookup name).bind (shownDisplay? name) with hShown
  have hAnswer : ∀ name ∈ names, connectorDisplay? tree root name = .ok (shown name) := by
    intro name hName
    obtain ⟨⟨_, entry⟩, hEntry, rfl⟩ := List.mem_map.mp (hPerm.mem_iff.mp hName)
    simp only [hShown, lookup_eq_some_of_mem hNames hEntry, Option.bind_some]
    cases entry with
    | file content => exact absurd hEntry (hNoFile _ content)
    | directory refusal inner =>
      exact connectorDisplay?_directory hRoot hNames hLegible hEntry
  have hConnector : ∀ {name display}, shown name = some display → display.connector = name := by
    intro name display hDisplay
    obtain ⟨entry, -, hEntryShown⟩ := Option.bind_eq_some_iff.mp hDisplay
    exact (shownDisplay?_eq_some_iff.mp hEntryShown).1
  refine ⟨names.filterMap shown, ?_, ?_, fun display => ?_⟩
  · rw [hDisplays, Answer.mapM_eq_ok_map hAnswer, Except.map, List.filterMap_map]
    rfl
  · rw [List.pairwise_map, List.pairwise_filterMap]
    refine hOrder.imp fun {name next} hLess display hDisplay other hOther => ?_
    rwa [hConnector hDisplay, hConnector hOther]
  · rw [List.mem_filterMap]
    constructor
    · rintro ⟨name, -, hDisplay⟩
      obtain ⟨entry, hFound, hEntryShown⟩ := Option.bind_eq_some_iff.mp hDisplay
      obtain ⟨rfl, edid, hExposes, hBytes⟩ := shownDisplay?_eq_some_iff.mp hEntryShown
      exact ⟨entry, edid, mem_of_lookup_eq_some hFound, hExposes, hBytes⟩
    · rintro ⟨entry, edid, hEntry, hExposes, hBytes⟩
      refine ⟨display.connector, hPerm.mem_iff.mpr (List.mem_map_of_mem hEntry), ?_⟩
      exact Option.bind_eq_some_iff.mpr ⟨entry, lookup_eq_some_of_mem hNames hEntry,
        shownDisplay?_eq_some_iff.mpr ⟨rfl, edid, hExposes, hBytes⟩⟩

/-- The first plain file makes the enumeration fail. -/
theorem exists_displays_eq_error (hFile : ∃ name content, (name, .file content) ∈ entries) :
    ∃ first content, (first, .file content) ∈ entries ∧
      (∀ name content, (name, .file content) ∈ entries → name ≠ first →
        Text.bytes first < Text.bytes name) ∧
      displays tree root = .error (.nativeQuery (Path.text (root ++ [first])) 20
        "Not a directory (os error 20)") := by
  obtain ⟨names, hDisplays, hPerm, hOrder⟩ := exists_connectors hRoot hNames
  have hListed : ∀ {name entry}, (name, entry) ∈ entries → name ∈ names := fun hEntry =>
    hPerm.mem_iff.mpr (List.mem_map_of_mem hEntry)
  set isFile : String → Bool := fun name => !(connectorDisplay? tree root name).isOk with hIsFile
  have hFails : ∀ {name content}, (name, Node.file content) ∈ entries → isFile name = true := by
    intro name content hEntry
    rw [hIsFile]
    simp only [connectorDisplay?_file hRoot hNames hEntry]
    rfl
  obtain ⟨name, content, hEntry⟩ := hFile
  obtain ⟨first, hFirst⟩ := Option.isSome_iff_exists.mp
    (List.find?_isSome.mpr ⟨name, hListed hEntry, hFails hEntry⟩)
  -- the first name that fails ends the enumeration, and only plain files fail
  obtain ⟨hFirstFails, before, after, rfl, hBefore⟩ := List.find?_eq_some_iff_append.mp hFirst
  have hFirstListed : first ∈ before ++ first :: after := by simp
  obtain ⟨⟨_, entry⟩, hFirstEntry, rfl⟩ := List.mem_map.mp (hPerm.mem_iff.mp hFirstListed)
  cases entry with
  | directory refusal inner =>
    -- directories do not fail
    rw [hIsFile] at hFirstFails
    simp only [connectorDisplay?_directory hRoot hNames hLegible hFirstEntry] at hFirstFails
    exact absurd hFirstFails Bool.false_ne_true
  | file content =>
    refine ⟨_, content, hFirstEntry, fun other otherContent hOther hNe => ?_, ?_⟩
    · rcases List.mem_append.mp (hListed hOther) with hEarlier | hLater
      · have hNot := hBefore other hEarlier
        rw [hFails hOther] at hNot
        exact absurd hNot (by decide)
      · have hAfter := (List.mem_cons.mp hLater).resolve_left hNe
        exact (List.pairwise_cons.mp (List.pairwise_append.mp hOrder).2.1).1 other hAfter
    · have hEarlierOk : ∀ other ∈ before, (connectorDisplay? tree root other).isOk = true := by
        intro other hOther
        simpa [hIsFile] using hBefore other hOther
      rw [hDisplays, Answer.mapM_append_cons_eq_error hEarlierOk
        (connectorDisplay?_file hRoot hNames hFirstEntry)]
      rfl

end Directory

/-! ## Reports -/

/-- **What is reported of the displays** in a directory whose descriptions, where there are any, can
be read or may not be: if there are no plain files in it, the entries that expose a description
which is not empty, in the order of the bytes of their names and with the bytes as they are. If
there are plain files, the failure to look below the first of them, and no display. -/
theorem displays_of_connectors {tree : Node} {root : Path} {entries : List (String × Node)}
    (hRoot : tree.lookup root = .ok (.directory none entries))
    (hNames : (entries.map Prod.fst).Nodup) (hLegible : DescriptionsLegible entries) :
    ((∀ name content, (name, .file content) ∉ entries) →
      ∃ found, displays tree root = .ok found ∧
        (found.map Display.connector).Pairwise (fun a b => Text.bytes a < Text.bytes b) ∧
        ∀ display, display ∈ found ↔ ∃ entry edid, (display.connector, entry) ∈ entries ∧
          Exposes entry edid ∧ display.edid = edid.toList) ∧
    ((∃ name content, (name, .file content) ∈ entries) →
      ∃ first content, (first, .file content) ∈ entries ∧
        (∀ name content, (name, .file content) ∈ entries → name ≠ first →
          Text.bytes first < Text.bytes name) ∧
        displays tree root = .error (.nativeQuery (Path.text (root ++ [first])) 20
          "Not a directory (os error 20)")) :=
  ⟨exists_displays_eq_ok hRoot hNames hLegible, exists_displays_eq_error hRoot hNames hLegible⟩

/-- A connector and what stands in the file that describes a display. -/
def connectorNode (description : Except Fault ByteArray) : Node :=
  .directory none [("edid", .file description)]

/-- A directory in which one of the connectors has a display, one has none, and one does not tell;
and something that is no connector. -/
def outputEntries : List (String × Node) :=
  [("renderD128", .directory none []), ("card0-HDMI-A-1", connectorNode (.ok ⟨#[]⟩)),
    ("card0-eDP-1", connectorNode (.ok ⟨#[1]⟩)), ("card1-DP-1", connectorNode (.error (.code 13)))]

/-- The file in which the kernel tells the version of its display drivers. -/
def versionEntry : String × Node :=
  ("version", .file (.ok "drm 1.1.0 20060810\n".toUTF8))

/-- A tree with nothing but entries among the connectors. -/
def connectorTree (entries : List (String × Node)) : Node :=
  connectorDirectory.foldr (fun name node => .directory none [(name, node)])
    (.directory none entries)

theorem lookup_connectorTree (entries : List (String × Node)) :
    (connectorTree entries).lookup connectorDirectory = .ok (.directory none entries) :=
  rfl

/-- Every description among these entries can be read, is missing or may not be read. -/
theorem descriptionsLegible_outputEntries :
    DescriptionsLegible (versionEntry :: outputEntries) := by
  intro name entry description hEntry hDescription fault hFault
  simp only [versionEntry, outputEntries, List.mem_cons, Prod.mk.injEq, List.not_mem_nil,
    or_false] at hEntry
  rcases hEntry with ⟨-, rfl⟩ | ⟨-, rfl⟩ | ⟨-, rfl⟩ | ⟨-, rfl⟩ | ⟨-, rfl⟩
  · cases hDescription
  · cases hDescription
  · cases hDescription
    cases hFault
  · cases hDescription
    cases hFault
  · cases hDescription
    cases hFault
    decide

/-- Of these outputs one has a description that is there and not empty. -/
theorem displays_of_connectors_outputEntries :
    (connectorTree outputEntries).lookup connectorDirectory = .ok (.directory none outputEntries) ∧
    (outputEntries.map Prod.fst).Nodup ∧ DescriptionsLegible outputEntries ∧
    (∀ name content, (name, .file content) ∉ outputEntries) ∧
    ∃ found, displays (connectorTree outputEntries) connectorDirectory = .ok found ∧
      ⟨"card0-eDP-1", [1]⟩ ∈ found ∧ ∀ display ∈ found, display.connector = "card0-eDP-1" := by
  have hNames : (outputEntries.map Prod.fst).Nodup := by decide
  have hLegible : DescriptionsLegible outputEntries := fun name entry description hEntry =>
    descriptionsLegible_outputEntries name entry description (List.mem_cons_of_mem _ hEntry)
  have hNoFile : ∀ name content, (name, .file content) ∉ outputEntries := by
    simp [outputEntries, connectorNode]
  obtain ⟨found, hFound, -, hMem⟩ :=
    (displays_of_connectors (lookup_connectorTree outputEntries) hNames hLegible).1 hNoFile
  refine ⟨lookup_connectorTree _, hNames, hLegible, hNoFile, found, hFound, ?_,
    fun display hDisplay => ?_⟩
  · have hBytes : [1] = ByteArray.toList ⟨#[1]⟩ := by
      rw [ByteArray.toList, ByteArray.toList.loop, if_pos (by decide), ByteArray.toList.loop,
        if_neg (by decide)]
      rfl
    exact (hMem _).mpr ⟨connectorNode (.ok ⟨#[1]⟩), ⟨#[1]⟩, by simp [outputEntries],
      ⟨rfl, by decide⟩, hBytes⟩
  · obtain ⟨entry, edid, hEntry, ⟨hRead, hFull⟩, -⟩ := (hMem display).mp hDisplay
    simp only [outputEntries, List.mem_cons, Prod.mk.injEq, List.not_mem_nil, or_false] at hEntry
    -- of the four entries, only one can be read and is not empty
    rcases hEntry with ⟨-, rfl⟩ | ⟨-, rfl⟩ | ⟨hConnector, -⟩ | ⟨-, rfl⟩
    · cases hRead
    · cases hRead
      exact absurd hFull (by decide)
    · exact hConnector
    · cases hRead

/-- The version file makes the enumeration fail, although a display could be read. -/
theorem displays_versionEntry :
    (connectorTree (versionEntry :: outputEntries)).lookup connectorDirectory =
      .ok (.directory none (versionEntry :: outputEntries)) ∧
    ((versionEntry :: outputEntries).map Prod.fst).Nodup ∧
    DescriptionsLegible (versionEntry :: outputEntries) ∧
    (∃ entry, ("card0-eDP-1", entry) ∈ outputEntries ∧ Exposes entry ⟨#[1]⟩) ∧
    displays (connectorTree (versionEntry :: outputEntries)) connectorDirectory =
      .error (.nativeQuery "/sys/class/drm/version" 20 "Not a directory (os error 20)") := by
  have hNames : ((versionEntry :: outputEntries).map Prod.fst).Nodup := by decide
  obtain ⟨first, content, hFirst, -, hFails⟩ := exists_displays_eq_error
    (lookup_connectorTree (versionEntry :: outputEntries)) hNames
    descriptionsLegible_outputEntries ⟨"version", _, List.mem_cons_self ..⟩
  -- there is one entry that the enumeration can fail at
  obtain ⟨rfl, -⟩ : first = "version" ∧ _ := by
    simpa [versionEntry, outputEntries, connectorNode] using hFirst
  have hText : Path.text (connectorDirectory ++ ["version"]) = "/sys/class/drm/version" := by
    decide
  rw [hText] at hFails
  exact ⟨lookup_connectorTree _, hNames, descriptionsLegible_outputEntries,
    ⟨connectorNode (.ok ⟨#[1]⟩), by simp [outputEntries], rfl, by decide⟩, hFails⟩

end HardwareReport.Linux
