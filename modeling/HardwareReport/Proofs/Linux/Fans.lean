import HardwareReport.Linux.Devices
import HardwareReport.Proofs.Answer
import HardwareReport.Proofs.Enumeration.Nested
import HardwareReport.Proofs.Files.Removal
import HardwareReport.Proofs.Linux.Listing
import HardwareReport.Proofs.Text.Numeral

/-!
# Linux — fans

A monitoring chip is a directory with a file for each of its fans. Of the chips that are awake every
fan is reported whose file can be read and holds a number, and a fan that cannot be is left out
without a trace. Nothing but its state is read of a chip that is asleep, so nothing else in it has a
say in what is reported of the others.

* `Awake`, `Listable`, `IsFanFile`, `HoldsSpeed` — what is asked of chips, of names and of files;
* `IsReading` — the speed of a fan that is to be reported;
* `SameButAsleep` — two trees that differ inside chips that are asleep, if they differ.

Main result: `fanSpeeds_of_chips` — what is reported of the fans, and what has no influence on it.
-/

namespace HardwareReport.Linux

open FileTree

variable {tree other : Node} {root path : Path} {chips names : List String} {chip : String}

/-! ## Directories -/

/-- The names in a directory, each once. A directory that is not there has none. -/
inductive Lists (tree : Node) (path : Path) : List String → Prop where
  | there {names : List String} (h : tree.names path = .ok names) (distinct : names.Nodup) :
      Lists tree path names
  | missing {fault : Fault} (h : tree.names path = .error fault)
      (absent : fault.isNotFound = true) : Lists tree path []

theorem Lists.unique {others : List String} (h : Lists tree path names)
    (hOther : Lists tree path others) : names = others := by
  cases h with
  | there h _ =>
    cases hOther with
    | there hSame _ => exact Except.ok.inj (h.symm.trans hSame)
    | missing hNone _ => exact absurd (h.symm.trans hNone) (by simp)
  | missing h _ =>
    cases hOther with
    | there hSome _ => exact absurd (h.symm.trans hSome) (by simp)
    | missing _ _ => rfl

/-- The names in a directory are gone through in their order. -/
theorem Lists.exists_sortedNames (h : Lists tree path names) :
    ∃ sorted, sortedNames tree path = .ok sorted ∧ sorted.Perm names ∧
      sorted.Pairwise (· < ·) := by
  cases h with
  | missing h hAbsent =>
    refine ⟨[], ?_, .nil, .nil⟩
    rw [sortedNames, h]
    exact if_pos hAbsent
  | there h hDistinct =>
    have hSorted : sortedNames tree path = .ok (names.mergeSort fun a b => a ≤ b) := by
      rw [sortedNames, h]
    exact ⟨_, hSorted, List.mergeSort_perm .., Text.pairwise_lt_mergeSort hDistinct⟩

/-! ## Chips -/

/-- A chip is awake if it says so, or does not say, or cannot be asked. -/
def Awake (tree : Node) (chip : Path) : Prop :=
  ∀ state, tree.readText (chip ++ ["device", "power_state"]) = .ok state →
    Text.trim state = "D0" ∨ Text.trim state = "unknown"

theorem isAwake_iff : isAwake tree (path ++ ["device"]) = true ↔ Awake tree path := by
  unfold isAwake Awake
  rw [List.append_assoc, List.singleton_append]
  cases tree.readText (path ++ ["device", "power_state"]) with
  | error fault => simp
  | ok state => simp

/-- A chip can be listed if it is awake. -/
def Listable (tree : Node) (chip : Path) : Prop :=
  Awake tree chip → ∃ files, Lists tree chip files

/-! ## Files -/

/-- A name that begins with `fan` and ends in `_input`. -/
def IsFanFile (name : String) : Prop :=
  ∃ middle : String, name = "fan" ++ middle ++ "_input"

/-- The names that are taken for fans are those of the form `fan*_input`. -/
theorem isFanInput_iff {name : String} : isFanInput name = true ↔ IsFanFile name := by
  unfold isFanInput IsFanFile
  rw [Bool.and_eq_true, List.isPrefixOf_iff_prefix, List.isSuffixOf_iff_suffix]
  constructor
  · rintro ⟨⟨rest, hRest⟩, ⟨front, hFront⟩⟩
    -- either there is something between the two parts, or they overlap
    rcases List.append_eq_append_iff.mp (hRest.trans hFront.symm) with
      ⟨middle, hMiddle, -⟩ | ⟨shared, hStart, hEnd⟩
    · refine ⟨String.ofList middle, String.toList_inj.mp ?_⟩
      rw [String.toList_append, String.toList_append, String.toList_ofList (l := middle), ← hMiddle,
        hFront]
    · -- no end of the first part begins the second
      cases shared with
      | nil =>
        refine ⟨"", String.toList_inj.mp ?_⟩
        rw [String.append_empty, String.toList_append, ← hRest]
        exact congrArg _ hEnd.symm
      | cons c others =>
        have hFirst : '_' = c := (List.cons.inj hEnd).1
        have hMem : c ∈ "fan".toList := by rw [hStart]; simp
        rw [← hFirst] at hMem
        exact absurd hMem (by decide)
  · rintro ⟨middle, rfl⟩
    simp only [String.toList_append]
    exact ⟨⟨middle.toList ++ "_input".toList, by rw [List.append_assoc]⟩,
      ⟨"fan".toList ++ middle.toList, rfl⟩⟩

/-- What can be read of a file is a 32-bit number, but for what pads it. -/
def HoldsSpeed (tree : Node) (path : Path) (speed : UInt32) : Prop :=
  ∃ text, tree.readText path = .ok text ∧
    Text.IsNumeral (Firmware.trimValue text.toList) speed.toNat

/-- A fan is counted with a speed if its file can be read and holds a number. -/
theorem fanSpeed?_eq_some_iff {speed : UInt32} :
    fanSpeed? tree path = some speed ↔ HoldsSpeed tree path speed := by
  unfold fanSpeed? HoldsSpeed readAttribute
  cases tree.readText path with
  | error fault =>
    cases hAbsence : isAbsence fault <;> simp [hAbsence]
  | ok text =>
    simp only [Except.ok.injEq, exists_eq_left', Firmware.trimmed?]
    cases hEmpty : (Firmware.trimValue text.toList).isEmpty with
    | true =>
      -- nothing is no numeral
      refine iff_of_false (by simp) fun hNumeral => ?_
      exact hNumeral.ne_nil (List.isEmpty_iff.mp hEmpty)
    | false =>
      rw [← Text.readUInt32_eq_ok_iff]
      show (Text.readUInt32 (String.ofList _).toList).toOption = some speed ↔ _
      rw [String.toList_ofList]
      cases Text.readUInt32 (Firmware.trimValue text.toList) <;> simp [Except.toOption]

/-! ## Readings -/

/-- The speed of a fan of a chip. -/
structure FanReading where
  chip : String
  file : String
  speed : UInt32
  deriving DecidableEq, Repr

/-- Where a speed is read. -/
def FanReading.place (reading : FanReading) : String × String :=
  (reading.chip, reading.file)

/-- A speed is to be reported: its chip is awake, its file is that of a fan and holds it. -/
structure IsReading (tree : Node) (root : Path) (reading : FanReading) : Prop where
  chip : ∃ chips, Lists tree root chips ∧ reading.chip ∈ chips
  awake : Awake tree (root ++ [reading.chip])
  file : ∃ files, Lists tree (root ++ [reading.chip]) files ∧ reading.file ∈ files
  fan : IsFanFile reading.file
  speed : HoldsSpeed tree (root ++ [reading.chip, reading.file]) reading.speed

/-- The speed of a fan, if the file is that of one and holds it. -/
def reading? (tree : Node) (root : Path) (chip file : String) : Option FanReading :=
  if isFanInput file then
    (fanSpeed? tree (root ++ [chip, file])).map (FanReading.mk chip file)
  else none

/-- A reading is made of a file of a chip that is a fan's and holds a speed. -/
theorem reading?_eq_some_iff {file : String} {reading : FanReading} :
    reading? tree root chip file = some reading ↔
      reading.place = (chip, file) ∧ IsFanFile file ∧
        HoldsSpeed tree (root ++ [chip, file]) reading.speed := by
  obtain ⟨otherChip, otherFile, speed⟩ := reading
  unfold reading? FanReading.place
  rw [← isFanInput_iff, ← fanSpeed?_eq_some_iff]
  cases isFanInput file with
  | false => simp
  | true =>
    simp only [if_true, Option.map_eq_some_iff, FanReading.mk.injEq, Prod.mk.injEq, true_and]
    constructor
    · rintro ⟨_, hSpeed, rfl, rfl, rfl⟩
      exact ⟨⟨rfl, rfl⟩, hSpeed⟩
    · rintro ⟨⟨rfl, rfl⟩, hSpeed⟩
      exact ⟨speed, hSpeed, rfl, rfl, rfl⟩

/-- The files of a chip that are looked at. -/
def filesRead (tree : Node) (root : Path) (chip : String) : List String :=
  if isAwake tree (root ++ [chip, "device"]) then
    (sortedNames tree (root ++ [chip])).toOption.getD []
  else []

theorem filesRead_of_asleep (hAsleep : ¬ Awake tree (root ++ [chip])) :
    filesRead tree root chip = [] := by
  rw [← isAwake_iff, List.append_assoc, List.singleton_append] at hAsleep
  exact if_neg hAsleep

theorem exists_filesRead (hAwake : Awake tree (root ++ [chip]))
    (hFiles : Lists tree (root ++ [chip]) names) :
    sortedNames tree (root ++ [chip]) = .ok (filesRead tree root chip) ∧
      (filesRead tree root chip).Perm names ∧ (filesRead tree root chip).Pairwise (· < ·) := by
  obtain ⟨sorted, hSorted, hPerm, hOrder⟩ := hFiles.exists_sortedNames
  rw [← isAwake_iff, List.append_assoc, List.singleton_append] at hAwake
  have hSame : filesRead tree root chip = sorted := by
    unfold filesRead
    rw [if_pos hAwake, hSorted]
    rfl
  rw [hSame]
  exact ⟨hSorted, hPerm, hOrder⟩

theorem mem_filesRead_iff {file : String} (h : Listable tree (root ++ [chip])) :
    file ∈ filesRead tree root chip ↔
      Awake tree (root ++ [chip]) ∧ ∃ files, Lists tree (root ++ [chip]) files ∧ file ∈ files := by
  by_cases hAwake : Awake tree (root ++ [chip])
  · obtain ⟨files, hFiles⟩ := h hAwake
    rw [(exists_filesRead hAwake hFiles).2.1.mem_iff]
    refine ⟨fun hMem => ⟨hAwake, files, hFiles, hMem⟩, ?_⟩
    rintro ⟨-, others, hOthers, hMem⟩
    rwa [hFiles.unique hOthers]
  · rw [filesRead_of_asleep hAwake]
    exact iff_of_false List.not_mem_nil fun hMem => hAwake hMem.1

theorem pairwise_filesRead (h : Listable tree (root ++ [chip])) :
    (filesRead tree root chip).Pairwise (· < ·) := by
  by_cases hAwake : Awake tree (root ++ [chip])
  · obtain ⟨files, hFiles⟩ := h hAwake
    exact (exists_filesRead hAwake hFiles).2.2
  · rw [filesRead_of_asleep hAwake]
    exact .nil

/-- The speeds of a chip are those of its files that are readings. -/
theorem chipFans_eq_ok (h : Listable tree (root ++ [chip])) :
    chipFans tree (root ++ [chip]) =
      .ok (((filesRead tree root chip).filterMap (reading? tree root chip)).map
        FanReading.speed) := by
  by_cases hAwake : Awake tree (root ++ [chip])
  · obtain ⟨files, hFiles⟩ := h hAwake
    rw [chipFans, if_pos (isAwake_iff.mpr hAwake), (exists_filesRead hAwake hFiles).1, Except.map,
      List.map_filterMap, List.filterMap_filter]
    -- file by file: one that is no fan is in neither list
    congr 2
    funext file
    unfold reading?
    rw [List.append_assoc, List.singleton_append]
    cases isFanInput file with
    | false => rfl
    | true =>
      show fanSpeed? tree (root ++ [chip, file]) =
        ((fanSpeed? tree (root ++ [chip, file])).map _).map FanReading.speed
      rw [Option.map_map]
      exact (Option.map_id' ..).symm
  · rw [filesRead_of_asleep hAwake, chipFans, if_neg (isAwake_iff.not.mpr hAwake)]
    rfl

/-- Every fan of a chip that is awake is reported, if there is something to be read of it. -/
theorem exists_readings (hRoot : Lists tree root chips)
    (hChips : ∀ chip ∈ chips, Listable tree (root ++ [chip])) :
    ∃ readings : List FanReading, fanSpeeds tree root = .ok (readings.map FanReading.speed) ∧
      readings.Pairwise (fun a b => Prod.Lex (· < ·) (· < ·) a.place b.place) ∧
      ∀ reading, reading ∈ readings ↔ IsReading tree root reading := by
  obtain ⟨sorted, hSorted, hPerm, hOrder⟩ := hRoot.exists_sortedNames
  have hListable : ∀ chip ∈ sorted, Listable tree (root ++ [chip]) := fun chip hChip =>
    hChips chip (hPerm.mem_iff.mp hChip)
  refine ⟨sorted.flatMap fun chip => (filesRead tree root chip).filterMap
    (reading? tree root chip), ?_, ?_, fun reading => ?_⟩
  · -- no chip fails
    have hFans : ∀ chip ∈ sorted, chipFans tree (root ++ [chip]) = .ok _ := fun chip hChip =>
      chipFans_eq_ok (hListable chip hChip)
    rw [fanSpeeds, hSorted]
    show (sorted.mapM fun name => chipFans tree (root ++ [name])) >>= _ = _
    rw [Answer.mapM_eq_ok_map hFans, List.map_flatMap]
    rfl
  · exact pairwise_flatMap_filterMap hOrder
      (fun chip hChip => pairwise_filesRead (hListable chip hChip))
      fun chip file reading hReading => (reading?_eq_some_iff.mp hReading).1
  · -- a file is found below one chip only, the one it is in
    simp only [List.mem_flatMap, List.mem_filterMap, reading?_eq_some_iff]
    constructor
    · rintro ⟨chip, hChip, file, hFile, hPlace, hFan, hSpeed⟩
      obtain ⟨rfl, rfl⟩ := Prod.mk.inj hPlace
      obtain ⟨hAwake, hListed⟩ := (mem_filesRead_iff (hListable _ hChip)).mp hFile
      exact ⟨⟨chips, hRoot, hPerm.mem_iff.mp hChip⟩, hAwake, hListed, hFan, hSpeed⟩
    · rintro ⟨⟨others, hOthers, hMem⟩, hAwake, hListed, hFan, hSpeed⟩
      have hChip : reading.chip ∈ sorted := by rwa [hPerm.mem_iff, hRoot.unique hOthers]
      have hFile := (mem_filesRead_iff (hListable _ hChip)).mpr ⟨hAwake, hListed⟩
      exact ⟨reading.chip, hChip, reading.file, hFile, rfl, hFan, hSpeed⟩

/-! ## Sleep -/

/-- Two trees that list the same chips, agree on which of them are awake, and show the same in those
that are. What they show in the others may differ. -/
structure SameButAsleep (tree other : Node) (root : Path) : Prop where
  chips : other.names root = tree.names root
  awake : ∀ chip, Awake other (root ++ [chip]) ↔ Awake tree (root ++ [chip])
  inside : ∀ chip, Awake tree (root ++ [chip]) →
    other.lookup (root ++ [chip]) = tree.lookup (root ++ [chip])

/-- What is reported of a chip depends on what is in it. -/
theorem chipFans_congr (h : other.lookup path = tree.lookup path) :
    chipFans other path = chipFans tree path := by
  -- every path that is read goes through the chip
  have hBytes : ∀ below, other.readBytes (path ++ below) = tree.readBytes (path ++ below) := by
    intro below
    rw [Node.readBytes_append, Node.readBytes_append, h]
  have hSpeed : ∀ name, fanSpeed? other (path ++ [name]) = fanSpeed? tree (path ++ [name]) := by
    intro name
    unfold fanSpeed? readAttribute Node.readText
    rw [hBytes]
  have hAwake : isAwake other (path ++ ["device"]) = isAwake tree (path ++ ["device"]) := by
    unfold isAwake Node.readText
    rw [List.append_assoc, hBytes]
  unfold chipFans sortedNames
  rw [Node.names_eq_bind other, Node.names_eq_bind tree, h, hAwake]
  simp only [hSpeed]

/-- Nothing inside a chip that is asleep has an influence on what is reported. -/
theorem fanSpeeds_of_sameButAsleep (h : SameButAsleep tree other root) :
    fanSpeeds other root = fanSpeeds tree root := by
  have hChip : ∀ chip, chipFans other (root ++ [chip]) = chipFans tree (root ++ [chip]) := by
    intro chip
    by_cases hAwake : Awake tree (root ++ [chip])
    · exact chipFans_congr (h.inside chip hAwake)
    · have hOther : ¬ Awake other (root ++ [chip]) := (h.awake chip).not.mpr hAwake
      rw [chipFans, chipFans, if_neg (isAwake_iff.not.mpr hOther),
        if_neg (isAwake_iff.not.mpr hAwake)]
  unfold fanSpeeds sortedNames
  rw [h.chips]
  simp only [hChip]

/-! ## Reports -/

/-- **What is reported of the fans** of chips that can be listed, at least those that are awake: the
speeds that are to be reported, each once and in the order of the chips and of their files. And
whether the chips can be listed or not, **nothing inside a chip that is asleep has an influence** on
it. -/
theorem fanSpeeds_of_chips (tree : Node) (root : Path) :
    (∀ chips, Lists tree root chips → (∀ chip ∈ chips, Listable tree (root ++ [chip])) →
      ∃ readings : List FanReading, fanSpeeds tree root = .ok (readings.map FanReading.speed) ∧
        readings.Pairwise (fun a b => Prod.Lex (· < ·) (· < ·) a.place b.place) ∧
        ∀ reading, reading ∈ readings ↔ IsReading tree root reading) ∧
    ∀ other, SameButAsleep tree other root → fanSpeeds other root = fanSpeeds tree root :=
  ⟨fun _ => exists_readings, fun _ => fanSpeeds_of_sameButAsleep⟩

/-- A chip that tells its state, and what else is in it. -/
def chipNode (state : String) (refusal : Option Fault) (files : List (String × Node)) : Node :=
  .directory refusal
    (("device", .directory none [("power_state", .file (.ok state.toUTF8))]) :: files)

/-- A tree with a chip that is awake, of whose fans one is not connected and one holds no number,
and another chip. -/
def chipTree (chip : Node) : Node :=
  chipDirectory.foldr (fun name node => .directory none [(name, node)])
    (.directory none [("hwmon1", chip), ("hwmon0", chipNode "D0\n" none
      [("fan3_input", .file (.error (.code 5))), ("fan10_input", .file (.ok "fast".toUTF8)),
        ("fan1_input", .file (.ok " +1200\n".toUTF8)), ("temp1_input", .file (.ok "41".toUTF8))])])

/-- A chip that is asleep and refuses to be listed. -/
def shutChip : Node := chipNode "D3cold\n" (some (.code 13)) []

/-- A chip that is asleep and has a fan. -/
def spinningChip : Node :=
  chipNode "D3hot\n" none [("fan1_input", .file (.ok "800".toUTF8))]

theorem not_awake_chipTree {state : String} {refusal : Option Fault}
    {files : List (String × Node)} (hZero : Text.trim state ≠ "D0")
    (hUnknown : Text.trim state ≠ "unknown") :
    ¬ Awake (chipTree (chipNode state refusal files)) (chipDirectory ++ ["hwmon1"]) := fun h =>
  (h state (Node.decode_toUTF8 state)).elim hZero hUnknown

/-- Two chips that differ in a device which sleeps are the same otherwise. -/
theorem sameButAsleep_chipTree :
    SameButAsleep (chipTree shutChip) (chipTree spinningChip) chipDirectory := by
  have hAway : ∀ chip, chip ≠ "hwmon1" → (chipTree spinningChip).lookup (chipDirectory ++ [chip]) =
      (chipTree shutChip).lookup (chipDirectory ++ [chip]) := by
    intro chip hNe
    have hFlip : (chip == "hwmon1") = false := by simpa using hNe
    simp [chipTree, chipDirectory, Node.lookup, List.lookup_cons, hFlip]
  have hShut : ¬ Awake (chipTree shutChip) (chipDirectory ++ ["hwmon1"]) :=
    not_awake_chipTree (by decide) (by decide)
  refine ⟨rfl, fun chip => ?_, fun chip hAwake => ?_⟩
  · by_cases hChip : chip = "hwmon1"
    · subst hChip
      exact iff_of_false (not_awake_chipTree (by decide) (by decide)) hShut
    · unfold Awake Node.readText
      simp only [Node.readBytes_append, hAway chip hChip]
  · refine hAway chip ?_
    rintro rfl
    exact hShut hAwake

/-- A chip that is awake, one of whose fans has a speed, beside one that sleeps. -/
theorem fanSpeeds_of_chips_chipTree :
    Lists (chipTree shutChip) chipDirectory ["hwmon1", "hwmon0"] ∧
    SameButAsleep (chipTree shutChip) (chipTree spinningChip) chipDirectory ∧
    ∃ readings : List FanReading,
      fanSpeeds (chipTree spinningChip) chipDirectory = .ok (readings.map FanReading.speed) ∧
      ⟨"hwmon0", "fan1_input", 1200⟩ ∈ readings ∧
      ∀ reading ∈ readings, reading.chip = "hwmon0" := by
  have hChips : Lists (chipTree shutChip) chipDirectory ["hwmon1", "hwmon0"] :=
    .there rfl (by decide)
  have hFiles : Lists (chipTree shutChip) (chipDirectory ++ ["hwmon0"])
      ["device", "fan3_input", "fan10_input", "fan1_input", "temp1_input"] :=
    .there rfl (by decide)
  have hShut : ¬ Awake (chipTree shutChip) (chipDirectory ++ ["hwmon1"]) :=
    not_awake_chipTree (by decide) (by decide)
  have hMain := fanSpeeds_of_chips (chipTree shutChip) chipDirectory
  -- only the chip that is awake needs to be listable
  obtain ⟨readings, hReadings, -, hMem⟩ := hMain.1 _ hChips fun chip hChip hAwake => by
    rcases List.mem_pair.mp hChip with rfl | rfl
    · exact absurd hAwake hShut
    · exact ⟨_, hFiles⟩
  refine ⟨hChips, sameButAsleep_chipTree, readings, ?_, ?_, fun reading hReading => ?_⟩
  · rw [hMain.2 _ sameButAsleep_chipTree, hReadings]
  · have hAwake : Awake (chipTree shutChip) (chipDirectory ++ ["hwmon0"]) := by
      intro state hState
      obtain rfl := Except.ok.inj ((Node.decode_toUTF8 "D0\n").symm.trans hState)
      exact .inl (by decide)
    exact (hMem _).mpr ⟨⟨_, hChips, by simp⟩, hAwake, ⟨_, hFiles, by simp⟩, ⟨"1", by decide⟩,
      " +1200\n", Node.decode_toUTF8 " +1200\n", Text.readUInt32_eq_ok_iff.mp rfl⟩
  · obtain ⟨⟨chips, hLists, hChip⟩, hAwake, -⟩ := (hMem reading).mp hReading
    rw [hLists.unique hChips] at hChip
    rcases List.mem_pair.mp hChip with hName | hName
    · rw [hName] at hAwake
      exact absurd hAwake hShut
    · exact hName

end HardwareReport.Linux
