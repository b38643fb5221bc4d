import HardwareReport.Linux.Layer
import HardwareReport.Proofs.Processor.Identifier
import HardwareReport.Proofs.Processor.Remembered

/-!
# Linux — the processor's identity

The kernel's file about processors has a key and a value on a line, around the first colon of it.
Of the lines with a key the first one counts.

* `CpuInfo.Gives` — a line has a value for a key;
* `CpuInfo.FirstGives` — the first line with a key has a value for it.

Main result: `run_ask_parts` — a processor tells the numbers on the first lines with their keys.
-/

namespace HardwareReport.Linux

namespace CpuInfo

/-! ## Lines -/

/-- A line has a value for a key. -/
def Gives (key value : String) (line : List Char) : Prop :=
  ∃ before after, line = before ++ ':' :: after ∧ ':' ∉ before ∧
    Text.trimmed before = key ∧ Text.trimmed after = value

theorem field?_eq_some_iff {line : List Char} {key value : String} :
    field? line = some (key, value) ↔ Gives key value line := by
  rw [field?, Option.map_eq_some_iff]
  constructor
  · rintro ⟨⟨before, after⟩, hSplit, hEntry⟩
    obtain ⟨hNot, hLine⟩ := Text.splitOnce?_singleton_eq_some_iff.mp hSplit
    obtain ⟨hKey, hValue⟩ := Prod.mk.inj hEntry
    exact ⟨before, after, hLine, hNot, hKey, hValue⟩
  · rintro ⟨before, after, hLine, hNot, rfl, rfl⟩
    exact ⟨(before, after), Text.splitOnce?_singleton_eq_some_iff.mpr ⟨hNot, hLine⟩, rfl⟩

/-- The first line of a file with a key has a value for it. -/
def FirstGives (key value text : String) : Prop :=
  ∃ earlier line later, Text.lines text.toList = earlier ++ line :: later ∧ Gives key value line ∧
    ∀ other ∈ earlier, ∀ otherValue, ¬ Gives key otherValue other

/-- The value that is found is that on the first line with the key. -/
theorem value?_eq_some_iff {key value text : String} :
    value? [key] (entries text) = some value ↔ FirstGives key value text := by
  have hKey : ∀ entry : String × String, [key].contains entry.1 = true ↔ entry.1 = key := by
    simp
  constructor
  · intro h
    obtain ⟨⟨other, otherValue⟩, hFind, rfl⟩ := Option.map_eq_some_iff.mp h
    obtain ⟨hFound, before, after, hEntries, hBefore⟩ := List.find?_eq_some_iff_append.mp hFind
    obtain rfl := (hKey _).mp hFound
    -- the entry comes from a line, after lines with other entries and lines without one
    obtain ⟨front, back, hLines, hFront, hBack⟩ := List.filterMap_eq_append_iff.mp hEntries
    obtain ⟨skipped, line, later, rfl, hSkipped, hLine, -⟩ := List.filterMap_eq_cons_iff.mp hBack
    refine ⟨front ++ skipped, line, later, by rw [hLines, List.append_assoc],
      field?_eq_some_iff.mp hLine, fun earlier hEarlier value hGives => ?_⟩
    have hEntry := field?_eq_some_iff.mpr hGives
    rcases List.mem_append.mp hEarlier with hMem | hMem
    · have hNot := hBefore _ (hFront ▸ List.mem_filterMap.mpr ⟨earlier, hMem, hEntry⟩)
      rw [(hKey _).mpr rfl] at hNot
      exact absurd hNot (by simp)
    · rw [hSkipped earlier hMem] at hEntry
      exact absurd hEntry (by simp)
  · rintro ⟨earlier, line, later, hLines, hLine, hEarlier⟩
    have hEntries : entries text =
        earlier.filterMap field? ++ (key, value) :: later.filterMap field? := by
      rw [entries, hLines, List.filterMap_append,
        List.filterMap_cons_some (field?_eq_some_iff.mpr hLine)]
    have hNone : (earlier.filterMap field?).find? (fun entry => [key].contains entry.1) = none := by
      rw [List.find?_eq_none]
      rintro ⟨other, otherValue⟩ hMem hOther
      obtain ⟨otherLine, hOtherLine, hEntry⟩ := List.mem_filterMap.mp hMem
      obtain rfl := (hKey _).mp hOther
      exact hEarlier otherLine hOtherLine otherValue (field?_eq_some_iff.mp hEntry)
    rw [value?, hEntries, List.find?_append, hNone, Option.none_or,
      List.find?_cons_of_pos (by simp), Option.map_some]

/-! ## The identifier -/

/-- The first lines with their keys have the numbers of a processor. -/
structure GivesParts (text : String) (parts : Identifier.Parts) : Prop where
  family : FirstGives "cpu family" parts.family text
  model : FirstGives "model" parts.model text
  stepping : FirstGives "stepping" parts.stepping text

theorem exists_identifier_eq_write {text : String} {parts : Identifier.Parts}
    (h : GivesParts text parts) :
    ∃ vendor cpu64, (identity text).identifier = Identifier.write vendor cpu64 parts := by
  refine ⟨(identity text).vendor, (identity text).cpu64, ?_⟩
  simp only [identity, value?_eq_some_iff.mpr h.family, value?_eq_some_iff.mpr h.model,
    value?_eq_some_iff.mpr h.stepping]

theorem parts?_identity {text : String} {parts : Identifier.Parts} (hParts : parts.Legible)
    (h : GivesParts text parts) : Identifier.parts? (identity text).identifier = some parts := by
  obtain ⟨vendor, cpu64, hWrite⟩ := exists_identifier_eq_write h
  rw [hWrite, Identifier.parts?_write hParts]

end CpuInfo

/-! ## The processor -/

/-- Where the kernel tells of processors. -/
def cpuInfoFile : FileTree.Path := ["proc", "cpuinfo"]

theorem run_identity {machine : LinuxMachine} {text : String}
    (hText : machine.native.readText cpuInfoFile = .ok text) :
    layer.processor.identity.run.run machine = (.ok (CpuInfo.identity text), machine) := by
  have hIdentity : processorIdentity machine.native = .ok (CpuInfo.identity text) := by
    rw [processorIdentity, requiredText, show (["proc", "cpuinfo"] : FileTree.Path) = cpuInfoFile
      from rfl, hText]
    rfl
  show (processorIdentity machine.native, machine) = _
  rw [hIdentity]

/-- **A processor tells the numbers in the kernel's file.** -/
theorem run_ask_parts {machine : LinuxMachine} {text : String} {parts : Identifier.Parts}
    (hParts : parts.Legible) (hText : machine.native.readText cpuInfoFile = .ok text)
    (h : CpuInfo.GivesParts text parts) :
    ((Session.ask layer.processor .parts).run {}).run machine =
      ((.parts (some parts.family) (some parts.model) (some parts.stepping),
        { processor := .withIdentity (CpuInfo.identity text) }), machine) := by
  have hAsk : Session.ask layer.processor .parts = Session.askIdentity layer.processor
      fun identity => .parts identity.family? identity.model? identity.stepping? := rfl
  rw [hAsk, Session.run_askIdentity, Processor.run_askIdentity_of_unknown layer.processor rfl,
    run_identity hText]
  simp only [Identity.ofAnswer, Identity.family?, Identity.model?, Identity.stepping?,
    CpuInfo.parts?_identity hParts h, Option.map_some]
  rfl

end HardwareReport.Linux
