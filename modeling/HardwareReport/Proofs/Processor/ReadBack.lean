import HardwareReport.Proofs.Linux.CpuInfo
import HardwareReport.Windows.Layer

/-!
# Processor — identifiers that backends hand on

A backend writes an identifier from the numbers that its platform tells, or takes one over that the
platform has written. On Windows it comes with the vendor after the last comma. Either way the
numbers that the processor tells are those of the platform.

Main result: `identifiers_read_back` — the numbers of a written identifier, of the processor of a
Linux machine, and of an identifier from the environment of a Windows machine.
-/

namespace HardwareReport

namespace Windows

/-- An identifier as the environment has it: some first words, the numbers, and the vendor. -/
def environmentIdentifier (first : String) (parts : Identifier.Parts) (vendor : String) : String :=
  first ++ " Family " ++ parts.family ++ " Model " ++ parts.model ++ " Stepping " ++
    parts.stepping ++ ", " ++ vendor

theorem environmentIdentifier_eq (first : String) (parts : Identifier.Parts) (vendor : String) :
    environmentIdentifier first parts vendor =
      (first ++ (" " ++ parts.text)) ++ ", " ++ vendor := by
  have hKeyword : " Family " = " " ++ "Family " := by decide
  simp only [environmentIdentifier, Identifier.Parts.text, hKeyword, String.append_assoc]

/-- The vendor is what follows the last comma. -/
theorem splitIdentifier_append {front vendor : String} (hComma : ',' ∉ vendor.toList)
    (hTrim : Text.trim vendor = vendor) :
    splitIdentifier (front ++ ", " ++ vendor) = (Text.trimmed front.toList, some vendor) := by
  -- the comma that was written is the last, as there is none in the vendor
  have hSplit : Text.splitLast? ',' (front ++ ", " ++ vendor).toList =
      some (front.toList, ' ' :: vendor.toList) := by
    rw [Text.splitLast?_eq_some_iff, String.toList_append, String.toList_append]
    refine ⟨?_, ?_⟩
    · rw [List.mem_cons, not_or]
      exact ⟨by decide, hComma⟩
    · rw [show ", ".toList = [',', ' '] by decide, List.append_assoc]
      rfl
  have hVendor : Text.trimmed (' ' :: vendor.toList) = vendor := by
    rw [Text.trimmed, Text.trimEnds_cons_of_pos _ (by decide)]
    exact hTrim
  rw [splitIdentifier, hSplit]
  simp only [hVendor]

/-- The numbers of an identifier do not change when it is trimmed. -/
theorem parts?_trimmed {parts : Identifier.Parts} (h : parts.Legible) {first : String}
    (hFirst : Text.contains "Family".toList first.toList = false) :
    Identifier.parts? (Text.trimmed (first.toList ++ ' ' :: parts.text.toList)) = some parts := by
  obtain ⟨c, hLast⟩ := Option.ne_none_iff_exists'.mp
    fun hNone => h.stepping.ne_nil (List.getLast?_eq_none_iff.mp hNone)
  have hEnd : (first.toList ++ ' ' :: parts.text.toList).getLast? = some c := by
    rw [parts.toList_text]
    simp only [List.getLast?_append, List.getLast?_cons, hLast, Option.some_or, Option.getD_some]
  have hBlank := h.stepping.isBlank_eq_false c (List.mem_of_getLast? hLast)
  rw [Identifier.parts?, Text.trimmed, String.toList_ofList,
    Text.trimEnds_eq_dropWhile hEnd hBlank, Identifier.partsIn?_dropWhile,
    Identifier.partsIn?_identifier h hFirst]

theorem splitIdentifier_environmentIdentifier {first vendor : String} {parts : Identifier.Parts}
    (hComma : ',' ∉ vendor.toList) (hTrim : Text.trim vendor = vendor) :
    splitIdentifier (environmentIdentifier first parts vendor) =
      (Text.trimmed (first.toList ++ ' ' :: parts.text.toList), some vendor) := by
  rw [environmentIdentifier_eq, splitIdentifier_append hComma hTrim, String.toList_append,
    String.toList_append]
  rfl

/-- An identity gets the identifier of the environment, and its vendor where there is none. -/
theorem completeIdentity_environmentIdentifier {first vendor : String} {parts : Identifier.Parts}
    (hComma : ',' ∉ vendor.toList) (hTrim : Text.trim vendor = vendor) (identity : Identity)
    (architecture : Option String) :
    completeIdentity identity (some (environmentIdentifier first parts vendor)) architecture =
      { identity with
        identifier := Text.trimmed (first.toList ++ ' ' :: parts.text.toList)
        vendor := if identity.vendor.isEmpty then vendor else identity.vendor
        cpu64 := architecture.map is64Bit } := by
  rw [completeIdentity, Option.map_some, splitIdentifier_environmentIdentifier hComma hTrim]
  rfl

end Windows

/-- **The numbers of a processor are read back as they are,** if they are words and the stepping
does not end in a comma:

* from every identifier that is written with them,
* by the processor of a Linux machine whose file has them on the first lines with their keys,
* from an identifier of a Windows machine with any first words that do not hold the keyword, which
  also tells the vendor where nothing else does. -/
theorem identifiers_read_back {parts : Identifier.Parts} (h : parts.Legible) :
    (∀ vendor cpu64, Identifier.parts? (Identifier.write vendor cpu64 parts) = some parts) ∧
    (∀ (machine : Linux.LinuxMachine) (text : String),
      machine.native.readText Linux.cpuInfoFile = .ok text → Linux.CpuInfo.GivesParts text parts →
      ∃ session, ((Session.ask Linux.layer.processor .parts).run {}).run machine =
        ((.parts (some parts.family) (some parts.model) (some parts.stepping), session),
          machine)) ∧
    (∀ (first vendor : String) (identity : Identity) (architecture : Option String),
      ¬ "Family".toList <:+: first.toList → ',' ∉ vendor.toList → Text.trim vendor = vendor →
      ∃ completed, completed = Windows.completeIdentity identity
          (some (Windows.environmentIdentifier first parts vendor)) architecture ∧
        Identifier.parts? completed.identifier = some parts ∧
        (identity.vendor = "" → completed.vendor = vendor) ∧
        (identity.vendor ≠ "" → completed.vendor = identity.vendor)) := by
  refine ⟨Identifier.parts?_write h, fun machine text hText hGives => ?linux, ?windows⟩
  case linux => exact ⟨_, Linux.run_ask_parts h hText hGives⟩
  case windows =>
    intro first vendor identity architecture hFirst hComma hTrim
    have hContains : Text.contains "Family".toList first.toList = false := by
      rwa [← Bool.not_eq_true, Text.contains_iff_isInfix]
    refine ⟨_, rfl, ?_⟩
    rw [Windows.completeIdentity_environmentIdentifier hComma hTrim]
    -- the vendor is taken from the end of the identifier unless it is known
    refine ⟨Windows.parts?_trimmed h hContains, fun hNone => ?_, fun hSome => ?_⟩
    · exact if_pos (String.isEmpty_iff.mpr hNone)
    · exact if_neg fun hEmpty => hSome (String.isEmpty_iff.mp hEmpty)

/-- Numbers that look like other parts of an identifier. -/
def keywordParts : Identifier.Parts := ⟨"Family", "a,b:c", "St,ep"⟩

theorem keywordParts_legible : keywordParts.Legible := by
  decide

/-- A file that has these numbers, and others for a second processor. -/
def keywordCpuInfo : String :=
  "cpu family : Family\nmodel\t: a,b:c\nmodel name : N\nstepping : St,ep\n\ncpu family : 6\nmodel : 7\n"

/-- A Linux machine with this file. -/
def keywordMachine : Linux.LinuxMachine where
  native := .directory none [("proc", .directory none
    [("cpuinfo", .file (.ok keywordCpuInfo.toUTF8))])]
  host := {}

theorem keywordMachine_readText :
    keywordMachine.native.readText Linux.cpuInfoFile = .ok keywordCpuInfo :=
  FileTree.Node.decode_toUTF8 keywordCpuInfo

theorem keywordCpuInfo_givesParts : Linux.CpuInfo.GivesParts keywordCpuInfo keywordParts where
  family := Linux.CpuInfo.value?_eq_some_iff.mp (by decide)
  model := Linux.CpuInfo.value?_eq_some_iff.mp (by decide)
  stepping := Linux.CpuInfo.value?_eq_some_iff.mp (by decide)

/-- Parts that look like the words they are written between. -/
theorem identifiers_read_back_keywordParts :
    keywordParts.Legible ∧
    Identifier.parts? (Identifier.write "v, w" (some true) keywordParts) = some keywordParts ∧
    (∃ session, ((Session.ask Linux.layer.processor .parts).run {}).run keywordMachine =
      ((.parts (some "Family") (some "a,b:c") (some "St,ep"), session), keywordMachine)) ∧
    ∃ completed, completed = Windows.completeIdentity {}
        (some (Windows.environmentIdentifier "Intel64" keywordParts "GenuineIntel")) none ∧
      Identifier.parts? completed.identifier = some keywordParts ∧
      completed.vendor = "GenuineIntel" := by
  obtain ⟨hWrite, hLinux, hWindows⟩ := identifiers_read_back keywordParts_legible
  -- nothing before the numbers may look like their beginning
  have hFirst : ¬ "Family".toList <:+: "Intel64".toList := by
    rw [← Text.contains_iff_isInfix]
    decide
  obtain ⟨completed, hCompleted, hParts, hVendor, -⟩ :=
    hWindows "Intel64" "GenuineIntel" {} none hFirst (by decide) (by decide)
  exact ⟨keywordParts_legible, hWrite "v, w" (some true),
    hLinux keywordMachine keywordCpuInfo keywordMachine_readText keywordCpuInfo_givesParts,
    completed, hCompleted, hParts, hVendor rfl⟩

end HardwareReport
