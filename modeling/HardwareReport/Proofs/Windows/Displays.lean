import HardwareReport.Proofs.Enumeration.Entries
import HardwareReport.Proofs.Enumeration.Nested
import HardwareReport.Proofs.Text.ByteOrder
import HardwareReport.Proofs.Windows.Operations
import HardwareReport.Windows.RegistryKey

/-!
# Windows — displays

A monitor that was attached once keeps its keys. It is attached now if its instance has a key called
`Control`, and then its description is among its parameters. Instances whose keys may not be opened
are passed over; any other failure on the way is the failure of the whole.

* `displayOperations` — what is asked of the registry, in order;
* `IsAttached` — an instance of a monitor that is to be reported;
* `NamesOnce` — no key is listed with a name twice;
* `openKey_isPassedOver_fault` — which numbers of Windows are passed over.

Main result: `displays_of_operations` — the displays, if no operation fails, and the failure, if one
does, in any registry.
-/

namespace HardwareReport.Windows.Registry

variable {Key : Type}

/-! ## Operations -/

section Operations

variable (registry : Registry Key)

/-- The operations that look for a description in the key of an instance. -/
def edidOperations (key : Key) : List (Operation Key) :=
  registry.ifOpened key "Control" fun _ =>
    registry.ifOpened key "Device Parameters" fun parameters => [.readValue parameters "EDID"]

/-- The operations on the instances of a monitor. -/
def monitorOperations (key : Key) (monitor : String) : List (Operation Key) :=
  registry.ifOpened key monitor fun inner =>
    registry.forEachKey inner fun name => registry.ifOpened inner name registry.edidOperations

/-- The operations on the monitors, in the order in which they are made as long as none fails. -/
def displayOperations : List (Operation Key) :=
  registry.ifOpened registry.root displayPath fun key =>
    registry.forEachKey key (registry.monitorOperations key)

theorem ends_instanceEdid (key : Key) :
    Ends registry (registry.edidOperations key) (registry.instanceEdid key) :=
  .ifOpened ⟨none, rfl⟩ fun _ => .ifOpened ⟨none, rfl⟩ fun _ => .bytesValue

theorem ends_instanceDisplay (key : Key) (monitor name : String) :
    Ends registry (registry.ifOpened key name registry.edidOperations)
      (registry.instanceDisplay monitor key name) :=
  .ifOpened ⟨none, rfl⟩ fun inner => (registry.ends_instanceEdid inner).map _

theorem ends_monitorDisplays (key : Key) (monitor : String) :
    Ends registry (registry.monitorOperations key monitor)
      (registry.monitorDisplays key monitor) :=
  .ifOpened ⟨[], rfl⟩ fun inner => .forEachKey fun _ =>
    (Ends.mapM fun name => registry.ends_instanceDisplay inner monitor name).map _

theorem ends_displays : Ends registry registry.displayOperations registry.displays :=
  .ifOpened ⟨[], rfl⟩ fun key => .forEachKey fun _ =>
    (Ends.mapM fun monitor => registry.ends_monitorDisplays key monitor).map _

end Operations

/-! ## Names -/

variable {registry : Registry Key} {key inner : Key} {path name monitor : String}

/-- A key that is open, or can be opened step by step. -/
inductive IsOpen (registry : Registry Key) : Key → Prop where
  | root : IsOpen registry registry.root
  | subkey {key inner : Key} {path : String} (outer : IsOpen registry key)
      (opened : registry.subkey key path = .ok inner) : IsOpen registry inner

/-- No name is listed twice in a key. -/
def NamesOnce (registry : Registry Key) : Prop :=
  ∀ key, IsOpen registry key → ∀ names, registry.subkeyNames key = .ok names → names.Nodup

/-- The names of the keys in a key, in order, if they can be listed. -/
def keyNames (registry : Registry Key) (key : Key) : List String :=
  (registry.sortedKeys key).toOption.getD []

theorem mem_keyNames_iff :
    name ∈ registry.keyNames key ↔
      ∃ names, registry.subkeyNames key = .ok names ∧ name ∈ names := by
  unfold keyNames sortedKeys
  cases registry.subkeyNames key <;> simp [Except.toOption]

theorem NamesOnce.pairwise_keyNames (h : NamesOnce registry) (hOpen : IsOpen registry key) :
    (registry.keyNames key).Pairwise (· < ·) := by
  unfold keyNames sortedKeys
  cases hNames : registry.subkeyNames key with
  | error fault => exact .nil
  | ok names => exact Text.pairwise_lt_mergeSort (h key hOpen names hNames)

/-! ## Attachments -/

/-- An instance of a monitor, and its description. -/
structure Attachment where
  monitor : String
  name : String
  edid : List UInt8
  deriving DecidableEq, Repr

namespace Attachment

/-- Where the keys of the instance are. -/
def place (attachment : Attachment) : String × String :=
  (attachment.monitor, attachment.name)

/-- The instance as it is reported. -/
def display (attachment : Attachment) : Display :=
  ⟨attachment.monitor ++ "\\" ++ attachment.name, attachment.edid⟩

end Attachment

/-- A key is listed in another and can be opened. -/
structure Holds (registry : Registry Key) (parent : Key) (name : String) (inner : Key) : Prop where
  listed : ∃ names, registry.subkeyNames parent = .ok names ∧ name ∈ names
  opened : registry.subkey parent name = .ok inner

/-- An instance is attached and described: its key can be opened and so can those that are called
`Control` and `Device Parameters`, and its description is a value of the latter. -/
inductive IsAttached (registry : Registry Key) (attachment : Attachment) : Prop where
  | intro {all monitor inner control parameters : Key}
      (all_opened : registry.subkey registry.root displayPath = .ok all)
      (monitor_held : Holds registry all attachment.monitor monitor)
      (inner_held : Holds registry monitor attachment.name inner)
      (control_opened : registry.subkey inner "Control" = .ok control)
      (parameters_opened : registry.subkey inner "Device Parameters" = .ok parameters)
      (edid_read : registry.bytes parameters "EDID" = .ok attachment.edid)

section Search

variable (registry : Registry Key)

/-- The key that a path leads to, if it can be opened. -/
def opened? (parent : Key) (path : String) : Option Key :=
  (registry.subkey parent path).toOption

/-- The description of an instance, if it is attached and has one. -/
def attachedEdid? (key : Key) : Option (List UInt8) := do
  let _ ← registry.opened? key "Control"
  let parameters ← registry.opened? key "Device Parameters"
  (registry.bytes parameters "EDID").toOption

/-- The instance of a monitor, if it is attached and described. -/
def attachment? (key : Key) (monitor name : String) : Option Attachment := do
  let inner ← registry.opened? (← registry.opened? key monitor) name
  return ⟨monitor, name, ← registry.attachedEdid? inner⟩

/-- The names of the instances of a monitor, if its key can be opened. -/
def instanceNames (key : Key) (monitor : String) : List String :=
  ((registry.opened? key monitor).map registry.keyNames).getD []

/-- The instances of all monitors that are attached and described. -/
def attachments : List Attachment :=
  match registry.opened? registry.root displayPath with
  | none => []
  | some key => (registry.keyNames key).flatMap fun monitor =>
      (registry.instanceNames key monitor).filterMap (registry.attachment? key monitor)

end Search

theorem opened?_eq_some_iff :
    registry.opened? key path = some inner ↔ registry.subkey key path = .ok inner := by
  unfold opened?
  cases registry.subkey key path <;> simp [Except.toOption]

/-- An instance is described if both of its keys can be opened and the value read. -/
theorem attachedEdid?_eq_some_iff {edid : List UInt8} :
    registry.attachedEdid? key = some edid ↔
      (∃ control, registry.subkey key "Control" = .ok control) ∧
      ∃ parameters, registry.subkey key "Device Parameters" = .ok parameters ∧
        registry.bytes parameters "EDID" = .ok edid := by
  have hRead : ∀ parameters, (registry.bytes parameters "EDID").toOption = some edid ↔
      registry.bytes parameters "EDID" = .ok edid := by
    intro parameters
    cases registry.bytes parameters "EDID" <;> simp [Except.toOption]
  simp only [attachedEdid?, Option.bind_eq_bind, Option.bind_eq_some_iff, opened?_eq_some_iff,
    hRead]
  constructor
  · rintro ⟨control, hControl, hParameters⟩
    exact ⟨⟨control, hControl⟩, hParameters⟩
  · rintro ⟨⟨control, hControl⟩, hParameters⟩
    exact ⟨control, hControl, hParameters⟩

theorem attachment?_eq_some_iff {attachment : Attachment} :
    registry.attachment? key monitor name = some attachment ↔
      attachment.place = (monitor, name) ∧ ∃ found inner,
        registry.subkey key monitor = .ok found ∧ registry.subkey found name = .ok inner ∧
          registry.attachedEdid? inner = some attachment.edid := by
  obtain ⟨otherMonitor, otherName, edid⟩ := attachment
  simp only [attachment?, Attachment.place, Option.bind_eq_bind, Option.bind_eq_some_iff,
    opened?_eq_some_iff, Option.pure_def, Option.some.injEq, Attachment.mk.injEq, Prod.mk.injEq]
  constructor
  · rintro ⟨found, hFound, inner, hInner, _, hEdid, rfl, rfl, rfl⟩
    exact ⟨⟨rfl, rfl⟩, found, inner, hFound, hInner, hEdid⟩
  · rintro ⟨⟨rfl, rfl⟩, found, inner, hFound, hInner, hEdid⟩
    exact ⟨found, hFound, inner, hInner, edid, hEdid, rfl, rfl, rfl⟩

theorem mem_instanceNames_iff :
    name ∈ registry.instanceNames key monitor ↔
      ∃ found, registry.subkey key monitor = .ok found ∧ name ∈ registry.keyNames found := by
  unfold instanceNames opened?
  cases registry.subkey key monitor <;> simp [Except.toOption]

/-- **The instances that are found are those that are attached and described.** -/
theorem mem_attachments_iff {attachment : Attachment} :
    attachment ∈ registry.attachments ↔ IsAttached registry attachment := by
  unfold attachments
  cases hAll : registry.opened? registry.root displayPath with
  | none =>
    refine iff_of_false List.not_mem_nil ?_
    rintro ⟨hOpened⟩
    rw [opened?_eq_some_iff.mpr hOpened] at hAll
    exact absurd hAll (by simp)
  | some all =>
    have hOpened := opened?_eq_some_iff.mp hAll
    simp only [List.mem_flatMap, List.mem_filterMap, attachment?_eq_some_iff]
    constructor
    · rintro ⟨monitor, hMonitor, name, hName, hPlace, found, inner, hFound, hInner, hEdid⟩
      obtain ⟨rfl, rfl⟩ := Prod.mk.inj hPlace
      -- the key that was listed is the one that was opened
      obtain ⟨other, hOther, hListed⟩ := mem_instanceNames_iff.mp hName
      obtain rfl := Except.ok.inj (hFound.symm.trans hOther)
      obtain ⟨⟨control, hControl⟩, parameters, hParameters, hRead⟩ :=
        attachedEdid?_eq_some_iff.mp hEdid
      exact ⟨hOpened, ⟨mem_keyNames_iff.mp hMonitor, hFound⟩, ⟨mem_keyNames_iff.mp hListed, hInner⟩,
        hControl, hParameters, hRead⟩
    · rintro ⟨hOther, ⟨hMonitor, hFound⟩, ⟨hName, hInner⟩, hControl, hParameters, hRead⟩
      obtain rfl := Except.ok.inj (hOpened.symm.trans hOther)
      have hListed := mem_instanceNames_iff.mpr ⟨_, hFound, mem_keyNames_iff.mpr hName⟩
      have hEdid := attachedEdid?_eq_some_iff.mpr ⟨⟨_, hControl⟩, _, hParameters, hRead⟩
      exact ⟨attachment.monitor, mem_keyNames_iff.mpr hMonitor, attachment.name, hListed, rfl, _, _,
        hFound, hInner, hEdid⟩

/-- The instances that are found are in the order of the monitors and of their own names. -/
theorem pairwise_attachments (h : NamesOnce registry) :
    registry.attachments.Pairwise fun a b => Prod.Lex (· < ·) (· < ·) a.place b.place := by
  unfold attachments
  cases hAll : registry.opened? registry.root displayPath with
  | none => exact .nil
  | some all =>
    have hOpen : IsOpen registry all := .subkey .root (opened?_eq_some_iff.mp hAll)
    refine pairwise_flatMap_filterMap (h.pairwise_keyNames hOpen) (fun monitor _ => ?_)
      fun monitor name attachment hFound => (attachment?_eq_some_iff.mp hFound).1
    unfold instanceNames
    cases hMonitor : registry.opened? all monitor with
    | none => exact .nil
    | some inner => exact h.pairwise_keyNames (.subkey hOpen (opened?_eq_some_iff.mp hMonitor))

/-! ## Answers -/

-- What an answer says if there is one: a refusal that is passed over counts as nothing found, so
-- that the failures, which `Ends` is about, need not be told apart here.

theorem eq_of_openKey_eq_ok {found : Option Key} (h : registry.openKey key path = .ok found) :
    found = registry.opened? key path := by
  unfold openKey at h
  unfold opened?
  cases hOpened : registry.subkey key path with
  | ok inner =>
    rw [hOpened] at h
    exact (Except.ok.inj h).symm
  | error fault =>
    simp only [hOpened] at h
    split at h
    · exact (Except.ok.inj h).symm
    · exact absurd h (by simp)

/-- Answers for all keys in a key are those of a function of their names. -/
theorem eq_map_keyNames {α : Type} [Inhabited α] {names : List String} {ask : String → Answer α}
    {answers : List α} {f : String → α} (hNames : registry.sortedKeys key = .ok names)
    (hAnswers : names.mapM ask = .ok answers) (hAsk : ∀ name a, ask name = .ok a → a = f name) :
    answers = (registry.keyNames key).map f := by
  obtain ⟨g, rfl, hg⟩ := Answer.exists_map_of_mapM_eq_ok hAnswers
  have hSame : registry.keyNames key = names := by
    rw [keyNames, hNames]
    rfl
  rw [hSame]
  exact List.map_congr_left fun name hName => hAsk name _ (hg name hName)

theorem eq_of_bytesValue_eq_ok {found : Option (List UInt8)}
    (h : registry.bytesValue key name = .ok found) :
    found = (registry.bytes key name).toOption := by
  unfold bytesValue at h
  cases hValue : registry.bytes key name with
  | ok value =>
    rw [hValue] at h
    exact (Except.ok.inj h).symm
  | error fault =>
    simp only [hValue, orAbsent] at h
    split at h
    · exact (Except.ok.inj h).symm
    · exact absurd h (by simp)

theorem eq_of_instanceEdid_eq_ok {found : Option (List UInt8)}
    (h : registry.instanceEdid key = .ok found) : found = registry.attachedEdid? key := by
  obtain ⟨control, hControl, hNext⟩ := Answer.bind_eq_ok_iff.mp h
  unfold attachedEdid?
  rw [← eq_of_openKey_eq_ok hControl]
  cases control with
  | none => exact (Except.ok.inj hNext).symm
  | some _ =>
    obtain ⟨opened, hOpened, hLast⟩ := Answer.bind_eq_ok_iff.mp hNext
    rw [← eq_of_openKey_eq_ok hOpened]
    cases opened with
    | none => exact (Except.ok.inj hLast).symm
    | some parameters => exact eq_of_bytesValue_eq_ok hLast

theorem eq_of_instanceDisplay_eq_ok {found : Option Display} {opened : Key}
    (hOpened : registry.opened? key monitor = some opened)
    (h : registry.instanceDisplay monitor opened name = .ok found) :
    found = (registry.attachment? key monitor name).map Attachment.display := by
  obtain ⟨inner, hInner, hNext⟩ := Answer.bind_eq_ok_iff.mp h
  unfold attachment?
  rw [hOpened, Option.bind_eq_bind, Option.bind_some, ← eq_of_openKey_eq_ok hInner]
  cases inner with
  | none => exact (Except.ok.inj hNext).symm
  | some inner =>
    obtain ⟨edid, hEdid, hLast⟩ := Answer.bind_eq_ok_iff.mp hNext
    rw [Option.bind_eq_bind, Option.bind_some, ← eq_of_instanceEdid_eq_ok hEdid,
      ← Except.ok.inj hLast]
    cases edid <;> rfl

/-- What is reported of a monitor are its instances that are attached and described. -/
theorem eq_of_monitorDisplays_eq_ok {found : List Display}
    (h : registry.monitorDisplays key monitor = .ok found) :
    found = ((registry.instanceNames key monitor).filterMap
      (registry.attachment? key monitor)).map Attachment.display := by
  obtain ⟨opened, hOpened, hNext⟩ := Answer.bind_eq_ok_iff.mp h
  -- a key that is passed over is one without instances
  have hSame := (eq_of_openKey_eq_ok hOpened).symm
  unfold instanceNames
  rw [hSame]
  cases opened with
  | none => exact (Except.ok.inj hNext).symm
  | some inner =>
    obtain ⟨names, hNames, hEach⟩ := Answer.bind_eq_ok_iff.mp hNext
    obtain ⟨answers, hAnswers, hLast⟩ := Answer.bind_eq_ok_iff.mp hEach
    rw [← Except.ok.inj hLast, eq_map_keyNames hNames hAnswers fun name found hFound =>
      eq_of_instanceDisplay_eq_ok hSame hFound, List.filterMap_map, Option.map_some,
      Option.getD_some, List.map_filterMap]
    rfl

/-- What is reported are the instances that are found, if there is a report. -/
theorem eq_of_displays_eq_ok {found : List Display} (h : registry.displays = .ok found) :
    found = registry.attachments.map Attachment.display := by
  obtain ⟨opened, hOpened, hNext⟩ := Answer.bind_eq_ok_iff.mp h
  unfold attachments
  rw [← eq_of_openKey_eq_ok hOpened]
  cases opened with
  | none => exact (Except.ok.inj hNext).symm
  | some key =>
    obtain ⟨names, hNames, hEach⟩ := Answer.bind_eq_ok_iff.mp hNext
    obtain ⟨answers, hAnswers, hLast⟩ := Answer.bind_eq_ok_iff.mp hEach
    rw [← Except.ok.inj hLast, eq_map_keyNames hNames hAnswers fun monitor found hFound =>
      eq_of_monitorDisplays_eq_ok hFound]
    dsimp only
    rw [List.map_flatMap, ← List.flatMap_def]

/-! ## Refusals of Windows -/

section Numbers

variable (parent : Key) (number : Int) (wording : String)

theorem isNotFound_fault_iff :
    (fault number wording).isNotFound = true ↔ number ∈ absentNumbers := by
  show (kindOf number == .notFound) = true ↔ _
  unfold kindOf
  split_ifs with hAbsent <;> simp [hAbsent]

theorem isDenied_fault_iff : (fault number wording).isDenied = true ↔ number ∈ deniedNumbers := by
  show (kindOf number == .denied) = true ↔ _
  unfold kindOf
  split_ifs with hAbsent hDenied
  · -- no number says both
    have hNot : ∀ n ∈ absentNumbers, n ∉ deniedNumbers := by decide
    simp [hNot number hAbsent]
  · simp [hDenied]
  · simp [hDenied]

/-- A key that is refused with a number of Windows is passed over for the numbers that say that it
is missing or may not be opened, and for no others. -/
theorem openKey_isPassedOver_fault :
    (Operation.openKey parent path).isPassedOver (fault number wording) = true ↔
      number ∈ absentNumbers ∨ number ∈ deniedNumbers := by
  rw [Operation.isPassedOver, Bool.or_eq_true, isNotFound_fault_iff, isDenied_fault_iff]

/-- A value is passed over only for those that say that it is missing. -/
theorem readValue_isPassedOver_fault :
    (Operation.readValue parent name).isPassedOver (fault number wording) = true ↔
      number ∈ absentNumbers :=
  isNotFound_fault_iff number wording

end Numbers

/-! ## Reports -/

/-- **The displays are all there or there are none.** If no operation fails, the report lists the
instances that are attached and described, each with its description as it is, and as no name is
listed twice in a key it lists them once, in the order of the monitors and of the names of their
instances. If an operation fails, the first that does is the failure of the report, with the number
that the system gave for it, if it gave one. A refusal of Windows is no failure if its number says
that something is missing or, for a key, that it may not be opened. -/
theorem displays_of_operations (registry : Registry Key) :
    ((∀ operation ∈ registry.displayOperations, operation.failure? registry = none) →
      ∃ attached : List Attachment, registry.displays = .ok (attached.map Attachment.display) ∧
        (NamesOnce registry →
          attached.Pairwise fun a b => Prod.Lex (· < ·) (· < ·) a.place b.place) ∧
        ∀ attachment, attachment ∈ attached ↔ IsAttached registry attachment) ∧
    (∀ before operation after fault, registry.displayOperations = before ++ operation :: after →
      (∀ earlier ∈ before, earlier.failure? registry = none) →
      operation.failure? registry = some fault →
      registry.displays =
        .error (.nativeQuery operation.query (fault.number?.getD (-1)) fault.text)) ∧
    ∀ number wording parent name,
      ((Operation.openKey parent name : Operation Key).isPassedOver (fault number wording) = true ↔
        number ∈ absentNumbers ∨ number ∈ deniedNumbers) ∧
      ((Operation.readValue parent name : Operation Key).isPassedOver (fault number wording) =
        true ↔ number ∈ absentNumbers) := by
  have hEnds := registry.ends_displays
  refine ⟨?_, ?_, fun number wording parent name =>
    ⟨openKey_isPassedOver_fault parent number wording,
      readValue_isPassedOver_fault parent number wording⟩⟩
  · intro hNone
    -- there is an answer, and what answers say is known
    obtain ⟨found, hFound⟩ := hEnds.exists_eq_ok hNone
    refine ⟨registry.attachments, ?_, pairwise_attachments, fun _ => mem_attachments_iff⟩
    rw [hFound, eq_of_displays_eq_ok hFound]
  · intro before operation after fault hOperations hBefore hFault
    rw [hOperations] at hEnds
    exact hEnds.eq_error hBefore hFault

/-! ## Registries in memory -/

section Memory

variable {root : RegistryKey}

/-- No key in a key has the name of another beside it. -/
inductive WellNamed : RegistryKey → Prop where
  | key (openFault listFault : Option Fault) (values : List (String × RegistryValue))
      {keys : List (String × RegistryKey)} (distinct : (keys.map Prod.fst).Nodup)
      (inside : ∀ name inner, (name, inner) ∈ keys → WellNamed inner) :
      WellNamed (.key openFault listFault values keys)

theorem wellNamed_key_iff {openFault listFault : Option Fault}
    {values : List (String × RegistryValue)} {keys : List (String × RegistryKey)} :
    WellNamed (.key openFault listFault values keys) ↔
      (keys.map Prod.fst).Nodup ∧ ∀ entry ∈ keys, WellNamed entry.2 := by
  constructor
  · rintro @⟨_, _, _, _, hDistinct, hInside⟩
    exact ⟨hDistinct, fun entry hEntry => hInside entry.1 entry.2 hEntry⟩
  · rintro ⟨hDistinct, hInside⟩
    exact .key _ _ _ hDistinct fun name inner hEntry => hInside (name, inner) hEntry

/-- A key on a path through a registry in memory is as well named as the registry. -/
theorem WellNamed.of_openPath {key inner : RegistryKey} {path : List String} (h : WellNamed key)
    (hOpened : key.openPath path = .ok inner) : WellNamed inner := by
  induction path generalizing key with
  | nil =>
    rw [RegistryKey.openPath] at hOpened
    obtain rfl := Except.ok.inj hOpened
    exact h
  | cons name rest ih =>
    obtain @⟨_, _, _, keys, -, hInside⟩ := h
    rw [RegistryKey.openPath] at hOpened
    split at hOpened
    · exact absurd hOpened (by simp)
    · exact absurd hOpened (by simp)
    · rename_i hFound
      exact ih (hInside name _ (mem_of_lookup_eq_some hFound)) hOpened

/-- A registry in memory lists no name twice if no key in a key has the name of another. -/
theorem WellNamed.namesOnce (h : WellNamed root) : NamesOnce root.asRegistry := by
  intro key hOpen names hNames
  have hKey : WellNamed key := by
    clear hNames
    induction hOpen with
    | root => exact h
    | subkey _ hOpened ih => exact ih.of_openPath hOpened
  obtain @⟨_, listFault, _, keys, hDistinct, -⟩ := hKey
  cases listFault with
  | some fault => exact absurd hNames (by simp [RegistryKey.asRegistry, RegistryKey.names])
  | none =>
    obtain rfl := Except.ok.inj hNames
    exact hDistinct

theorem sortedKeys_of_names {key : RegistryKey} {names : List String}
    (hNames : key.names = .ok names) (h : names.Pairwise (· ≤ ·)) :
    root.asRegistry.sortedKeys key = .ok names := by
  have hListed : root.asRegistry.subkeyNames key = .ok names := hNames
  rw [sortedKeys, hListed]
  exact congrArg Except.ok (List.mergeSort_of_pairwise (h.imp fun {_ _} hLe => decide_eq_true hLe))

end Memory

/-! ## A panel and a monitor that may not be looked at -/

/-- A registry with nothing but the key with the monitors and the way to it. -/
def displayRegistry (monitors : RegistryKey) : RegistryKey :=
  (RegistryKey.pathOf displayPath).foldr (fun name key => .key none none [] [(name, key)]) monitors

/-- What reading bytes as a text fails with. -/
def badFileType : Fault :=
  fault 222 "The file type being saved or retrieved has been blocked."

/-- The key of an instance with a description. -/
def instanceKey (others : List (String × RegistryKey)) : RegistryKey :=
  .key none none []
    (("Device Parameters", .key none none [("EDID", .bytes [0, 255] badFileType)] []) :: others)

/-- A monitor with an instance that is attached and one that was once. -/
def panelKey : RegistryKey :=
  .key none none [] [("4&1", instanceKey [("Control", .empty)]), ("5&1", instanceKey [])]

/-- A monitor whose key is refused, and one with instances. -/
def panelMonitors (refusal : Fault) : RegistryKey :=
  .key none none [] [("BOE0900", .key (some refusal) none [] []), ("LGD05E5", panelKey)]

/-- The refusal of a key that may not be opened. -/
def accessDenied : Fault := fault 5 "Access is denied."

/-- A failure whose number stands for such a refusal elsewhere. -/
def invalidData : Fault := fault 13 "The data is invalid."

/-- A failure to list. -/
def moreData : Fault := fault 234 "More data is available."

/-- Monitors that cannot be listed. -/
def unlistedMonitors : RegistryKey := .key none (some moreData) [] []

section Panel

variable {root : RegistryKey} (refusal : Fault)

theorem sortedKeys_panelMonitors :
    root.asRegistry.sortedKeys (panelMonitors refusal) = .ok ["BOE0900", "LGD05E5"] :=
  sortedKeys_of_names rfl (by decide)

theorem sortedKeys_panelKey : root.asRegistry.sortedKeys panelKey = .ok ["4&1", "5&1"] :=
  sortedKeys_of_names rfl (by decide)

theorem monitorOperations_panelMonitors :
    root.asRegistry.monitorOperations (panelMonitors refusal) "LGD05E5" =
      .openKey (panelMonitors refusal) "LGD05E5" :: .listKeys panelKey ::
        (root.asRegistry.ifOpened panelKey "4&1" root.asRegistry.edidOperations ++
          root.asRegistry.ifOpened panelKey "5&1" root.asRegistry.edidOperations) := by
  have hOpened : root.asRegistry.subkey (panelMonitors refusal) "LGD05E5" = .ok panelKey := rfl
  rw [monitorOperations, ifOpened, hOpened]
  dsimp only
  rw [forEachKey, sortedKeys_panelKey]
  dsimp only
  rw [List.flatMap_cons, List.flatMap_cons, List.flatMap_nil, List.append_nil]

/-- The operations go on after the key that is refused. -/
theorem displayOperations_panelMonitors :
    (displayRegistry (panelMonitors refusal)).asRegistry.displayOperations =
      [.openKey (displayRegistry (panelMonitors refusal)) displayPath,
        .listKeys (panelMonitors refusal)] ++
      .openKey (panelMonitors refusal) "BOE0900" ::
        (displayRegistry (panelMonitors refusal)).asRegistry.monitorOperations
          (panelMonitors refusal) "LGD05E5" := by
  have hOpened : (displayRegistry (panelMonitors refusal)).asRegistry.subkey
      (displayRegistry (panelMonitors refusal)) displayPath = .ok (panelMonitors refusal) := rfl
  have hRefused : (displayRegistry (panelMonitors refusal)).asRegistry.subkey
      (panelMonitors refusal) "BOE0900" = .error refusal := rfl
  rw [displayOperations, ifOpened]
  rw [show (displayRegistry (panelMonitors refusal)).asRegistry.root =
    displayRegistry (panelMonitors refusal) from rfl, hOpened]
  dsimp only
  rw [forEachKey, sortedKeys_panelMonitors]
  dsimp only
  rw [List.flatMap_cons, List.flatMap_cons, List.flatMap_nil, List.append_nil]
  -- the key that is refused adds its opening and no more
  nth_rewrite 1 [monitorOperations]
  rw [ifOpened, hRefused]
  rfl

/-- No operation fails if the key of one monitor may not be opened. -/
theorem failure?_panelMonitors :
    ∀ operation ∈ (displayRegistry (panelMonitors accessDenied)).asRegistry.displayOperations,
      operation.failure? (displayRegistry (panelMonitors accessDenied)).asRegistry = none := by
  rw [displayOperations_panelMonitors, monitorOperations_panelMonitors]
  have hDone : ∀ operations : List (Operation RegistryKey), operations.all (fun operation =>
      (operation.failure? (displayRegistry (panelMonitors accessDenied)).asRegistry).isNone) =
        true → ∀ operation ∈ operations,
          operation.failure? (displayRegistry (panelMonitors accessDenied)).asRegistry = none := by
    simp
  exact hDone _ rfl

theorem namesOnce_panelMonitors :
    NamesOnce (displayRegistry (panelMonitors refusal)).asRegistry := by
  have hPath : RegistryKey.pathOf displayPath =
      ["SYSTEM", "CurrentControlSet", "Enum", "DISPLAY"] := rfl
  refine WellNamed.namesOnce ?_
  simp [displayRegistry, hPath, panelMonitors, panelKey, instanceKey,
    RegistryKey.empty, wellNamed_key_iff]

/-- A monitor that may not be looked at does not keep the panel from being reported. One whose key
fails to open for another cause does, and so does a listing that fails. -/
theorem displays_of_operations_panelMonitors :
    (∀ operation ∈ (displayRegistry (panelMonitors accessDenied)).asRegistry.displayOperations,
      operation.failure? (displayRegistry (panelMonitors accessDenied)).asRegistry = none) ∧
    NamesOnce (displayRegistry (panelMonitors accessDenied)).asRegistry ∧
    (∃ attached : List Attachment,
      (displayRegistry (panelMonitors accessDenied)).asRegistry.displays =
        .ok (attached.map Attachment.display) ∧
      (attached.Pairwise fun a b => Prod.Lex (· < ·) (· < ·) a.place b.place) ∧
      ⟨"LGD05E5", "4&1", [0, 255]⟩ ∈ attached) ∧
    (displayRegistry (panelMonitors invalidData)).asRegistry.displays =
      .error (.nativeQuery "registry BOE0900" 13 "The data is invalid. (os error 13)") ∧
    (displayRegistry unlistedMonitors).asRegistry.displays =
      .error (.nativeQuery "registry subkeys" 234 "More data is available. (os error 234)") := by
  refine ⟨failure?_panelMonitors, namesOnce_panelMonitors _, ?attached, ?opening, ?listing⟩
  case attached =>
    obtain ⟨attached, hAttached, hOrder, hMem⟩ :=
      (displays_of_operations _).1 failure?_panelMonitors
    refine ⟨attached, hAttached, hOrder (namesOnce_panelMonitors _), (hMem _).mpr ?_⟩
    -- the keys on the way to the description of the panel
    have hOpened : (displayRegistry (panelMonitors accessDenied)).asRegistry.subkey
        (displayRegistry (panelMonitors accessDenied)) displayPath =
          .ok (panelMonitors accessDenied) := rfl
    exact .intro hOpened ⟨⟨_, rfl, by simp⟩, rfl⟩ ⟨⟨_, rfl, by simp⟩, rfl⟩ rfl rfl rfl
  case opening =>
    refine (displays_of_operations _).2.1 _ _ _ invalidData
      (displayOperations_panelMonitors invalidData) ?_ rfl
    intro earlier hEarlier
    rcases List.mem_pair.mp hEarlier with rfl | rfl <;> rfl
  case listing =>
    refine (displays_of_operations _).2.1
      [.openKey (displayRegistry unlistedMonitors) displayPath] (.listKeys unlistedMonitors) []
      moreData rfl ?_ rfl
    intro earlier hEarlier
    obtain rfl := List.mem_singleton.mp hEarlier
    rfl

end Panel

end HardwareReport.Windows.Registry
