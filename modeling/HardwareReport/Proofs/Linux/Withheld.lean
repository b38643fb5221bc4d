import HardwareReport.Linux.Layer
import HardwareReport.Proofs.Linux.Usb

/-!
# Linux — attributes that may not be read

The kernel shows some attributes to privileged users only. What a machine reports does not tell such
an attribute from one that is not there: with the files that may not be read removed from the
directory tree every answer is the same, and so is every failure.

For most attributes it is one read that comes to the same. The files with the speeds of fans and
those that describe codecs are listed besides, so they are missing from a list after the removal;
what is missing there is what was passed over before.

* `Attribute` — the files that are consulted for what the tree tells of devices;
* `Absent` — nothing can be read at a path, as if nothing were there;
* `TreeAnswers` — all answers that are made of attributes.

Main result: `withheld_as_absent` — the answers without the files that may not be read.
-/

namespace HardwareReport.Linux

open FileTree

/-! ## Attributes -/

/-- The values from the tables of the firmware that are asked for. -/
def dmiNames : List String :=
  ["sys_vendor", "product_name", "product_version", "product_serial", "bios_vendor",
    "bios_version", "bios_date"]

/-- The attributes of a USB device that are asked for. -/
def usbAttributeNames : List String :=
  ["manufacturer", "product", "idVendor", "idProduct", "serial"]

/-- The files that are consulted for the identity of the machine, its USB devices, displays, sound
cards and fans. -/
inductive Attribute : Path → Prop where
  | dmi {name : String} (known : name ∈ dmiNames) : Attribute (dmiRoot ++ [name])
  | usb (id : String) {name : String} (known : name ∈ usbAttributeNames) :
      Attribute (usbDirectory ++ [id, name])
  | edid (connector : String) : Attribute (connectorDirectory ++ [connector, "edid"])
  | cards : Attribute (soundDirectory ++ ["cards"])
  | version : Attribute (soundDirectory ++ ["version"])
  | codec (index : UInt32) {name : String} (known : isCodecFile name = true) :
      Attribute (cardDirectory index ++ [name])
  | fan (chip : String) {name : String} (known : isFanInput name = true) :
      Attribute (chipDirectory ++ [chip, name])
  | powerState (chip : String) : Attribute (chipDirectory ++ [chip, "device", "power_state"])

theorem cardName_ne_cards (index : UInt32) : "card" ++ toString index.toNat ≠ "cards" := by
  intro hSame
  -- the number would have to be the letter at the end
  have hNumber : toString index.toNat = "s" := (String.append_right_inj "card").mp hSame
  have hMem : 's' ∈ Nat.toDigits 10 index.toNat := by
    rw [← Nat.toList_repr]
    exact (congrArg String.toList hNumber) ▸ List.mem_singleton.mpr rfl
  exact absurd (Nat.isDigit_of_mem_toDigits (by decide) (by decide) hMem) (by decide)

theorem cardName_ne_version (index : UInt32) : "card" ++ toString index.toNat ≠ "version" := by
  intro hSame
  have hList := congrArg String.toList hSame
  rw [String.toList_append] at hList
  exact absurd (List.cons.inj hList).1 (by decide)

/-- **No attribute lies below another.** -/
theorem Attribute.eq_of_prefix {path other : Path} (h : Attribute path) (hOther : Attribute other)
    (hPrefix : path <+: other) : path = other := by
  -- the names on the way tell most kinds apart
  cases h <;> cases hOther <;>
    simp_all [dmiRoot, usbDirectory, connectorDirectory, chipDirectory, soundDirectory,
      cardDirectory]
  case cards.codec index _ _ => exact absurd hPrefix.symm (cardName_ne_cards index)
  case version.codec index _ _ => exact absurd hPrefix.symm (cardName_ne_version index)
  case fan.powerState known =>
    -- the directory of a chip's device is no fan
    exact absurd known (by decide)

/-- Nothing on the way to an attribute is at or below another one. -/
theorem Attribute.not_prefix {removed : Path} (h : Attribute removed) (front rest : Path)
    (hAttribute : Attribute (front ++ rest)) (hRest : rest ≠ []) : ¬ removed <+: front := by
  intro hPrefix
  have hSame := h.eq_of_prefix hAttribute (hPrefix.trans (List.prefix_append front rest))
  have hLength := hPrefix.length_le
  have hPositive := List.length_pos_of_ne_nil hRest
  rw [hSame, List.length_append] at hLength
  omega

theorem Attribute.ne_nil {path : Path} (h : Attribute path) : path ≠ [] := by
  rintro rfl
  exact h.not_prefix [] _ .cards (by decide) List.nil_prefix

/-! ## Absent attributes -/

/-- What is at a path cannot be read, for the reason that it is not there or may not be read. -/
def Absent (tree : Node) (path : Path) : Prop :=
  ∃ fault, tree.readBytes path = .error fault ∧ isAbsence fault = true

/-- The same is read at a path in two trees, or nothing in either. -/
def ReadAlike (tree other : Node) (path : Path) : Prop :=
  other.readBytes path = tree.readBytes path ∨ Absent tree path ∧ Absent other path

section

variable {tree other : Node} {path : Path}

theorem Absent.readText (h : Absent tree path) :
    ∃ fault, tree.readText path = .error fault ∧ isAbsence fault = true := by
  obtain ⟨fault, hRead, hAbsence⟩ := h
  refine ⟨fault, ?_, hAbsence⟩
  rw [Node.readText, hRead]
  rfl

theorem Absent.readAttribute (h : Absent tree path) : readAttribute tree path = .ok none := by
  obtain ⟨fault, hRead, hAbsence⟩ := h.readText
  simp only [Linux.readAttribute, hRead, hAbsence, if_true]

theorem Absent.fanSpeed? (h : Absent tree path) : fanSpeed? tree path = none := by
  rw [Linux.fanSpeed?, h.readAttribute]

theorem Absent.isAwake {device : Path} (h : Absent tree (device ++ ["power_state"])) :
    isAwake tree device = true := by
  obtain ⟨fault, hRead, -⟩ := h.readText
  rw [Linux.isAwake, hRead]

theorem Absent.connectorDisplay? {root : Path} {connector : String}
    (h : Absent tree (root ++ [connector, "edid"])) :
    connectorDisplay? tree root connector = .ok none := by
  obtain ⟨fault, hRead, hAbsence⟩ := h
  simp only [Linux.connectorDisplay?, hRead, hAbsence, if_true]

theorem ReadAlike.readText_cases (h : ReadAlike tree other path) :
    other.readText path = tree.readText path ∨ Absent tree path ∧ Absent other path := by
  refine h.imp_left fun hSame => ?_
  rw [Node.readText, Node.readText, hSame]

theorem ReadAlike.readAttribute_eq (h : ReadAlike tree other path) :
    readAttribute other path = readAttribute tree path := by
  rcases h.readText_cases with hSame | ⟨hTree, hOther⟩
  · rw [readAttribute, readAttribute, hSame]
  · rw [hTree.readAttribute, hOther.readAttribute]

theorem ReadAlike.attributeText_eq (h : ReadAlike tree other path) :
    attributeText other path = attributeText tree path := by
  rw [attributeText, attributeText, h.readAttribute_eq]

theorem ReadAlike.fanSpeed?_eq (h : ReadAlike tree other path) :
    fanSpeed? other path = fanSpeed? tree path := by
  rw [fanSpeed?, fanSpeed?, h.readAttribute_eq]

theorem ReadAlike.isAwake_eq {device : Path}
    (h : ReadAlike tree other (device ++ ["power_state"])) :
    isAwake other device = isAwake tree device := by
  rcases h.readText_cases with hSame | ⟨hTree, hOther⟩
  · rw [isAwake, isAwake, hSame]
  · rw [hTree.isAwake, hOther.isAwake]

theorem ReadAlike.connectorDisplay?_eq {root : Path} {connector : String}
    (h : ReadAlike tree other (root ++ [connector, "edid"])) :
    connectorDisplay? other root connector = connectorDisplay? tree root connector := by
  rcases h with hSame | ⟨hTree, hOther⟩
  · rw [connectorDisplay?, connectorDisplay?, hSame]
  · rw [hTree.connectorDisplay?, hOther.connectorDisplay?]

end

/-! ## One removal -/

/-- Elements that come to nothing may be left out of a list. -/
theorem filterMap_filter_eq {α β : Type} {list : List α} {keep : α → Bool} {f g : α → Option β}
    (hGone : ∀ a ∈ list, keep a = false → f a = none)
    (hKept : ∀ a ∈ list, keep a = true → g a = f a) :
    (list.filter keep).filterMap g = list.filterMap f := by
  induction list with
  | nil => rfl
  | cons first rest ih =>
    rw [List.forall_mem_cons] at hGone hKept
    have hRest := ih hGone.2 hKept.2
    cases hKeep : keep first with
    | true =>
      simp only [List.filter_cons, hKeep, if_true, List.filterMap_cons, hKept.1 hKeep, hRest]
    | false => simp [hKeep, hGone.1 hKeep, hRest]

section Removal

variable {tree : Node} {removed : Path} (hRemoved : Attribute removed)
  (hAbsent : Absent tree removed)
include hRemoved hAbsent

theorem readAlike_remove {path : Path} (h : Attribute path) :
    ReadAlike tree (tree.remove removed) path := by
  by_cases hSame : path = removed
  · subst hSame
    refine .inr ⟨hAbsent, ?_⟩
    rcases tree.readBytes_remove_self hRemoved.ne_nil with hGone | hLeft
    · exact ⟨.notFound, hGone, by decide⟩
    · obtain ⟨fault, hRead, hAbsence⟩ := hAbsent
      exact ⟨fault, hLeft.trans hRead, hAbsence⟩
  · exact .inl (tree.readBytes_remove fun hPrefix => hSame (hRemoved.eq_of_prefix h hPrefix).symm)

/-- Attributes stay absent. -/
theorem absent_remove {path : Path} (h : Attribute path) (hPath : Absent tree path) :
    Absent (tree.remove removed) path := by
  rcases readAlike_remove hRemoved hAbsent h with hSame | ⟨-, hOther⟩
  · obtain ⟨fault, hRead, hAbsence⟩ := hPath
    exact ⟨fault, hSame.trans hRead, hAbsence⟩
  · exact hOther

theorem dmi_remove (name : String) (h : name ∈ dmiNames) :
    dmi (tree.remove removed) name = dmi tree name :=
  (readAlike_remove hRemoved hAbsent (.dmi h)).readAttribute_eq

theorem model_remove : model (tree.remove removed) = model tree := by
  have hName := dmi_remove hRemoved hAbsent "product_name" (by decide)
  have hVersion := dmi_remove hRemoved hAbsent "product_version" (by decide)
  rw [model, model, hName, hVersion]

theorem firmware_remove : firmware (tree.remove removed) = firmware tree := by
  have hVendor := dmi_remove hRemoved hAbsent "bios_vendor" (by decide)
  have hVersion := dmi_remove hRemoved hAbsent "bios_version" (by decide)
  have hDate := dmi_remove hRemoved hAbsent "bios_date" (by decide)
  rw [firmware, firmware, hVendor, hVersion, hDate]

/-- No device is lost by a file that may not be read. -/
theorem usbRecords_remove :
    usbRecords (tree.remove removed) usbDirectory = usbRecords tree usbDirectory := by
  have hNames : sortedNames (tree.remove removed) usbDirectory = sortedNames tree usbDirectory :=
    sortedNames_remove_eq tree fun id =>
      hRemoved.not_prefix _ ["serial"] (.usb id (by decide)) (by simp)
  -- every attribute that a record is made of reads alike
  have hRecord : usbRecord (tree.remove removed) usbDirectory = usbRecord tree usbDirectory := by
    funext id
    have hText : ∀ {name}, name ∈ usbAttributeNames →
        attributeText (tree.remove removed) (usbDirectory ++ [id, name]) =
          attributeText tree (usbDirectory ++ [id, name]) := fun h =>
      (readAlike_remove hRemoved hAbsent (.usb id h)).attributeText_eq
    have hProduct : readAttribute (tree.remove removed) (usbDirectory ++ [id, "product"]) =
        readAttribute tree (usbDirectory ++ [id, "product"]) :=
      (readAlike_remove hRemoved hAbsent (.usb id (by decide))).readAttribute_eq
    rw [usbRecord, usbRecord, hText (by decide), hProduct, hText (by decide), hText (by decide),
      hText (by decide)]
  rw [usbRecords, usbRecords, hNames, hRecord]

theorem displays_remove :
    displays (tree.remove removed) connectorDirectory = displays tree connectorDirectory := by
  have hNames : sortedNames (tree.remove removed) connectorDirectory =
      sortedNames tree connectorDirectory :=
    sortedNames_remove_eq tree fun connector =>
      hRemoved.not_prefix _ ["edid"] (.edid connector) (by simp)
  have hDisplay : connectorDisplay? (tree.remove removed) connectorDirectory =
      connectorDisplay? tree connectorDirectory := by
    funext connector
    exact (readAlike_remove hRemoved hAbsent (.edid connector)).connectorDisplay?_eq
  rw [displays, displays, hNames, hDisplay]

/-- The file with the speed of a fan that is missing from the list was passed over before. -/
theorem chipFans_remove (name : String) :
    chipFans (tree.remove removed) (chipDirectory ++ [name]) =
      chipFans tree (chipDirectory ++ [name]) := by
  set chip := chipDirectory ++ [name] with hChip
  have hAwake : isAwake (tree.remove removed) (chip ++ ["device"]) =
      isAwake tree (chip ++ ["device"]) :=
    ReadAlike.isAwake_eq (readAlike_remove hRemoved hAbsent (.powerState name))
  have hNames := sortedNames_remove tree
    (hRemoved.not_prefix chip ["fan_input"] (.fan name (by decide)) (by simp))
  -- a fan that is withheld has no speed, so it may be missing among the names
  have hSpeeds : ∀ names : List String,
      ((names.filter fun file => chip ++ [file] != removed).filter isFanInput).filterMap
        (fun file => fanSpeed? (tree.remove removed) (chip ++ [file])) =
      (names.filter isFanInput).filterMap fun file => fanSpeed? tree (chip ++ [file]) := by
    intro names
    rw [List.filter_comm]
    refine filterMap_filter_eq (fun file hFile hGone => ?_) fun file hFile _ => ?_
    · have hSame : chip ++ [file] = removed := by simpa using hGone
      rw [hSame, hAbsent.fanSpeed?]
    · have hFan := (List.mem_filter.mp hFile).2
      exact (readAlike_remove hRemoved hAbsent (.fan name hFan)).fanSpeed?_eq
  rw [chipFans, chipFans, hAwake, hNames]
  split
  · cases sortedNames tree chip with
    | error error => rfl
    | ok names => exact congrArg Except.ok (hSpeeds names)
  · rfl

theorem fanSpeeds_remove :
    fanSpeeds (tree.remove removed) chipDirectory = fanSpeeds tree chipDirectory := by
  have hNames : sortedNames (tree.remove removed) chipDirectory =
      sortedNames tree chipDirectory :=
    sortedNames_remove_eq tree fun chip =>
      hRemoved.not_prefix _ ["fan_input"] (.fan chip (by decide)) (by simp)
  rw [fanSpeeds, fanSpeeds, hNames]
  simp only [chipFans_remove hRemoved hAbsent]

/-- The description of a codec that is missing from the list was passed over before. -/
theorem firstCodec_filter (index : UInt32) {names : List String}
    (hNames : ∀ name ∈ names, isCodecFile name = true) :
    firstCodec (tree.remove removed) (cardDirectory index)
        (names.filter fun name => cardDirectory index ++ [name] != removed) =
      firstCodec tree (cardDirectory index) names := by
  induction names with
  | nil => rfl
  | cons name rest ih =>
    obtain ⟨hName, hRest⟩ := List.forall_mem_cons.mp hNames
    have hAlike := readAlike_remove hRemoved hAbsent (.codec index hName)
    -- the file that is gone could not be read either
    by_cases hGone : cardDirectory index ++ [name] = removed
    · rw [List.filter_cons_of_neg (by simp [hGone]), ih hRest, firstCodec, hGone,
        hAbsent.readAttribute]
      rfl
    · rw [List.filter_cons_of_pos (by simpa using hGone), firstCodec, firstCodec,
        hAlike.readAttribute_eq, ih hRest]

/-- The codec of a card is told by what can be read of its directory. -/
theorem asoundCodec_remove (index : UInt32) :
    asoundCodec (tree.remove removed) (cardDirectory index) =
      asoundCodec tree (cardDirectory index) := by
  have hNames := sortedNames_remove tree
    (hRemoved.not_prefix (cardDirectory index) ["codec#"] (.codec index (by decide)) (by simp))
  rw [asoundCodec, asoundCodec, hNames]
  cases sortedNames tree (cardDirectory index) with
  | error error => rfl
  | ok names =>
    have hCodecs : ∀ name ∈ names.filter isCodecFile, isCodecFile name = true := fun _ hName =>
      (List.mem_filter.mp hName).2
    have hFirst := firstCodec_filter hRemoved hAbsent index hCodecs
    rw [List.filter_comm] at hFirst
    exact hFirst

theorem soundCards_remove :
    soundCards (tree.remove removed) soundDirectory = soundCards tree soundDirectory := by
  have hCards := (readAlike_remove hRemoved hAbsent .cards).readAttribute_eq
  have hVersion := (readAlike_remove hRemoved hAbsent .version).attributeText_eq
  have hCard : reportCard (tree.remove removed) soundDirectory =
      reportCard tree soundDirectory := by
    funext driverVersion card
    have hCodec := asoundCodec_remove hRemoved hAbsent card.index
    rw [cardDirectory] at hCodec
    rw [reportCard, reportCard, hCodec]
  rw [soundCards, soundCards, hCards, hVersion, hCard]

end Removal

/-! ## All answers -/

/-- What a Linux machine answers from the attributes in its directory tree. -/
structure TreeAnswers where
  manufacturer : Answer (Option String)
  model : Answer (Option String)
  serialNumber : Answer (Option String)
  firmware : Answer Firmware
  usb : Bool → Answer (List UsbDevice)
  displays : Answer (List Display)
  sound : Answer (List SoundCard)
  fanSpeeds : Answer (List UInt32)

/-- The answers of a machine. -/
def treeAnswers (machine : LinuxMachine) : TreeAnswers where
  manufacturer := (layer.system.manufacturer.run.run machine).1
  model := (layer.system.model.run.run machine).1
  serialNumber := (layer.system.serialNumber.run.run machine).1
  firmware := (layer.system.firmware.run.run machine).1
  usb tree := ((layer.usb tree).run.run machine).1
  displays := (layer.displays.run.run machine).1
  sound := (layer.sound.run.run machine).1
  fanSpeeds := (layer.sensors.fanSpeeds.run.run machine).1

/-- A machine without the files at some paths. -/
def withoutFiles (machine : LinuxMachine) (paths : List Path) : LinuxMachine :=
  { machine with native := paths.foldl Node.remove machine.native }

theorem treeAnswers_eq (machine : LinuxMachine) : treeAnswers machine = {
    manufacturer := dmi machine.native "sys_vendor"
    model := Linux.model machine.native
    serialNumber := dmi machine.native "product_serial"
    firmware := Linux.firmware machine.native
    usb := fun tree => (usbRecords machine.native usbDirectory).map (UsbRecord.devices tree)
    displays := Linux.displays machine.native connectorDirectory
    sound := soundCards machine.native soundDirectory
    fanSpeeds := Linux.fanSpeeds machine.native chipDirectory } :=
  rfl

theorem treeAnswers_remove {machine : LinuxMachine} {removed : Path}
    (hRemoved : Attribute removed) (hAbsent : Absent machine.native removed) :
    treeAnswers (withoutFiles machine [removed]) = treeAnswers machine := by
  have hManufacturer := dmi_remove hRemoved hAbsent "sys_vendor" (by decide)
  have hSerial := dmi_remove hRemoved hAbsent "product_serial" (by decide)
  rw [treeAnswers_eq, treeAnswers_eq, withoutFiles, List.foldl_cons, List.foldl_nil]
  simp only [hManufacturer, hSerial, model_remove hRemoved hAbsent,
    firmware_remove hRemoved hAbsent, usbRecords_remove hRemoved hAbsent,
    displays_remove hRemoved hAbsent, soundCards_remove hRemoved hAbsent,
    fanSpeeds_remove hRemoved hAbsent]

/-- Files are removed one by one, and no answer changes on the way. -/
theorem treeAnswers_withoutFiles {machine : LinuxMachine} {paths : List Path}
    (h : ∀ path ∈ paths, Attribute path ∧ Absent machine.native path) :
    treeAnswers (withoutFiles machine paths) = treeAnswers machine := by
  induction paths generalizing machine with
  | nil => rfl
  | cons removed rest ih =>
    obtain ⟨⟨hRemoved, hAbsent⟩, hRest⟩ := List.forall_mem_cons.mp h
    -- what is to be removed later stays absent
    have hLater : ∀ path ∈ rest, Attribute path ∧ Absent (machine.native.remove removed) path :=
      fun path hPath => ⟨(hRest path hPath).1,
        absent_remove hRemoved hAbsent (hRest path hPath).1 (hRest path hPath).2⟩
    calc treeAnswers (withoutFiles machine (removed :: rest))
        = treeAnswers (withoutFiles (withoutFiles machine [removed]) rest) := rfl
      _ = treeAnswers (withoutFiles machine [removed]) := ih hLater
      _ = treeAnswers machine := treeAnswers_remove hRemoved hAbsent

/-- A file may not be read. -/
def Withheld (tree : Node) (path : Path) : Prop :=
  ∃ fault, tree.readBytes path = .error fault ∧ fault.isDenied = true

theorem Withheld.absent {tree : Node} {path : Path} (h : Withheld tree path) :
    Absent tree path := by
  obtain ⟨fault, hRead, hDenied⟩ := h
  refine ⟨fault, hRead, ?_⟩
  rw [isAbsence, hDenied, Bool.or_true]

/-- **An attribute that may not be read counts as absent**: without any of the files that are
consulted and may not be read a machine gives the same answers, values and failures. -/
theorem withheld_as_absent {machine : LinuxMachine} {paths : List Path}
    (hAttributes : ∀ path ∈ paths, Attribute path)
    (hWithheld : ∀ path ∈ paths, Withheld machine.native path) :
    treeAnswers (withoutFiles machine paths) = treeAnswers machine :=
  treeAnswers_withoutFiles fun path hPath =>
    ⟨hAttributes path hPath, (hWithheld path hPath).absent⟩

/-- A machine that withholds its serial number, the speed of one of its two fans and what describes
one of the codecs of its sound card. -/
def guardedMachine : LinuxMachine where
  native := .directory none [
    ("sys", .directory none [("class", .directory none [
      ("dmi", .directory none [("id", .directory none [
        ("product_serial", .file (.error (.code 13))),
        ("sys_vendor", .file (.ok "Vendor\n".toUTF8))])]),
      ("hwmon", .directory none [("hwmon0", .directory none [
        ("fan1_input", .file (.error (.code 13))),
        ("fan2_input", .file (.ok "1200\n".toUTF8))])])])]),
    ("proc", .directory none [("asound", .directory none [
      ("cards", .file (.ok " 0 [PCH]: HDA-Intel - HDA Intel PCH\n".toUTF8)),
      ("card0", .directory none [
        ("codec#0", .file (.error (.code 1))),
        ("codec#2", .file (.ok "Codec: Realtek\n".toUTF8))])])])]
  host := {}

/-- The files that the machine withholds. -/
def guardedPaths : List Path :=
  [dmiRoot ++ ["product_serial"], chipDirectory ++ ["hwmon0", "fan1_input"],
    cardDirectory 0 ++ ["codec#0"]]

/-- A machine on which a serial number, a fan and a codec are withheld. -/
theorem withheld_as_absent_guardedMachine :
    (∀ path ∈ guardedPaths, Attribute path) ∧
    (∀ path ∈ guardedPaths, Withheld guardedMachine.native path) ∧
    (∀ path ∈ guardedPaths, guardedMachine.native.has path = true ∧
      (withoutFiles guardedMachine guardedPaths).native.has path = false) ∧
    treeAnswers (withoutFiles guardedMachine guardedPaths) = treeAnswers guardedMachine := by
  have hAttributes : ∀ path ∈ guardedPaths, Attribute path := by
    simp only [guardedPaths, List.forall_mem_cons]
    exact ⟨.dmi (by decide), .fan "hwmon0" (by decide), .codec 0 (by decide), by simp⟩
  have hWithheld : ∀ path ∈ guardedPaths, Withheld guardedMachine.native path := by
    simp only [guardedPaths, List.forall_mem_cons]
    exact ⟨⟨.code 13, rfl, by decide⟩, ⟨.code 13, rfl, by decide⟩, ⟨.code 1, rfl, by decide⟩,
      by simp⟩
  exact ⟨hAttributes, hWithheld, by decide, withheld_as_absent hAttributes hWithheld⟩

end HardwareReport.Linux
