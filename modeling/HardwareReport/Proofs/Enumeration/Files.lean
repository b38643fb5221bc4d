import HardwareReport.Linux.Devices
import HardwareReport.Linux.Sound
import HardwareReport.Linux.Usb
import HardwareReport.Proofs.Enumeration.Entries
import HardwareReport.Proofs.Text.ByteOrder

/-!
# Enumerations — files in another order

The system yields the entries of a directory in an order of its own. What is read at a path does not
depend on it, and names are put in order before anything is made of them. All that is reported from
the tree is made of these two, so it comes out the same: which of several descriptions of a codec is
taken, and which of several failures is the one reported.

* `FileTree.Node.Reordered` — two trees that differ in the order of entries only;
* `Reordered.readBytes_eq`, `Reordered.sortedNames_eq` — what is read, and what is listed;
* `Reordered.usbRecords_eq` and so on — what is made of it.
-/

namespace HardwareReport

namespace FileTree.Node

/-- Two trees are the same but for the order in which the system yields the entries of directories,
in which no name stands twice. -/
inductive Reordered : Node → Node → Prop where
  | file (content : Except Fault ByteArray) : Reordered (.file content) (.file content)
  | directory (refusal : Option Fault) {entries others : List (String × Node)}
      (distinct : (entries.map Prod.fst).Nodup)
      (names : (entries.map Prod.fst).Perm (others.map Prod.fst))
      (inside : ∀ name a b, (name, a) ∈ entries → (name, b) ∈ others → Reordered a b) :
      Reordered (.directory refusal entries) (.directory refusal others)

namespace Reordered

variable {tree other : Node}

theorem of_sameEntries {entries others : List (String × Node)}
    (h : SameEntries Reordered entries others) (refusal : Option Fault) :
    Reordered (.directory refusal entries) (.directory refusal others) :=
  .directory refusal h.distinct h.names h.inside

/-! ## Reading -/

/-- A path leads to nothing in both trees, for the same cause, or to parts that differ in the order
of entries only. -/
theorem lookup (h : Reordered tree other) (path : Path) :
    Answer.Alike Reordered (tree.lookup path) (other.lookup path) := by
  induction path generalizing tree other with
  | nil =>
    rw [Node.lookup, Node.lookup]
    exact .ok h
  | cons name rest ih =>
    cases h with
    | file content => exact .error Fault.notADirectory
    | @directory _ entries others hDistinct hNames hInside =>
      -- one step of the path; the entries of its name are where the induction goes on
      have hFound := (SameEntries.mk hDistinct hNames hInside).lookup name
      rw [Node.lookup, Node.lookup]
      generalize entries.lookup name = found at hFound ⊢
      generalize others.lookup name = foundOther at hFound ⊢
      cases hFound with
      | none => exact .error Fault.notFound
      | some hChild => exact ih hChild

section

variable (h : Reordered tree other) (path : Path)
include h

theorem readBytes_eq : tree.readBytes path = other.readBytes path := by
  have hFound := h.lookup path
  rw [readBytes, readBytes]
  generalize tree.lookup path = found at hFound ⊢
  generalize other.lookup path = foundOther at hFound ⊢
  cases hFound with
  | error fault => rfl
  | ok hNode => cases hNode <;> rfl

theorem readText_eq : tree.readText path = other.readText path := by
  rw [readText, readText, h.readBytes_eq]

/-- The same names are yielded. -/
theorem names_alike : Answer.Alike List.Perm (tree.names path) (other.names path) := by
  have hFound := h.lookup path
  rw [names, names]
  generalize tree.lookup path = found at hFound ⊢
  generalize other.lookup path = foundOther at hFound ⊢
  cases hFound with
  | error fault => exact .error fault
  | ok hNode =>
    cases hNode with
    | file content => exact .error Fault.notADirectory
    | directory refusal _ hNames _ =>
      cases refusal with
      | some fault => exact .error fault
      | none => exact .ok hNames

/-! ## Attributes and listings -/

theorem readAttribute_eq : Linux.readAttribute tree path = Linux.readAttribute other path := by
  rw [Linux.readAttribute, Linux.readAttribute, h.readText_eq]

theorem attributeText_eq : Linux.attributeText tree path = Linux.attributeText other path := by
  rw [Linux.attributeText, Linux.attributeText, h.readAttribute_eq]

/-- **Names are listed in one order.** -/
theorem sortedNames_eq : Linux.sortedNames tree path = Linux.sortedNames other path := by
  have hListed := h.names_alike path
  rw [Linux.sortedNames, Linux.sortedNames]
  generalize tree.names path = listed at hListed ⊢
  generalize other.names path = listedOther at hListed ⊢
  cases hListed with
  | error fault => rfl
  | ok hNames =>
    -- there is one way to put the same names in order
    exact congrArg Except.ok
      (Text.mergeSort_eq_of_perm (fun name => name) hNames fun _ _ _ _ hSame => hSame)

end

/-! ## Reports -/

section

variable (h : Reordered tree other) (root : Path)
include h

theorem usbRecords_eq : Linux.usbRecords tree root = Linux.usbRecords other root := by
  have hRecord : Linux.usbRecord tree root = Linux.usbRecord other root := by
    funext id
    simp only [Linux.usbRecord, h.attributeText_eq, h.readAttribute_eq]
  rw [Linux.usbRecords, Linux.usbRecords, h.sortedNames_eq, hRecord]

theorem displays_eq : Linux.displays tree root = Linux.displays other root := by
  have hDisplay : Linux.connectorDisplay? tree root = Linux.connectorDisplay? other root := by
    funext connector
    rw [Linux.connectorDisplay?, Linux.connectorDisplay?, h.readBytes_eq]
  rw [Linux.displays, Linux.displays, h.sortedNames_eq, hDisplay]

theorem fanSpeeds_eq : Linux.fanSpeeds tree root = Linux.fanSpeeds other root := by
  have hAwake : ∀ device, Linux.isAwake tree device = Linux.isAwake other device := fun device => by
    rw [Linux.isAwake, Linux.isAwake, h.readText_eq]
  have hSpeed : Linux.fanSpeed? tree = Linux.fanSpeed? other := by
    funext path
    rw [Linux.fanSpeed?, Linux.fanSpeed?, h.readAttribute_eq]
  have hChip : Linux.chipFans tree = Linux.chipFans other := by
    funext chip
    rw [Linux.chipFans, Linux.chipFans, hAwake, hSpeed, h.sortedNames_eq]
  rw [Linux.fanSpeeds, Linux.fanSpeeds, h.sortedNames_eq, hChip]

/-- The first of the files that names a codec is the same. -/
theorem firstCodec_eq (directory : Path) (names : List String) :
    Linux.firstCodec tree directory names = Linux.firstCodec other directory names := by
  induction names with
  | nil => rfl
  | cons name rest ih => rw [Linux.firstCodec, Linux.firstCodec, h.readAttribute_eq, ih]

theorem soundCards_eq : Linux.soundCards tree root = Linux.soundCards other root := by
  have hCodec : Linux.asoundCodec tree = Linux.asoundCodec other := by
    funext directory
    simp only [Linux.asoundCodec, h.sortedNames_eq, h.firstCodec_eq]
  have hCard : Linux.reportCard tree root = Linux.reportCard other root := by
    funext driverVersion card
    rw [Linux.reportCard, Linux.reportCard, hCodec]
  rw [Linux.soundCards, Linux.soundCards, h.readAttribute_eq, h.attributeText_eq, hCard]

end

end Reordered

end FileTree.Node

end HardwareReport
