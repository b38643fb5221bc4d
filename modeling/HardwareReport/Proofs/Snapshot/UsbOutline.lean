import HardwareReport.Proofs.Text.Line
import HardwareReport.Proofs.Tree.Outline
import HardwareReport.Snapshot.Text

/-!
# Snapshot — the USB section as an outline

In a snapshot's text the USB section is an outline of the forest: a line for each device, indented
by two spaces more than the line of the hub that the device is plugged into. So the text alone tells
how the devices hang together, if no name begins with a space, which would pass for indentation, and
if nothing that is printed holds a line feed.

* `UsbDetails.IsPlain` — details that are printed on one line behind its indentation;
* `UsbDevice.shown` — the lines for devices;
* `UsbDevice.indentation` — how many spaces a line begins with;
* `UsbDevice.readLine` — a line as its indentation and what stands behind it.

Main result: `Snapshot.usb_outline`.
-/

namespace HardwareReport

/-! ## Labels -/

/-- Details that are printed on one line, behind whatever spaces the line begins with. -/
structure UsbDetails.IsPlain (details : UsbDetails) : Prop where
  name_ne_nil : details.name.toList ≠ []
  starts : details.name.toList.head? ≠ some ' '
  name : '\n' ∉ details.name.toList
  vendor : '\n' ∉ details.vendor.toList
  vendorId : '\n' ∉ details.vendorId.toList
  productId : '\n' ∉ details.productId.toList

theorem UsbDetails.isPlain_iff {details : UsbDetails} : details.IsPlain ↔
    details.name.toList ≠ [] ∧ details.name.toList.head? ≠ some ' ' ∧
      '\n' ∉ details.name.toList ∧ '\n' ∉ details.vendor.toList ∧
      '\n' ∉ details.vendorId.toList ∧ '\n' ∉ details.productId.toList := by
  constructor
  · intro h
    exact ⟨h.name_ne_nil, h.starts, h.name, h.vendor, h.vendorId, h.productId⟩
  · rintro ⟨hSome, hStarts, hName, hVendor, hVendorId, hProductId⟩
    exact ⟨hSome, hStarts, hName, hVendor, hVendorId, hProductId⟩

instance (details : UsbDetails) : Decidable details.IsPlain :=
  decidable_of_iff' _ UsbDetails.isPlain_iff

namespace UsbDevice

variable {details : UsbDetails} {devices others : List UsbDevice}

/-- A label begins with the name. -/
theorem exists_label_eq (details : UsbDetails) :
    ∃ rest, (label details).toList = details.name.toList ++ rest := by
  rw [label, String.toList_append, String.toList_append, List.append_assoc]
  exact ⟨_, rfl⟩

/-- A plain device is told on one line. -/
theorem not_mem_label (h : details.IsPlain) : '\n' ∉ (label details).toList := by
  have hVendor : '\n' ∉ (if details.vendor.isEmpty then "" else
      " (" ++ details.vendor ++ ")").toList := by
    split
    · simp
    · simp [h.vendor]
  have hIds : '\n' ∉ (if details.vendorId.isEmpty && details.productId.isEmpty then "" else
      " [" ++ details.vendorId ++ ":" ++ details.productId ++ "]").toList := by
    split
    · simp
    · simp [h.vendorId, h.productId]
  rw [label, String.toList_append, String.toList_append]
  simp only [List.mem_append, not_or]
  exact ⟨⟨h.name, hVendor⟩, hIds⟩

/-- What stands behind the indentation does not begin with a space. -/
theorem head?_label (h : details.IsPlain) :
    ∀ c ∈ (label details).toList.head?, (c == ' ') = false := by
  -- it begins with the name, which is not empty
  obtain ⟨rest, hLabel⟩ := exists_label_eq details
  obtain ⟨first, others, hName⟩ := List.exists_cons_of_ne_nil h.name_ne_nil
  rw [hLabel, hName]
  intro c hc
  obtain rfl := Option.some.inj hc
  rw [beq_eq_false_iff_ne]
  rintro rfl
  exact h.starts (by rw [hName]; rfl)

/-! ## Lines -/

/-- How many spaces a line begins with. -/
def indentation (line : List Char) : Nat :=
  (line.takeWhile (· == ' ')).length

/-- A line as its indentation and what stands behind it. -/
def readLine (line : List Char) : Nat × List Char :=
  (indentation line, line.dropWhile (· == ' '))

/-- The width of the indentation at a depth. -/
def width (depth : Nat) : Nat := 2 * (depth + 1)

theorem strictMono_width : StrictMono width := by
  intro depth deeper h
  rw [width, width]
  omega

/-- A line is read as the width of its indentation and a label. -/
theorem readLine_indented (h : details.IsPlain) (n : Nat) :
    readLine (List.replicate n ' ' ++ (label details).toList) = (n, (label details).toList) := by
  have hRun : ∀ c ∈ List.replicate n ' ', (c == ' ') = true := fun c hc =>
    beq_iff_eq.mpr (List.eq_of_mem_replicate hc)
  rw [readLine, indentation, Text.takeWhile_append_of_stop hRun (head?_label h),
    Text.dropWhile_append_of_stop hRun (head?_label h), List.length_replicate]

/-- The characters of the lines for devices. -/
def shown (devices : List UsbDevice) : List (List Char) :=
  (lines devices).map String.toList

theorem shown_eq (devices : List UsbDevice) :
    shown devices = (Tree.forestOutline 0 devices).map fun entry =>
      List.replicate (width entry.1) ' ' ++ (label entry.2.value).toList := by
  rw [shown, lines, List.map_map]
  refine List.map_congr_left fun entry _ => ?_
  rw [Function.comp_apply, String.toList_append, String.toList_ofList, width]

section Plain

variable (h : ∀ details ∈ Tree.forestPreorder devices, details.IsPlain)
include h

theorem isPlain_of_mem_outline {entry : Nat × UsbDevice}
    (hEntry : entry ∈ Tree.forestOutline 0 devices) : entry.2.value.IsPlain := by
  refine h _ ?_
  rw [← Tree.map_value_forestOutline 0 devices]
  exact List.mem_map_of_mem hEntry

/-- The lines are read as widths that grow with the depth, and labels. -/
theorem map_readLine_shown :
    (shown devices).map readLine =
      (Tree.forestOutline 0 devices).map fun entry =>
        (width entry.1, (label entry.2.value).toList) := by
  rw [shown_eq, List.map_map]
  exact List.map_congr_left fun entry hEntry =>
    readLine_indented (isPlain_of_mem_outline h hEntry) _

/-- There is one line for each device, in preorder. -/
theorem map_snd_readLine_shown :
    (shown devices).map (fun line => (readLine line).2) =
      (Tree.forestPreorder devices).map fun details => (label details).toList := by
  calc (shown devices).map (fun line => (readLine line).2)
      = ((shown devices).map readLine).map Prod.snd := List.map_map.symm
    _ = (Tree.forestOutline 0 devices).map fun entry => (label entry.2.value).toList := by
        rw [map_readLine_shown h, List.map_map]
        rfl
    _ = (Tree.forestPreorder devices).map fun details => (label details).toList := by
        rw [← Tree.map_value_forestOutline 0 devices, List.map_map]
        rfl

/-- The lines tell the forest of the labels. -/
theorem ofOutline_shown :
    Tree.ofOutline ((shown devices).map readLine) =
      Tree.forestMap (fun details => (label details).toList) devices := by
  rw [map_readLine_shown h]
  exact Tree.ofOutline_forestOutline strictMono_width (fun details => (label details).toList) 0
    devices

/-- The indentation alone tells the nesting. -/
theorem ofIndentation_shown :
    Tree.ofIndentation ((shown devices).map indentation) =
      Tree.forestShape devices := by
  -- the widths grow with the depth, so they nest as the depths do
  have hWidths : (shown devices).map indentation =
      (Tree.forestOutline 0 devices).map fun entry => width entry.1 :=
    calc (shown devices).map indentation
        = ((shown devices).map readLine).map Prod.fst := by
          rw [List.map_map]
          rfl
      _ = (Tree.forestOutline 0 devices).map fun entry => width entry.1 := by
          rw [map_readLine_shown h, List.map_map]
          rfl
  rw [hWidths]
  exact Tree.ofIndentation_forestOutline strictMono_width 0 devices

theorem not_mem_of_mem_shown {line : List Char}
    (hLine : line ∈ shown devices) : '\n' ∉ line := by
  rw [shown_eq] at hLine
  obtain ⟨entry, hEntry, rfl⟩ := List.mem_map.mp hLine
  have hSpaces : '\n' ∉ List.replicate (width entry.1) ' ' := by simp
  rw [List.mem_append, not_or]
  exact ⟨hSpaces, not_mem_label (isPlain_of_mem_outline h hEntry)⟩

end Plain

end UsbDevice

/-! ## The text of a snapshot -/

namespace Snapshot

/-- The text of lines, each of which is ended. -/
def ended (lines : List String) : String :=
  String.join (lines.map (· ++ "\n"))

theorem ended_append (lines others : List String) :
    ended (lines ++ others) = ended lines ++ ended others := by
  rw [ended, List.map_append, String.join_append, ended, ended]

theorem toList_ended (lines : List String) :
    (ended lines).toList = (lines.map String.toList).flatMap fun line => line ++ ['\n'] := by
  simp [ended, String.toList_join, List.flatMap_map]

/-- The lines of a snapshot end with the paragraph for USB and that for the errors. -/
theorem lines_eq (snapshot : Snapshot) :
    snapshot.lines = ({ snapshot with usb := none, errors := [] } : Snapshot).lines ++
      paragraph "USB" UsbDevice.lines snapshot.usb ++ errorLines snapshot.errors := by
  have hErrors : errorLines [] = [] := rfl
  have hUsb : paragraph "USB" UsbDevice.lines none = [] := rfl
  rw [lines, lines, hErrors, hUsb, List.append_nil, List.append_nil]

/-- The section about USB stands behind the text of all sections before it, and before that of the
errors. -/
theorem text_eq_of_usb {snapshot : Snapshot} {devices : List UsbDevice}
    (hUsb : snapshot.usb = some devices) :
    snapshot.text = ({ snapshot with usb := none, errors := [] } : Snapshot).text ++ "\nUSB\n" ++
      ended (UsbDevice.lines devices) ++ ended (errorLines snapshot.errors) := by
  have hTitle : ended ["", "USB"] = "\nUSB\n" := rfl
  have hParagraph : paragraph "USB" UsbDevice.lines snapshot.usb =
      ["", "USB"] ++ UsbDevice.lines devices := by
    rw [hUsb]
    rfl
  -- the lines are ended one by one, so the text is cut where the section is
  calc snapshot.text
      = ended snapshot.lines := rfl
    _ = ended ({ snapshot with usb := none, errors := [] } : Snapshot).lines ++
          (ended ["", "USB"] ++ ended (UsbDevice.lines devices)) ++
          ended (errorLines snapshot.errors) := by
        rw [lines_eq, hParagraph, ended_append, ended_append, ended_append]
    _ = _ := by rw [hTitle, ← String.append_assoc]; rfl

/-- **The text of the USB section tells the forest.** If the details of all devices are plain, the
section is one line for each device in preorder. The forest of the labels is read back from these
lines, and its nesting from the numbers of spaces that they begin with, so two forests that are
printed with the same numbers have the same nesting. -/
theorem usb_outline :
    (∀ (snapshot : Snapshot) (devices : List UsbDevice), snapshot.usb = some devices →
      (∀ details ∈ Tree.forestPreorder devices, details.IsPlain) →
      snapshot.text.toList =
        (({ snapshot with usb := none, errors := [] } : Snapshot).text ++ "\nUSB\n").toList ++
          (UsbDevice.shown devices).flatMap (fun line => line ++ ['\n']) ++
          (ended (errorLines snapshot.errors)).toList ∧
      (∀ line ∈ UsbDevice.shown devices, '\n' ∉ line) ∧
      (UsbDevice.shown devices).map (fun line => (UsbDevice.readLine line).2) =
        (Tree.forestPreorder devices).map (fun details => (UsbDevice.label details).toList) ∧
      Tree.ofOutline ((UsbDevice.shown devices).map UsbDevice.readLine) =
        Tree.forestMap (fun details => (UsbDevice.label details).toList) devices ∧
      Tree.ofIndentation ((UsbDevice.shown devices).map UsbDevice.indentation) =
        Tree.forestShape devices) ∧
    (∀ devices others : List UsbDevice,
      (∀ details ∈ Tree.forestPreorder devices, details.IsPlain) →
      (∀ details ∈ Tree.forestPreorder others, details.IsPlain) →
      (UsbDevice.shown devices).map UsbDevice.indentation =
        (UsbDevice.shown others).map UsbDevice.indentation →
      Tree.forestShape devices = Tree.forestShape others) := by
  constructor
  · intro snapshot devices hUsb hPlain
    refine ⟨?_, fun line => UsbDevice.not_mem_of_mem_shown hPlain,
      UsbDevice.map_snd_readLine_shown hPlain, UsbDevice.ofOutline_shown hPlain,
      UsbDevice.ofIndentation_shown hPlain⟩
    rw [text_eq_of_usb hUsb, String.toList_append, String.toList_append, toList_ended]
    rfl
  · intro devices others hDevices hOthers hSame
    -- both shapes are rebuilt from the same indentations
    rw [← UsbDevice.ofIndentation_shown hDevices, ← UsbDevice.ofIndentation_shown hOthers, hSame]

/-- A hub with a dock, in which a mouse is plugged, and with a disk, and a camera beside it. -/
def dockedForest : List UsbDevice :=
  [.node { name := "Hub", vendor := "Linux", vendorId := "1d6b", productId := "0002" }
      [.node { name := "Dock" } [.leaf { name := "Mouse", productId := "c077" }],
        .leaf { name := "Disk" }],
    .leaf { name := "Camera", vendor := "(none)" }]

/-- A dock with two devices, of which the first has one of its own, and a device beside the dock. -/
theorem usb_outline_dockedForest :
    (∀ details ∈ Tree.forestPreorder dockedForest, details.IsPlain) ∧
      (UsbDevice.shown dockedForest).map UsbDevice.indentation = [2, 4, 6, 4, 2] ∧
      Tree.ofIndentation [2, 4, 6, 4, 2] = Tree.forestShape dockedForest ∧
      ∀ others : List UsbDevice, (∀ details ∈ Tree.forestPreorder others, details.IsPlain) →
        (UsbDevice.shown others).map UsbDevice.indentation = [2, 4, 6, 4, 2] →
        Tree.forestShape dockedForest = Tree.forestShape others := by
  have hAll : (Tree.forestPreorder dockedForest).all (fun details => decide details.IsPlain) =
      true := by
    decide
  have hPlain : ∀ details ∈ Tree.forestPreorder dockedForest, details.IsPlain :=
    fun details h => of_decide_eq_true (List.all_eq_true.mp hAll details h)
  have hWidths : (UsbDevice.shown dockedForest).map UsbDevice.indentation = [2, 4, 6, 4, 2] := by
    decide
  obtain ⟨-, -, -, -, hShape⟩ := usb_outline.1
    { platform := .linux, usb := some dockedForest } dockedForest rfl hPlain
  refine ⟨hPlain, hWidths, hWidths ▸ hShape, fun others hOthers hSame => ?_⟩
  exact usb_outline.2 dockedForest others hPlain hOthers (hWidths.trans hSame.symm)

end Snapshot

end HardwareReport
