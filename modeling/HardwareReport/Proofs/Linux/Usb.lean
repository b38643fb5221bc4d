import HardwareReport.Linux.Layer
import HardwareReport.Proofs.Answer
import HardwareReport.Proofs.Linux.Listing
import HardwareReport.Proofs.Usb.Grounded

/-!
# Linux — the forest of USB devices

The names of USB devices say what hangs off what, whatever the names are: going from a name to that
of its hub loses a socket number each time, until there is none to lose. The name of a hub can be
longer than that of the device (`usb1` is the hub of `1-`), so it is the sockets that are counted.
No device is part of a cycle then, and the forest is read off the names.

* `usbDepth` — how many hubs a name puts above a device;
* `UsbPlaces` — the places that names give devices in a forest.

Main result: `usb_places` — both reports of USB devices, from the names of their directories.
-/

namespace HardwareReport.Linux

open FileTree

/-! ## Hubs of hubs -/

/-- How many hubs a name puts above a device, counting the root hub and the sockets between. -/
def usbDepth (id : String) : Nat :=
  if isRootHub id then 0
  else
    match Text.splitOnce? ['-'] id.toList with
    | some parts => parts.2.count '.' + 1
    | none => 0

theorem isRootHub_ofList_append (bus : List Char) :
    isRootHub (String.ofList ("usb".toList ++ bus)) = true := by
  have hList : (String.ofList ("usb".toList ++ bus)).toList = "usb".toList ++ bus :=
    String.toList_ofList
  rw [isRootHub, hList, List.isPrefixOf_iff_prefix]
  exact List.prefix_append ..

/-- **The hub of a device is less deep than the device.** -/
theorem usbDepth_lt {id parent : String} (h : usbParent? id = some parent) :
    usbDepth parent < usbDepth id := by
  rw [usbParent?] at h
  cases hRoot : isRootHub id with
  | true =>
    rw [hRoot] at h
    exact absurd h (by simp)
  | false =>
    rw [hRoot, if_neg (by simp)] at h
    obtain ⟨⟨bus, ports⟩, hSplit, hParent⟩ := Option.map_eq_some_iff.mp h
    have hDepth : usbDepth id = ports.count '.' + 1 := by
      rw [usbDepth, hRoot, if_neg (by simp), hSplit]
    rw [hDepth]
    cases hWay : Text.splitLast? '.' ports with
    | none =>
      -- nothing but the root hub is above it
      simp only [hWay] at hParent
      rw [usbDepth, ← hParent, isRootHub_ofList_append, if_pos rfl]
      exact Nat.succ_pos _
    | some way =>
      -- the name of the hub has one socket less, after the same dash
      obtain ⟨front, last⟩ := way
      simp only [hWay] at hParent
      have hBus := (Text.splitOnce?_singleton_eq_some_iff.mp hSplit).1
      have hPorts := (Text.splitLast?_eq_some_iff.mp hWay).2
      have hParentSplit : Text.splitOnce? ['-'] parent.toList = some (bus, front) := by
        rw [← hParent, String.toList_ofList, Text.splitOnce?_singleton_eq_some_iff]
        exact ⟨hBus, by simp⟩
      have hLess : usbDepth parent ≤ front.count '.' + 1 := by
        rw [usbDepth, hParentSplit]
        split
        · exact Nat.zero_le _
        · exact Nat.le_refl _
      have hCount : ports.count '.' = front.count '.' + (last.count '.' + 1) := by
        rw [hPorts, List.count_append, List.count_cons_self]
      omega

/-- The name that is `n` hubs above a device. -/
def usbAbove? (n : Nat) (id : String) : Option String :=
  match n with
  | 0 => some id
  | n + 1 => (usbParent? id).bind (usbAbove? n)

/-- Going from hub to hub comes to an end. -/
theorem usbAbove?_eq_none {n : Nat} {id : String} (h : usbDepth id < n) :
    usbAbove? n id = none := by
  induction n generalizing id with
  | zero => exact absurd h (Nat.not_lt_zero _)
  | succ n ih =>
    rw [usbAbove?, Option.bind_eq_none_iff]
    intro parent hParent
    have hLess := usbDepth_lt hParent
    exact ih (by omega)

/-- One name is that of the hub of a device with another. -/
def IsHubOf (parent id : String) : Prop :=
  usbParent? id = some parent

theorem usbDepth_lt_of_transGen {above below : String}
    (h : Relation.TransGen IsHubOf above below) : usbDepth above < usbDepth below := by
  induction h with
  | single hStep => exact usbDepth_lt hStep
  | tail _ hStep ih => exact ih.trans (usbDepth_lt hStep)

/-! ## Records -/

/-- The names in a directory that are those of devices. A directory that is not there has none. -/
def usbNames (tree : Node) (root : Path) : List String :=
  ((tree.names root).toOption.getD []).filter isUsbDevice

/-- A record says the name of its directory and that of the hub that the name puts it below. -/
theorem of_usbRecord_eq_ok {tree : Node} {root : Path} {id : String} {record : UsbRecord}
    (h : usbRecord tree root id = .ok record) :
    record.id = id ∧ record.parentId = usbParent? id := by
  obtain ⟨vendor, -, h⟩ := Answer.bind_eq_ok_iff.mp h
  obtain ⟨name, -, h⟩ := Answer.bind_eq_ok_iff.mp h
  obtain ⟨vendorId, -, h⟩ := Answer.bind_eq_ok_iff.mp h
  obtain ⟨productId, -, h⟩ := Answer.bind_eq_ok_iff.mp h
  obtain ⟨serialNumber, -, h⟩ := Answer.bind_eq_ok_iff.mp h
  obtain rfl := Except.ok.inj h
  exact ⟨rfl, rfl⟩

/-- Devices with one record each, named by the directory and its hub's. -/
structure Recorded (record : String → UsbRecord) (names : List String) : Prop where
  nodup : names.Nodup
  id_eq : ∀ name ∈ names, (record name).id = name
  parentId_eq : ∀ name ∈ names, (record name).parentId = usbParent? name

section Recorded

variable {record : String → UsbRecord} {names : List String} (h : Recorded record names)
include h

/-- **No device is part of a cycle.** -/
theorem Recorded.allGrounded : UsbRecord.AllGrounded (names.map record) where
  ids := by
    have hIds : (names.map record).map UsbRecord.id = names := by
      rw [List.map_map]
      exact (List.map_congr_left h.id_eq).trans (List.map_id' names)
    rw [hIds]
    exact h.nodup
  grounded := by
    intro device hDevice
    obtain ⟨name, hName, rfl⟩ := List.mem_map.mp hDevice
    -- the hubs are less deep
    induction hDepth : usbDepth name using Nat.strongRecOn generalizing name with
    | ind depth ih =>
      by_cases hUnknown : ∀ above ∈ names.map record, (record name).parentId ≠ some above.id
      · exact .top hUnknown
      · simp only [ne_eq, not_forall, Decidable.not_not, exists_prop] at hUnknown
        obtain ⟨above, hAbove, hNamed⟩ := hUnknown
        obtain ⟨hub, hHub, rfl⟩ := List.mem_map.mp hAbove
        have hParent : usbParent? name = some hub := by
          rw [← h.parentId_eq name hName, hNamed, h.id_eq hub hHub]
        have hLess := usbDepth_lt hParent
        exact .child hAbove hNamed (ih (usbDepth hub) (hDepth ▸ hLess) hub hHub hAbove rfl)

end Recorded

/-- The records of a directory that has no name twice are those of its devices, in the order of the
bytes of their names. -/
theorem exists_recorded {tree : Node} {root : Path} {records : List UsbRecord}
    (hNames : (usbNames tree root).Nodup) (hRead : usbRecords tree root = .ok records) :
    ∃ (record : String → UsbRecord) (names : List String), records = names.map record ∧
      (∀ name ∈ names, usbRecord tree root name = .ok (record name)) ∧ Recorded record names ∧
      names.Perm (usbNames tree root) ∧
      names.Pairwise fun a b => Text.bytes a < Text.bytes b := by
  obtain ⟨listed, hListed, hMap⟩ := Answer.bind_eq_ok_iff.mp hRead
  have : Inhabited UsbRecord := ⟨{ id := "", parentId := none, details := {} }⟩
  obtain ⟨record, hRecords, hRecord⟩ := Answer.exists_map_of_mapM_eq_ok hMap
  obtain ⟨hSame, hSorted⟩ := of_sortedNames_eq_ok hListed
  have hPerm : (listed.filter isUsbDevice).Perm (usbNames tree root) := hSame.filter _
  have hNodup : (listed.filter isUsbDevice).Nodup := hPerm.nodup_iff.mpr hNames
  -- no name is there twice, so the order is strict
  have hDistinct : ((listed.filter isUsbDevice).map fun name => name).Nodup := by
    rw [List.map_id']
    exact hNodup
  have hOrder := Text.pairwise_lt (fun name => name) (hSorted.filter isUsbDevice) hDistinct
  have hRecorded : Recorded record (listed.filter isUsbDevice) := {
    nodup := hNodup
    id_eq := fun name hName => (of_usbRecord_eq_ok (hRecord name hName)).1
    parentId_eq := fun name hName => (of_usbRecord_eq_ok (hRecord name hName)).2 }
  exact ⟨record, listed.filter isUsbDevice, hRecords, hRecord, hRecorded, hPerm,
    hOrder.imp Text.bytes_lt_bytes_iff.mpr⟩

/-! ## Reports -/

/-- The places of devices in a forest, as their names have it: a device hangs directly off the hub
that its name names, and is a root if that is none of the devices. Roots, and the devices below a
hub, are in the order of the bytes of their names. -/
structure UsbPlaces (names : List String) (forest : List (Tree String)) : Prop where
  once : (Tree.forestPreorder forest).Perm names
  root_iff : ∀ name ∈ names, name ∈ forest.map Tree.value ↔
    usbParent? name = none ∨ ∃ parent, usbParent? name = some parent ∧ parent ∉ names
  edge_iff : ∀ above below, (above, below) ∈ Tree.forestEdges forest ↔
    above ∈ names ∧ below ∈ names ∧ usbParent? below = some above
  roots_ordered : (forest.map Tree.value).Pairwise fun a b => Text.bytes a < Text.bytes b
  siblings_ordered : ∀ t ∈ Tree.forestSubtrees forest,
    (t.branches.map Tree.value).Pairwise fun a b => Text.bytes a < Text.bytes b

/-- A forest of the records is one by the names: its edges are the links that the names tell. -/
theorem Recorded.usbPlaces {record : String → UsbRecord} {names : List String}
    {own : List (Tree String)} (h : Recorded record names)
    (hForest : UsbRecord.IsForest record names own)
    (hOrder : names.Pairwise fun a b => Text.bytes a < Text.bytes b) : UsbPlaces names own where
  once := hForest.once
  root_iff := by
    intro name hName
    have hTop : UsbRecord.namesNone (names.map record) (record name) = true ↔
        ∀ hub ∈ names, usbParent? name ≠ some hub := by
      rw [UsbRecord.namesNone, List.all_eq_true, List.forall_mem_map, h.parentId_eq name hName]
      refine forall₂_congr fun hub hHub => ?_
      rw [bne_iff_ne, h.id_eq hub hHub]
    -- a root is one whose name names no device, for want of a hub or of a record of it
    rw [hForest.tops, List.mem_filter, hTop]
    cases usbParent? name with
    | none => simp [hName]
    | some parent =>
      have hUnknown : (∀ hub ∈ names, some parent ≠ some hub) ↔ parent ∉ names :=
        ⟨fun hNone hMem => hNone parent hMem rfl,
          fun hNot hub hHub hSame => hNot (Option.some.inj hSame ▸ hHub)⟩
      rw [hUnknown]
      simp [hName]
  edge_iff := by
    intro above below
    rw [hForest.mem_forestEdges_iff]
    refine and_congr_right fun hAbove => and_congr_right fun hBelow => ?_
    rw [h.parentId_eq below hBelow, h.id_eq above hAbove]
  roots_ordered := (hForest.pairwise hOrder).1
  siblings_ordered := (hForest.pairwise hOrder).2

/-- Where the kernel shows the USB devices. -/
def usbDirectory : Path := ["sys", "bus", "usb", "devices"]

theorem run_usb (machine : LinuxMachine) (tree : Bool) :
    (layer.usb tree).run.run machine =
      ((usbRecords machine.native usbDirectory).map (UsbRecord.devices tree), machine) :=
  rfl

/-- **USB devices are placed by the names of their directories.** -/
theorem usb_places (machine : LinuxMachine) {records : List UsbRecord}
    (hNames : (usbNames machine.native usbDirectory).Nodup)
    (hRead : usbRecords machine.native usbDirectory = .ok records) :
    (∀ id, usbAbove? (usbDepth id + 1) id = none) ∧
    (∀ id, ¬ Relation.TransGen IsHubOf id id) ∧
    (UsbRecord.links records).fromCycles = [] ∧
    ∃ (details : String → UsbDetails) (names : List String) (forest : List (Tree String)),
      (layer.usb true).run.run machine = (.ok (Tree.forestMap details forest), machine) ∧
      (layer.usb false).run.run machine =
        (.ok (names.map fun name => Tree.leaf (details name)), machine) ∧
      (∀ name ∈ names, ∃ record, usbRecord machine.native usbDirectory name = .ok record ∧
        details name = record.details) ∧
      names.Perm (usbNames machine.native usbDirectory) ∧
      (names.Pairwise fun a b => Text.bytes a < Text.bytes b) ∧
      UsbPlaces names forest := by
  obtain ⟨record, names, rfl, hRecord, hRecorded, hPerm, hOrder⟩ := exists_recorded hNames hRead
  -- a hub is less deep than what hangs off it, so no record is on a cycle
  obtain ⟨own, hForest⟩ := UsbRecord.exists_forest_of_grounded hRecorded.allGrounded
  refine ⟨fun id => usbAbove?_eq_none (Nat.lt_succ_self _),
    fun id hCycle => Nat.lt_irrefl _ (usbDepth_lt_of_transGen hCycle),
    Links.fromCycles_eq_nil hRecorded.allGrounded.links,
    fun name => (record name).details, names, own, ?_, ?_, ?_, hPerm, hOrder,
    hRecorded.usbPlaces hForest hOrder⟩
  · rw [run_usb, hRead, ← hForest.shown]
    rfl
  · rw [run_usb, hRead]
    show (Except.ok (UsbRecord.flat (names.map record)), machine) = _
    rw [UsbRecord.flat, List.map_map]
    rfl
  · exact fun name hName => ⟨record name, hRecord name hName, rfl⟩

/-- A machine with a root hub, two devices off it, of which one has no socket number, and a device
off one of these, none of which says anything of itself. One interface is listed with them. -/
def hubMachine : LinuxMachine where
  native := usbDirectory.foldr (fun name node => .directory none [(name, node)])
    (.directory none (["usb1", "1-1.2", "1-", "1-1:1.0", "1-1"].map fun id =>
      (id, .directory none [])))
  host := {}

/-- The record of a device that says nothing of itself. -/
def bareRecord (id : String) : UsbRecord where
  id := id
  parentId := usbParent? id
  details := { name := usbFallbackName id }

theorem usbRecords_hubMachine : usbRecords hubMachine.native usbDirectory =
    .ok (["1-", "1-1", "1-1.2", "usb1"].map bareRecord) := by
  have hSorted : sortedNames hubMachine.native usbDirectory =
      .ok ["1-", "1-1", "1-1.2", "1-1:1.0", "usb1"] := by
    show Except.ok (["usb1", "1-1.2", "1-", "1-1:1.0", "1-1"].mergeSort
      fun a b => decide (a ≤ b)) = _
    simp [List.mergeSort, List.MergeSort.Internal.splitInTwo]
  rw [usbRecords, hSorted]
  rfl

/-- A root hub with two devices, one by an odd name and one with a device of its own. -/
theorem usb_places_hubMachine :
    (usbNames hubMachine.native usbDirectory).Nodup ∧
    usbRecords hubMachine.native usbDirectory =
      .ok (["1-", "1-1", "1-1.2", "usb1"].map bareRecord) ∧
    ∃ (details : String → UsbDetails) (names : List String) (forest : List (Tree String)),
      (layer.usb true).run.run hubMachine = (.ok (Tree.forestMap details forest), hubMachine) ∧
      names.Perm ["usb1", "1-1.2", "1-", "1-1"] ∧ UsbPlaces names forest ∧
      "usb1" ∈ forest.map Tree.value ∧ ("usb1", "1-") ∈ Tree.forestEdges forest ∧
      ("usb1", "1-1") ∈ Tree.forestEdges forest ∧ ("1-1", "1-1.2") ∈ Tree.forestEdges forest := by
  have hNames : (usbNames hubMachine.native usbDirectory).Nodup := by decide
  obtain ⟨-, -, -, details, names, forest, hReport, -, -, hPerm, -, hPlaces⟩ :=
    usb_places hubMachine hNames usbRecords_hubMachine
  have hListed : usbNames hubMachine.native usbDirectory = ["usb1", "1-1.2", "1-", "1-1"] := by
    decide
  rw [hListed] at hPerm
  -- the names in order are those that are listed
  have hMem : ∀ name ∈ ["usb1", "1-1.2", "1-", "1-1"], name ∈ names := fun name hName =>
    hPerm.mem_iff.mpr hName
  refine ⟨hNames, usbRecords_hubMachine, details, names, forest, hReport, hPerm, hPlaces,
    ?_, ?_, ?_, ?_⟩
  · exact (hPlaces.root_iff _ (hMem _ (by decide))).mpr (.inl (by decide))
  · exact (hPlaces.edge_iff ..).mpr ⟨hMem _ (by decide), hMem _ (by decide), by decide⟩
  · exact (hPlaces.edge_iff ..).mpr ⟨hMem _ (by decide), hMem _ (by decide), by decide⟩
  · exact (hPlaces.edge_iff ..).mpr ⟨hMem _ (by decide), hMem _ (by decide), by decide⟩

end HardwareReport.Linux
