import HardwareReport.Proofs.Text.ByteOrder
import HardwareReport.Proofs.Usb.Grounded
import HardwareReport.Proofs.Windows.Walk
import HardwareReport.Windows.Layer

/-!
# Windows — the forest of USB devices

The walk gives a record for every USB device of the device tree, with the id of the USB device next
above it; the records are put in the order of their ids, and the forest is grown from the ids. If
these are distinct it is the device tree without the devices that are no USB devices.

* `DeviceTree.allGrounded_places` — no device is part of a cycle;
* `IsContraction` — a forest is what is left of a device tree.

Main result: `usb_contracts` — both reports of USB devices, from the device tree.
-/

namespace HardwareReport.Windows

open DeviceNode

namespace DeviceTree

/-! ## Records in order -/

/-- If everything can be read, the records are those of the USB devices that are shown, in the order
of their ids. -/
theorem exists_usbRecords_eq_ok {root : DeviceNode} (h : AllReadable root) :
    ∃ places : List Place,
      places.Perm (Tree.forestPlaced none (Tree.contract DeviceFacts.isUsb (shown root))) ∧
      (places.Pairwise fun a b => a.1.idText ≤ b.1.idText) ∧
      usbRecords 0 root = .ok (places.map Place.record) := by
  obtain ⟨found, hPerm, hWalk⟩ := gives_walk none root h
  have hSort : (found.mergeSort fun a b => decide (a.1.idText ≤ b.1.idText)).map Place.record =
      (found.map Place.record).mergeSort fun a b => decide (a.id ≤ b.id) :=
    List.map_mergeSort fun a _ b _ => rfl
  refine ⟨_, (List.mergeSort_perm ..).trans hPerm,
    Text.pairwise_mergeSort (fun place : Place => place.1.idText) found, ?_⟩
  rw [Option.map_none] at hWalk
  rw [usbRecords, hWalk, hSort]
  rfl

/-- A walk that fails fails both reports. -/
theorem exists_usbRecords_eq_error (locateCode : ManagerCode) {root : DeviceNode}
    (h : ¬ AllReadable root) : ∃ error, usbRecords locateCode root = .error error := by
  cases hRecords : usbRecords locateCode root with
  | error error => exact ⟨error, rfl⟩
  | ok records =>
    rw [usbRecords] at hRecords
    split_ifs at hRecords
    obtain ⟨found, hWalk, -⟩ := Answer.map_eq_ok_iff.mp hRecords
    exact absurd (allReadable_of_walk root hWalk) h

/-! ## No cycles -/

/-- The device that a device is placed below, if any, has a record that is grounded. -/
def AboveGrounded (records : List UsbRecord) (above : Option DeviceFacts) : Prop :=
  ∀ b, above = some b →
    ∃ record ∈ records, record.id = b.idText ∧ UsbRecord.Grounded records record

theorem AboveGrounded.grounded {records : List UsbRecord} {above : Option DeviceFacts}
    (h : AboveGrounded records above) (facts : DeviceFacts) :
    UsbRecord.Grounded records (Place.record (facts, above)) := by
  cases above with
  | none => exact .top fun record _ hNamed => absurd hNamed (by rintro ⟨⟩)
  | some b =>
    obtain ⟨record, hMem, hId, hGrounded⟩ := h b rfl
    exact .child hMem (congrArg some hId.symm) hGrounded

mutual

theorem grounded_of_mem_placed {records : List UsbRecord} {above : Option DeviceFacts}
    (hAbove : AboveGrounded records above) : ∀ tree : Tree DeviceFacts,
      (∀ place ∈ tree.placed above, Place.record place ∈ records) →
        ∀ place ∈ tree.placed above, UsbRecord.Grounded records (Place.record place)
  | .node top branches => by
    intro hRecords
    rw [Tree.placed, List.forall_mem_cons] at hRecords ⊢
    have hTop := hAbove.grounded top
    -- the top is what its branches are placed below
    have hBelow : AboveGrounded records (some top) := by
      rintro b ⟨⟩
      exact ⟨_, hRecords.1, rfl, hTop⟩
    exact ⟨hTop, grounded_of_mem_forestPlaced hBelow branches hRecords.2⟩

/-- What is placed in a forest below a device with a grounded record, or below none, has grounded
records. -/
theorem grounded_of_mem_forestPlaced {records : List UsbRecord} {above : Option DeviceFacts}
    (hAbove : AboveGrounded records above) : ∀ trees : List (Tree DeviceFacts),
      (∀ place ∈ Tree.forestPlaced above trees, Place.record place ∈ records) →
        ∀ place ∈ Tree.forestPlaced above trees, UsbRecord.Grounded records (Place.record place)
  | [] => fun _ place hMem => absurd hMem List.not_mem_nil
  | tree :: rest => by
    intro hRecords
    rw [Tree.forestPlaced, List.forall_mem_append] at hRecords ⊢
    exact ⟨grounded_of_mem_placed hAbove tree hRecords.1,
      grounded_of_mem_forestPlaced hAbove rest hRecords.2⟩

end

section Places

variable {trees : List (Tree DeviceFacts)} {places : List Place}
  (hPlaces : places.Perm (Tree.forestPlaced none trees))
  (hIds : ((Tree.forestPreorder trees).map DeviceFacts.idText).Nodup)
include hPlaces

theorem map_fst_places_perm : (places.map Prod.fst).Perm (Tree.forestPreorder trees) := by
  rw [← Tree.map_fst_forestPlaced none trees]
  exact hPlaces.map _

include hIds

/-- **No USB device is part of a cycle.** -/
theorem allGrounded_places : UsbRecord.AllGrounded (places.map Place.record) where
  ids := by
    have hMap : (places.map Place.record).map UsbRecord.id =
        (places.map Prod.fst).map DeviceFacts.idText := by
      rw [List.map_map, List.map_map]
      rfl
    rw [hMap]
    exact ((map_fst_places_perm hPlaces).map _).nodup_iff.mpr hIds
  grounded := by
    rw [List.forall_mem_map]
    intro place hMem
    refine grounded_of_mem_forestPlaced (fun b hNone => absurd hNone (by simp)) trees ?_ place
      (hPlaces.subset hMem)
    exact fun other hOther => List.mem_map_of_mem (hPlaces.symm.subset hOther)

/-- A forest of places has the edges of the forest in which they are the places. -/
theorem mem_forestEdges_places {own : List (Tree Place)}
    (hOwn : UsbRecord.IsForest Place.record places own) {a b : DeviceFacts} :
    (a, b) ∈ Tree.forestEdges (Tree.forestMap Prod.fst own) ↔ (a, b) ∈ Tree.forestEdges trees := by
  rw [Tree.forestEdges_forestMap, List.mem_map]
  constructor
  · rintro ⟨⟨upper, lower⟩, hEdge, hPair⟩
    obtain ⟨rfl, rfl⟩ := Prod.mk.inj hPair
    obtain ⟨hUpper, hLower, hNamed⟩ := hOwn.mem_forestEdges_iff.mp hEdge
    obtain ⟨c, hAbove, hId⟩ := Option.map_eq_some_iff.mp hNamed
    -- the device that the lower one is placed below has the id of the upper one
    have hPlaced : (lower.1, some c) ∈ Tree.forestPlaced none trees := by
      rw [← hAbove]
      exact hPlaces.subset hLower
    obtain ⟨-, hTop⟩ | ⟨d, hSame, hEdge⟩ := (Tree.mem_forestPlaced_iff trees).mp hPlaced
    · exact absurd hTop (by simp)
    · obtain rfl := Option.some.inj hSame
      have hUpperMem : upper.1 ∈ Tree.forestPreorder trees :=
        (map_fst_places_perm hPlaces).subset (List.mem_map_of_mem hUpper)
      have hEq : c = upper.1 := List.inj_on_of_nodup_map hIds
        (Tree.upper_mem_forestPreorder hEdge) hUpperMem hId
      exact hEq ▸ hEdge
  · intro hEdge
    have hLower : (b, some a) ∈ places :=
      hPlaces.symm.subset ((Tree.mem_forestPlaced_iff trees).mpr (.inr ⟨a, rfl, hEdge⟩))
    obtain ⟨upper, hUpper, rfl⟩ := List.mem_map.mp
      ((map_fst_places_perm hPlaces).symm.subset (Tree.upper_mem_forestPreorder hEdge))
    exact ⟨(upper, (b, some upper.1)), hOwn.mem_forestEdges_iff.mpr ⟨hUpper, hLower, rfl⟩, rfl⟩

end Places

end DeviceTree

/-! ## Reports -/

/-- What is known of a USB device, which does not depend on what it is below. -/
def DeviceFacts.usbDetails (facts : DeviceFacts) : UsbDetails :=
  (facts.recordBelow none).details

instance : Inhabited DeviceFacts := ⟨{}⟩

/-- A forest is what is left of a device tree without the devices that are no USB devices: those
that are have one place each, below the ones that they are below in the tree and so directly below
the next one above. Roots, and the devices below a device, are in the order of their ids. -/
structure IsContraction (root : Tree DeviceFacts) (forest : List (Tree DeviceFacts)) : Prop where
  once : (Tree.forestPreorder forest).Perm (root.preorder.filter DeviceFacts.isUsb)
  lineage_iff : ∀ a b, (a, b) ∈ Tree.forestLineage forest ↔
    a.isUsb ∧ b.isUsb ∧ (a, b) ∈ root.lineage
  edge_iff : ∀ a b, (a, b) ∈ Tree.forestEdges forest ↔
    (a.isUsb ∧ b.isUsb ∧ (a, b) ∈ root.lineage) ∧
      ∀ c, c.isUsb → (a, c) ∈ root.lineage → (c, b) ∉ root.lineage
  roots_ordered : (forest.map Tree.value).Pairwise fun a b => a.idText < b.idText
  siblings_ordered : ∀ t ∈ Tree.forestSubtrees forest,
    (t.branches.map Tree.value).Pairwise fun a b => a.idText < b.idText

section Contraction

variable {root : Tree DeviceFacts} {places : List DeviceTree.Place}
  {own : List (Tree DeviceTree.Place)}

theorem nodup_idText_contract (hIds : (root.preorder.map DeviceFacts.idText).Nodup) :
    ((Tree.forestPreorder (Tree.contract DeviceFacts.isUsb root)).map
      DeviceFacts.idText).Nodup := by
  rw [Tree.forestPreorder_contract]
  exact hIds.sublist (List.filter_sublist.map _)

/-- A forest of the places of a contracted tree is a contraction of the device tree: what is above
what is read off the places, as each device is placed under the nearest one above it that stays. -/
theorem isContraction_forestMap (hIds : (root.preorder.map DeviceFacts.idText).Nodup)
    (hPlaces : places.Perm (Tree.forestPlaced none (Tree.contract DeviceFacts.isUsb root)))
    (hOrder : places.Pairwise fun a b => a.1.idText < b.1.idText)
    (hOwn : UsbRecord.IsForest DeviceTree.Place.record places own) :
    IsContraction root (Tree.forestMap Prod.fst own) := by
  have hLeft := Tree.forestPreorder_contract DeviceFacts.isUsb root
  have hLeftIds := nodup_idText_contract hIds
  have hSame : (Tree.forestPreorder (Tree.forestMap Prod.fst own)).Perm
      (Tree.forestPreorder (Tree.contract DeviceFacts.isUsb root)) := by
    rw [Tree.forestPreorder_forestMap]
    exact (hOwn.once.map _).trans (DeviceTree.map_fst_places_perm hPlaces)
  have hNodupLeft := hLeftIds.of_map
  have hNodup := hSame.nodup_iff.mpr hNodupLeft
  -- what is above what is told by the edges, which the thinned out tree has as well
  have hLineage : ∀ a b, (a, b) ∈ Tree.forestLineage (Tree.forestMap Prod.fst own) ↔
      a.isUsb ∧ b.isUsb ∧ (a, b) ∈ root.lineage := by
    intro a b
    rw [Tree.mem_forestLineage_congr hNodup hNodupLeft fun _ _ =>
        DeviceTree.mem_forestEdges_places hPlaces hLeftIds hOwn,
      Tree.forestLineage_contract, List.mem_filter, Tree.keepBoth, Bool.and_eq_true]
    exact ⟨fun ⟨hMem, ha, hb⟩ => ⟨ha, hb, hMem⟩, fun ⟨ha, hb, hMem⟩ => ⟨hMem, ha, hb⟩⟩
  refine ⟨hSame.trans (.of_eq hLeft), hLineage, ?edge_iff, ?roots_ordered, ?siblings_ordered⟩
  case edge_iff =>
    intro a b
    rw [Tree.mem_forestEdges_iff_lineage hNodup, hLineage]
    refine and_congr_right fun ⟨ha, hb, _⟩ => forall_congr' fun c => ?_
    rw [hLineage, hLineage]
    exact ⟨fun h hc hac hcb => h ⟨ha, hc, hac⟩ ⟨hc, hb, hcb⟩,
      fun h ⟨_, hc, hac⟩ ⟨_, _, hcb⟩ => h hc hac hcb⟩
  case roots_ordered =>
    rw [Tree.map_value_forestMap]
    exact List.pairwise_map.mpr (hOwn.pairwise hOrder).1
  case siblings_ordered =>
    intro t ht
    rw [Tree.forestSubtrees_forestMap] at ht
    obtain ⟨u, hu, rfl⟩ := List.mem_map.mp ht
    rw [Tree.branches_map, Tree.map_value_forestMap]
    exact List.pairwise_map.mpr ((hOwn.pairwise hOrder).2 u hu)

end Contraction

theorem run_usb (machine : WindowsMachine) (tree : Bool) :
    (layer.usb tree).run.run machine =
      ((DeviceTree.usbRecords machine.native.locateCode machine.native.devices).map
        (UsbRecord.devices tree), machine) :=
  rfl

/-- **The USB devices are the device tree without its other devices**, if everything can be read and
no id is that of two devices. If something cannot be read there is no report. -/
theorem usb_contracts (machine : WindowsMachine) :
    (machine.native.locateCode = 0 → AllReadable machine.native.devices →
      ((shown machine.native.devices).preorder.map DeviceFacts.idText).Nodup →
      ∃ (forest : List (Tree DeviceFacts)) (inOrder : List DeviceFacts),
        (layer.usb true).run.run machine =
          (.ok (Tree.forestMap DeviceFacts.usbDetails forest), machine) ∧
        (layer.usb false).run.run machine =
          (.ok (inOrder.map fun facts => Tree.leaf facts.usbDetails), machine) ∧
        IsContraction (shown machine.native.devices) forest ∧
        inOrder.Perm (Tree.forestPreorder forest) ∧
        inOrder.Pairwise fun a b => a.idText < b.idText) ∧
    (∀ device, Reachable machine.native.devices device → ¬ Readable device →
      ∀ tree, ∃ error, (layer.usb tree).run.run machine = (.error error, machine)) := by
  constructor
  · intro hLocate hRead hIds
    obtain ⟨places, hPlaces, hOrder, hRecords⟩ := DeviceTree.exists_usbRecords_eq_ok hRead
    -- the devices that are left have ids of their own, by which they are sorted and linked
    have hLeftIds := nodup_idText_contract hIds
    have hDistinct : (places.map fun place => place.1.idText).Nodup := by
      have hFacts := (DeviceTree.map_fst_places_perm hPlaces).map DeviceFacts.idText
      rw [List.map_map] at hFacts
      exact hFacts.nodup_iff.mpr hLeftIds
    have hStrict :=
      Text.pairwise_lt (fun place : DeviceTree.Place => place.1.idText) hOrder hDistinct
    obtain ⟨own, hOwn⟩ := UsbRecord.exists_forest_of_grounded
      (DeviceTree.allGrounded_places hPlaces hLeftIds)
    have hContraction := isContraction_forestMap hIds hPlaces hStrict hOwn
    have hSame := (DeviceTree.map_fst_places_perm hPlaces).trans
      (.of_eq (Tree.forestPreorder_contract ..))
    refine ⟨Tree.forestMap Prod.fst own, places.map Prod.fst, ?_, ?_, hContraction,
      hSame.trans hContraction.once.symm, List.pairwise_map.mpr hStrict⟩
    · rw [run_usb, hLocate, hRecords, Tree.forestMap_forestMap]
      exact congrArg (fun forest => (Except.ok forest, machine)) hOwn.shown
    · rw [run_usb, hLocate, hRecords, List.map_map]
      show (Except.ok (UsbRecord.flat (places.map DeviceTree.Place.record)), machine) = _
      rw [UsbRecord.flat, List.map_map]
      rfl
  · intro device hReach hNot tree
    obtain ⟨error, hError⟩ := DeviceTree.exists_usbRecords_eq_error machine.native.locateCode
      fun hAll => hNot (hAll device hReach)
    exact ⟨error, by rw [run_usb, hError]; rfl⟩

/-- What is known of a device with nothing but an id. -/
def plainFacts (id : String) : DeviceFacts where
  id := id.toList.map fun c => c.val.toUInt16

/-- A machine with a receiver at a hub, and a stick that is below an interface of the receiver. -/
def receiverMachine : WindowsMachine where
  native := {
    devices := ["PCI\\VEN_8086\\0", "USB\\ROOT_HUB30\\1", "USB\\VID_046D&PID_C52B\\2",
      "USB\\VID_046D&PID_C52B&MI_00\\3"].foldr (fun id device => .node (plainFacts id) [device])
      (.node (plainFacts "USB\\VID_0781&PID_5583\\0") []) }
  host := {}

/-- A machine with a device whose id cannot be read. -/
def unreadableMachine : WindowsMachine where
  native := { devices := .node (plainFacts "HTREE\\ROOT\\0") [.node { idCode := 5 } []] }
  host := {}

/-- A receiver with a part that is no device of its own, and a machine one of whose devices cannot
be read. -/
theorem usb_contracts_receiverMachine :
    (AllReadable receiverMachine.native.devices ∧
      ((shown receiverMachine.native.devices).preorder.map DeviceFacts.idText).Nodup ∧
      ∃ forest : List (Tree DeviceFacts),
        (layer.usb true).run.run receiverMachine =
          (.ok (Tree.forestMap DeviceFacts.usbDetails forest), receiverMachine) ∧
        plainFacts "USB\\VID_046D&PID_C52B&MI_00\\3" ∉ Tree.forestPreorder forest ∧
        (plainFacts "USB\\VID_046D&PID_C52B\\2", plainFacts "USB\\VID_0781&PID_5583\\0") ∈
          Tree.forestLineage forest) ∧
    ∃ device, Reachable unreadableMachine.native.devices device ∧ ¬ Readable device ∧
      ∃ error, (layer.usb false).run.run unreadableMachine = (.error error, unreadableMachine) := by
  constructor
  · have hWalk : (DeviceTree.walk none receiverMachine.native.devices).isOk = true := by
      decide +kernel
    -- a walk that ends well has read them all
    have hRead : AllReadable receiverMachine.native.devices := by
      cases hRecords : DeviceTree.walk none receiverMachine.native.devices with
      | ok records => exact DeviceTree.allReadable_of_walk _ hRecords
      | error error =>
        rw [hRecords] at hWalk
        exact absurd hWalk (by simp [Except.isOk, Except.toBool])
    have hIds : ((shown receiverMachine.native.devices).preorder.map DeviceFacts.idText).Nodup := by
      decide +kernel
    obtain ⟨forest, -, hReport, -, hContraction, -, -⟩ :=
      (usb_contracts receiverMachine).1 rfl hRead hIds
    refine ⟨hRead, hIds, forest, hReport, ?_, ?_⟩
    · rw [hContraction.once.mem_iff]
      decide +kernel
    · rw [hContraction.lineage_iff]
      decide +kernel
  · have hReach : Reachable unreadableMachine.native.devices (.node { idCode := 5 } []) :=
      .child .root (List.mem_singleton.mpr rfl)
    have hNot : ¬ Readable (.node { idCode := 5 } []) := by
      rintro ⟨⟨id, hId⟩, -⟩
      exact absurd hId (by simp [DeviceFacts.readId, Tree.value])
    exact ⟨_, hReach, hNot, (usb_contracts unreadableMachine).2 _ hReach hNot false⟩

end HardwareReport.Windows
