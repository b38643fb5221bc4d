import HardwareReport.Proofs.Text.ByteOrder
import HardwareReport.Proofs.Windows.Usb

/-!
# Enumerations — children of devices in another order

The configuration manager enumerates the children of a device in some order. The walk over the
device tree does not put them in order: it takes them from the last to the first, and which failure
it comes to first depends on that. Only the records that a whole walk has found are put in the order
of their ids. If no two devices have the same id these tell all records apart, and the report comes
out the same.

* `DeviceNode.Reordered` — two trees that differ in the order of children only;
* `DeviceTree.walk_eq` — the walk, over what is enumerated;
* `DeviceTree.SameFinds` — walks that find the same records in some order, or fail;
* `Reordered.usbRecords_eq` — one list, or two failures.
-/

namespace HardwareReport.Windows

/-! ## Device trees in another order -/

namespace DeviceFacts

/-- What is known of a device itself, without the codes of enumerating it and its children. -/
def itself (facts : DeviceFacts) : DeviceFacts :=
  { facts with childCode := 0, siblingCode := 0 }

variable {facts other : DeviceFacts} (h : facts.itself = other.itself)
include h

theorem readId_eq_of_itself : facts.readId = other.readId :=
  show facts.itself.readId = other.itself.readId from congrArg readId h

theorem record_eq_of_itself : facts.record = other.record :=
  show facts.itself.record = other.itself.record from congrArg record h

end DeviceFacts

namespace DeviceNode

mutual

/-- Two trees show the same devices, and only the order in which children are enumerated is another.
Enumerating the children of a device fails in both trees or in neither. -/
inductive Reordered : DeviceNode → DeviceNode → Prop where
  | node {device other : DeviceNode} (itself : device.value.itself = other.value.itself)
      (enumerated : (children device).isOk = (children other).isOk)
      (below : ReorderedAll (listed device) (listed other)) : Reordered device other

/-- Several trees show the same devices, and only the order in which they come and that in which
children are enumerated are others. -/
inductive ReorderedAll : List DeviceNode → List DeviceNode → Prop where
  | nil : ReorderedAll [] []
  | cons {device other : DeviceNode} {rest others : List DeviceNode}
      (first : Reordered device other) (later : ReorderedAll rest others) :
      ReorderedAll (device :: rest) (other :: others)
  | swap (device next : DeviceNode) (rest : List DeviceNode) :
      ReorderedAll (next :: device :: rest) (device :: next :: rest)
  | trans {devices others third : List DeviceNode} (first : ReorderedAll devices others)
      (last : ReorderedAll others third) : ReorderedAll devices third

end

/-- No two of the devices that are shown have ids that are the same text. -/
def DistinctIds (root : DeviceNode) : Prop :=
  (shown root).preorder.Pairwise fun a b => ∀ id, a.readId = .ok id → b.readId ≠ .ok id

end DeviceNode

namespace DeviceNode

mutual

theorem Reordered.refl : ∀ device : DeviceNode, Reordered device device
  | .node facts below => by
    refine .node rfl rfl ?_
    rw [listed_eq_take]
    exact ReorderedAll.refl_take _ below

theorem ReorderedAll.refl_take (count : Nat) :
    ∀ devices : List DeviceNode, ReorderedAll (devices.take count) (devices.take count)
  | [] => by
    rw [List.take_nil]
    exact .nil
  | device :: rest => by
    cases count with
    | zero => exact .nil
    | succ count => exact .cons (Reordered.refl device) (ReorderedAll.refl_take count rest)

end

theorem ReorderedAll.of_perm {devices others : List DeviceNode} (h : devices.Perm others) :
    ReorderedAll devices others := by
  induction h with
  | nil => exact .nil
  | cons device _ ih => exact .cons (.refl device) ih
  | swap device next rest => exact .swap device next rest
  | trans _ _ ih ihThird => exact ih.trans ihThird

theorem siblings_eq_ok {devices : List DeviceNode}
    (h : ∀ device ∈ devices, device.value.siblingCode = 0) : siblings devices = .ok devices := by
  induction devices with
  | nil => rfl
  | cons device rest ih =>
    rw [List.forall_mem_cons] at h
    rw [siblings, h.1, ih h.2]
    rfl

/-- The devices below a device may come in another order, also while what is below them does, if all
of them can be enumerated. -/
theorem Reordered.of_below {facts : DeviceFacts} {below others : List DeviceNode}
    (hFirst : facts.childCode = 0) (hBelow : ∀ device ∈ below, device.value.siblingCode = 0)
    (hOthers : ∀ device ∈ others, device.value.siblingCode = 0) (h : ReorderedAll below others) :
    Reordered (.node facts below) (.node facts others) := by
  have hAll : ∀ devices : List DeviceNode, (∀ device ∈ devices, device.value.siblingCode = 0) →
      children (.node facts devices) = .ok devices := by
    intro devices hDevices
    rw [children, Tree.value, hFirst]
    exact siblings_eq_ok hDevices
  refine .node rfl ?_ ?_
  · rw [hAll below hBelow, hAll others hOthers]
    rfl
  · rw [listed_of_children (hAll below hBelow), listed_of_children (hAll others hOthers)]
    exact h

end DeviceNode

/-! ## The walk over what is enumerated -/

namespace DeviceTree

open DeviceNode

/-- The USB devices of several trees, from the last tree to the first. -/
def walkAll (parent : Option String) (devices : List DeviceNode) : Answer (List UsbRecord) :=
  walkLast parent devices.length devices

@[simp]
theorem walkAll_nil (parent : Option String) : walkAll parent [] = .ok [] := by
  rw [walkAll, walkLast]

theorem walkAll_cons (parent : Option String) (device : DeviceNode) (rest : List DeviceNode) :
    walkAll parent (device :: rest) = (do
      let later ← walkAll parent rest
      let here ← walk parent device
      return later ++ here) := by
  rw [walkAll, List.length_cons, walkLast, walkAll]

theorem walkLast_eq_walkAll (parent : Option String) (count : Nat) (devices : List DeviceNode) :
    walkLast parent count devices = walkAll parent (devices.take count) := by
  induction devices generalizing count with
  | nil => rw [List.take_nil, walkAll_nil, walkLast]
  | cons device rest ih =>
    cases count with
    | zero => rw [List.take_zero, walkAll_nil, walkLast]
    | succ count => rw [List.take_succ_cons, walkAll_cons, walkLast, ih]

/-- The walk goes on with what is enumerated. -/
theorem walk_eq (parent : Option String) (device : DeviceNode) :
    walk parent device = (do
      let id ← device.value.readId
      let found ← children device
      match UsbId.parse? id with
      | some usb =>
        let records ← walkAll (some id) found
        return device.value.record parent id usb :: records
      | none => walkAll parent found) := by
  obtain ⟨facts, below⟩ := device
  rw [walk]
  refine bind_congr fun id => ?_
  cases hFound : children (.node facts below) with
  | error error => rfl
  | ok found =>
    -- only the devices that are listed are walked, which are the first ones
    have hBelow : ∀ parent, walkLast parent found.length below = walkAll parent found := by
      intro parent
      rw [walkLast_eq_walkAll]
      exact congrArg (walkAll parent) (children_eq_take hFound).symm
    cases UsbId.parse? id with
    | none => exact hBelow parent
    | some usb =>
      exact congrArg (· >>= fun records => pure (facts.record parent id usb :: records))
        (hBelow (some id))

/-! ## Two walks -/

/-- Two walks find the same records, each in some order, or both fail. -/
inductive SameFinds : Answer (List UsbRecord) → Answer (List UsbRecord) → Prop where
  | ok {records others : List UsbRecord} (perm : records.Perm others) :
      SameFinds (.ok records) (.ok others)
  | error (error other : HardwareError) : SameFinds (.error error) (.error other)

namespace SameFinds

theorem refl (answer : Answer (List UsbRecord)) : SameFinds answer answer := by
  cases answer with
  | ok records => exact .ok (.refl records)
  | error error => exact .error error error

theorem trans {answer other third : Answer (List UsbRecord)} (h : SameFinds answer other)
    (hThird : SameFinds other third) : SameFinds answer third := by
  cases h with
  | ok h =>
    cases hThird with
    | ok hThird => exact .ok (h.trans hThird)
  | error error _ =>
    cases hThird with
    | error _ third => exact .error error third

/-- Two walks may begin with anything that is there in both or in neither. -/
theorem bind {α β : Type} {answer : Answer α} {other : Answer β}
    {next : α → Answer (List UsbRecord)} {nextOther : β → Answer (List UsbRecord)}
    (hSame : answer.isOk = other.isOk)
    (hNext : ∀ a b, answer = .ok a → other = .ok b → SameFinds (next a) (nextOther b)) :
    SameFinds (answer >>= next) (other >>= nextOther) := by
  cases answer with
  | error error =>
    cases other with
    | error other => exact .error error other
    | ok b => exact absurd hSame Bool.false_ne_true
  | ok a =>
    cases other with
    | error other => exact absurd hSame Bool.false_ne_true.symm
    | ok b => exact hNext a b rfl rfl

theorem append {later here laterOther hereOther : Answer (List UsbRecord)}
    (hLater : SameFinds later laterOther) (hHere : SameFinds here hereOther) :
    SameFinds (do return (← later) ++ (← here)) (do return (← laterOther) ++ (← hereOther)) := by
  cases hLater with
  | error error other => exact .error error other
  | ok hLater =>
    cases hHere with
    | error error other => exact .error error other
    | ok hHere => exact .ok (hLater.append hHere)

theorem cons (record : UsbRecord) {answer other : Answer (List UsbRecord)}
    (h : SameFinds answer other) :
    SameFinds (do return record :: (← answer)) (do return record :: (← other)) := by
  cases h with
  | ok h => exact .ok (h.cons record)
  | error error other => exact .error error other

end SameFinds

/-- Of two devices side by side, either may be walked first. -/
theorem sameFinds_walkAll_swap (parent : Option String) (device next : DeviceNode)
    (rest : List DeviceNode) :
    SameFinds (walkAll parent (next :: device :: rest))
      (walkAll parent (device :: next :: rest)) := by
  simp only [walkAll_cons]
  -- the devices after them are walked first
  cases walkAll parent rest with
  | error error => exact .error error error
  | ok later =>
    cases walk parent device with
    | error error =>
      cases walk parent next with
      | error other => exact .error error other
      | ok _ => exact .error error error
    | ok here =>
      cases walk parent next with
      | error error => exact .error error error
      | ok there =>
        refine .ok ?_
        rw [List.append_assoc, List.append_assoc]
        exact List.perm_append_comm.append_left later

mutual

/-- **The order of children matters to nothing but the order of the records**, or to which failure
comes first. -/
theorem sameFinds_walk {device other : DeviceNode} (parent : Option String) :
    Reordered device other → SameFinds (walk parent device) (walk parent other)
  | .node hItself hEnumerated hBelow => by
    have hAll := fun parent => sameFinds_walkAll parent hBelow
    rw [walk_eq, walk_eq, DeviceFacts.readId_eq_of_itself hItself,
      DeviceFacts.record_eq_of_itself hItself]
    refine .bind rfl fun id _ hId hOther => ?_
    obtain rfl := Except.ok.inj (hId.symm.trans hOther)
    refine .bind hEnumerated fun found foundOther hFound hOther => ?_
    -- what is below is the same for whatever USB device it is below
    rw [listed_of_children hFound, listed_of_children hOther] at hAll
    cases UsbId.parse? id with
    | none => exact hAll parent
    | some usb => exact (hAll (some id)).cons _

theorem sameFinds_walkAll {devices others : List DeviceNode} (parent : Option String) :
    ReorderedAll devices others → SameFinds (walkAll parent devices) (walkAll parent others)
  | .nil => .refl _
  | .cons hFirst hRest => by
    rw [walkAll_cons, walkAll_cons]
    exact (sameFinds_walkAll parent hRest).append (sameFinds_walk parent hFirst)
  | .swap device next rest => sameFinds_walkAll_swap parent device next rest
  | .trans hFirst hLast => (sameFinds_walkAll parent hFirst).trans (sameFinds_walkAll parent hLast)

end

end DeviceTree

/-! ## Reports -/

namespace DeviceNode

variable {root other : DeviceNode}

theorem DistinctIds.of_nodup (h : ((shown root).preorder.map DeviceFacts.idText).Nodup) :
    DistinctIds root := by
  refine (List.pairwise_map.mp h).imp fun hDistinct id hFirst hLast => hDistinct ?_
  rw [DeviceFacts.idText_of_readId hFirst, DeviceFacts.idText_of_readId hLast]

/-- If all ids can be read, they are all different texts. -/
theorem DistinctIds.nodup_idText (h : DistinctIds root) (hRead : AllReadable root) :
    ((shown root).preorder.map DeviceFacts.idText).Nodup := by
  have hId : ∀ facts ∈ (shown root).preorder, ∃ id, facts.readId = .ok id := by
    intro facts hMem
    rw [← Tree.map_value_subtrees] at hMem
    obtain ⟨t, ht, rfl⟩ := List.mem_map.mp hMem
    obtain ⟨device, hReach, rfl⟩ := mem_subtrees_shown_iff.mp ht
    rw [shown_eq]
    exact (hRead device hReach).id
  refine List.pairwise_map.mpr (h.imp_of_mem fun {a b} ha hb hDistinct hSame => ?_)
  obtain ⟨id, hFirst⟩ := hId a ha
  obtain ⟨next, hLast⟩ := hId b hb
  rw [DeviceFacts.idText_of_readId hFirst, DeviceFacts.idText_of_readId hLast] at hSame
  exact hDistinct id hFirst (hSame ▸ hLast)

/-- The records that a walk finds have different ids if the devices have. -/
theorem DistinctIds.nodup_records (h : DistinctIds root) {records : List UsbRecord}
    (hWalk : DeviceTree.walk none root = .ok records) : (records.map UsbRecord.id).Nodup := by
  have hRead := DeviceTree.allReadable_of_walk root hWalk
  obtain ⟨places, hPlaces, hFound⟩ := DeviceTree.gives_walk none root hRead
  rw [Option.map_none, hWalk] at hFound
  rw [Except.ok.inj hFound]
  exact (DeviceTree.allGrounded_places hPlaces (nodup_idText_contract (h.nodup_idText hRead))).ids

/-- **The order of children does not matter to the list of USB devices**: it is one list, or there
is none in either order. -/
theorem Reordered.usbRecords_eq (h : Reordered root other) (hIds : DistinctIds root)
    (locateCode : ManagerCode) :
    (∃ records, DeviceTree.usbRecords locateCode root = .ok records ∧
      DeviceTree.usbRecords locateCode other = .ok records) ∨
    ∃ error errorOther, DeviceTree.usbRecords locateCode root = .error error ∧
      DeviceTree.usbRecords locateCode other = .error errorOther := by
  rw [DeviceTree.usbRecords, DeviceTree.usbRecords]
  split_ifs
  · exact .inr ⟨_, _, rfl, rfl⟩
  · -- the records are put in order only here, after the whole walk
    have hWalks := DeviceTree.sameFinds_walk none h
    generalize hWalk : DeviceTree.walk none root = walk at hWalks ⊢
    generalize DeviceTree.walk none other = walkOther at hWalks ⊢
    cases hWalks with
    | error error other => exact .inr ⟨error, other, rfl, rfl⟩
    | ok hPerm =>
      have hSorted := Text.mergeSort_eq_of_perm UsbRecord.id hPerm
        (List.inj_on_of_nodup_map (hIds.nodup_records hWalk))
      exact .inl ⟨_, rfl, congrArg Except.ok hSorted.symm⟩

end DeviceNode

end HardwareReport.Windows
