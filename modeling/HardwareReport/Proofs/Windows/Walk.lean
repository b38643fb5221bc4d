import HardwareReport.Proofs.Answer
import HardwareReport.Proofs.Tree.Contraction
import HardwareReport.Windows.DeviceTree

/-!
# Windows — the walk over the device tree

The configuration manager shows of a tree what its enumerations come to. The walk gets to all of it
or fails: it gives records exactly if every device that can be reached has an id that can be read
and children that can be enumerated. The records then are those of the USB devices of the tree, each
below the USB device next above it.

The argument goes down the tree. What the walk hands down is the device that the thinned out tree
places the devices below (`gives_walk`); the order in which it takes the children matters to nothing
but the order of the records.

* `DeviceNode.shown` — what is shown of a tree;
* `DeviceNode.Reachable`, `DeviceNode.Readable` — the devices that enumerations come to, and those
  of which everything can be read;
* `DeviceNode.mem_subtrees_shown_iff` — what is shown is what can be reached;
* `DeviceTree.allReadable_of_walk`, `DeviceTree.gives_walk` — when the walk gives records, and
  which.
-/

namespace HardwareReport.Windows

/-! ## Devices -/

namespace DeviceFacts

/-- The id of a device. One that cannot be read is empty. -/
def idText (facts : DeviceFacts) : String :=
  facts.readId.toOption.getD ""

/-- Whether the id of a device is that of a USB device. -/
def isUsb (facts : DeviceFacts) : Bool :=
  (UsbId.parse? facts.idText).isSome

/-- The record of a USB device that is below another or not. -/
def recordBelow (above : Option DeviceFacts) (facts : DeviceFacts) : UsbRecord :=
  facts.record (above.map idText) facts.idText ((UsbId.parse? facts.idText).getD ⟨"", "", ""⟩)

theorem idText_of_readId {facts : DeviceFacts} {id : String} (h : facts.readId = .ok id) :
    facts.idText = id := by
  rw [idText, h]
  rfl

end DeviceFacts

namespace DeviceNode

/-- The devices that enumerating the children of a device comes to. -/
def listed (device : DeviceNode) : List DeviceNode :=
  (children device).toOption.getD []

theorem listed_of_children {device : DeviceNode} {found : List DeviceNode}
    (h : children device = .ok found) : listed device = found := by
  rw [listed, h]
  rfl

theorem siblings_eq_take {devices found : List DeviceNode} (h : siblings devices = .ok found) :
    found = devices.take found.length := by
  induction devices generalizing found with
  | nil =>
    obtain rfl := Except.ok.inj h
    rfl
  | cons device rest ih =>
    rw [siblings] at h
    split_ifs at h with hNext hLast
    · obtain ⟨others, hOthers, rfl⟩ := Answer.map_eq_ok_iff.mp h
      rw [List.length_cons, List.take_succ_cons, ← ih hOthers]
    · obtain rfl := Except.ok.inj h
      rfl

/-- An enumeration comes to the first of the devices below. -/
theorem children_eq_take {device : DeviceNode} {found : List DeviceNode}
    (h : children device = .ok found) : found = device.branches.take found.length := by
  rw [children] at h
  split_ifs at h
  · exact siblings_eq_take h
  · obtain rfl := Except.ok.inj h
    rfl

theorem listed_eq_take (device : DeviceNode) :
    listed device = device.branches.take (listed device).length := by
  cases h : children device with
  | error fault =>
    rw [listed, h]
    rfl
  | ok found =>
    rw [listed_of_children h]
    exact children_eq_take h

mutual

/-- What is shown of a tree: its top and what is shown of the devices that enumerating its children
comes to. -/
def shown : DeviceNode → Tree DeviceFacts
  | .node facts below => .node facts (shownFirst (listed (.node facts below)).length below)

/-- What is shown of the first `count` of several trees. -/
def shownFirst (count : Nat) : List DeviceNode → List (Tree DeviceFacts)
  | [] => []
  | device :: rest =>
    match count with
    | 0 => []
    | count + 1 => shown device :: shownFirst count rest

end

theorem shownFirst_eq_map (count : Nat) (devices : List DeviceNode) :
    shownFirst count devices = (devices.take count).map shown := by
  induction devices generalizing count with
  | nil => simp [shownFirst]
  | cons device rest ih =>
    cases count with
    | zero => simp [shownFirst]
    | succ count => rw [shownFirst, ih, List.take_succ_cons, List.map_cons]

theorem shown_eq (device : DeviceNode) :
    shown device = .node device.value ((listed device).map shown) := by
  obtain ⟨facts, below⟩ := device
  have hListed : listed (.node facts below) =
      below.take (listed (.node facts below)).length := listed_eq_take _
  rw [shown, shownFirst_eq_map, ← hListed]
  rfl

/-! ## What can be reached -/

/-- A device is what the walk starts from or is listed below one that can be reached. -/
inductive Reachable (root : DeviceNode) : DeviceNode → Prop where
  | root : Reachable root root
  | child {device next : DeviceNode} (reach : Reachable root device) (mem : next ∈ listed device) :
      Reachable root next

/-- The id of a device can be read, and its children can be enumerated. -/
structure Readable (device : DeviceNode) : Prop where
  id : ∃ id, device.value.readId = .ok id
  children : ∃ found, DeviceNode.children device = .ok found

/-- Everything can be read of every device that can be reached. -/
def AllReadable (root : DeviceNode) : Prop :=
  ∀ device, Reachable root device → Readable device

theorem Reachable.head {root child device : DeviceNode} (hMem : child ∈ listed root)
    (h : Reachable child device) : Reachable root device := by
  induction h with
  | root => exact .child .root hMem
  | child _ mem ih => exact .child ih mem

theorem Reachable.eq_or_exists {root device : DeviceNode} (h : Reachable root device) :
    device = root ∨ ∃ child ∈ listed root, Reachable child device := by
  induction h with
  | root => exact .inl rfl
  | child _ mem ih =>
    rcases ih with rfl | ⟨first, hFirst, hReach⟩
    · exact .inr ⟨_, mem, .root⟩
    · exact .inr ⟨first, hFirst, .child hReach mem⟩

theorem allReadable_iff {root : DeviceNode} :
    AllReadable root ↔ Readable root ∧ ∀ child ∈ listed root, AllReadable child := by
  constructor
  · intro h
    exact ⟨h root .root, fun child hMem device hReach => h device (hReach.head hMem)⟩
  · rintro ⟨hRoot, hBelow⟩ device hReach
    rcases hReach.eq_or_exists with rfl | ⟨child, hMem, hReach⟩
    · exact hRoot
    · exact hBelow child hMem device hReach

mutual

theorem exists_reachable_of_mem_subtrees {t : Tree DeviceFacts} : ∀ device : DeviceNode,
    t ∈ (shown device).subtrees → ∃ next, Reachable device next ∧ shown next = t
  | .node facts below => by
    intro ht
    have hListed : listed (.node facts below) =
        below.take (listed (.node facts below)).length := listed_eq_take _
    rw [shown, Tree.subtrees] at ht
    rcases List.mem_cons.mp ht with rfl | hDeep
    · exact ⟨_, .root, by rw [shown]⟩
    · obtain ⟨child, hMem, next, hReach, hShown⟩ :=
        exists_reachable_of_mem_forestSubtrees below hDeep
      rw [← hListed] at hMem
      exact ⟨next, hReach.head hMem, hShown⟩

/-- Each tree that is shown of some devices is that of one that can be reached from them. -/
theorem exists_reachable_of_mem_forestSubtrees {t : Tree DeviceFacts} {count : Nat} :
    ∀ devices : List DeviceNode, t ∈ Tree.forestSubtrees (shownFirst count devices) →
      ∃ device ∈ devices.take count, ∃ next, Reachable device next ∧ shown next = t
  | [] => fun ht => absurd ht (by simp [shownFirst, Tree.forestSubtrees])
  | device :: rest => by
    intro ht
    cases count with
    | zero => exact absurd ht (by simp [shownFirst, Tree.forestSubtrees])
    | succ count =>
      rw [shownFirst, Tree.forestSubtrees] at ht
      rw [List.take_succ_cons, List.exists_mem_cons_iff]
      rcases List.mem_append.mp ht with hHere | hLater
      · exact .inl (exists_reachable_of_mem_subtrees device hHere)
      · exact .inr (exists_reachable_of_mem_forestSubtrees rest hLater)

end

/-- **What is shown of a tree is what can be reached.** -/
theorem mem_subtrees_shown_iff {root : DeviceNode} {t : Tree DeviceFacts} :
    t ∈ (shown root).subtrees ↔ ∃ device, Reachable root device ∧ shown device = t := by
  refine ⟨exists_reachable_of_mem_subtrees root, ?_⟩
  rintro ⟨device, hReach, rfl⟩
  induction hReach with
  | root =>
    rw [shown_eq, Tree.subtrees]
    exact List.mem_cons_self ..
  | child _ mem ih =>
    refine Tree.subtrees_branches_subset _ ih ?_
    rw [shown_eq]
    exact Tree.mem_forestSubtrees_of_mem (List.mem_map_of_mem mem)

end DeviceNode

/-! ## The walk -/

namespace DeviceTree

open DeviceNode

mutual

/-- **A walk that gives records has read everything that can be reached.** -/
theorem allReadable_of_walk {parent : Option String} {records : List UsbRecord} :
    ∀ device : DeviceNode, walk parent device = .ok records → AllReadable device
  | .node facts below => by
    intro h
    rw [walk] at h
    obtain ⟨id, hId, h⟩ := Answer.bind_eq_ok_iff.mp h
    obtain ⟨found, hFound, h⟩ := Answer.bind_eq_ok_iff.mp h
    -- what is below is walked whether the device is one of USB or not
    have hBelow : ∃ parent records, walkLast parent found.length below = .ok records := by
      cases hParse : UsbId.parse? id with
      | none =>
        rw [hParse] at h
        exact ⟨_, _, h⟩
      | some usb =>
        rw [hParse] at h
        obtain ⟨others, hOthers, -⟩ := Answer.bind_eq_ok_iff.mp h
        exact ⟨_, _, hOthers⟩
    obtain ⟨parent, others, hOthers⟩ := hBelow
    refine allReadable_iff.mpr ⟨⟨⟨id, hId⟩, ⟨found, hFound⟩⟩, ?_⟩
    rw [listed_of_children hFound, children_eq_take hFound]
    exact allReadable_of_walkLast below hOthers

/-- A walk that ends well has met no device that cannot be read. -/
theorem allReadable_of_walkLast {parent : Option String} {count : Nat} {records : List UsbRecord} :
    ∀ devices : List DeviceNode, walkLast parent count devices = .ok records →
      ∀ device ∈ devices.take count, AllReadable device
  | [] => fun _ device hMem => absurd hMem (by simp)
  | device :: rest => by
    intro h
    cases count with
    | zero => exact fun other hMem => absurd hMem (by simp)
    | succ count =>
      rw [walkLast] at h
      obtain ⟨later, hLater, h⟩ := Answer.bind_eq_ok_iff.mp h
      obtain ⟨here, hHere, -⟩ := Answer.bind_eq_ok_iff.mp h
      rw [List.take_succ_cons, List.forall_mem_cons]
      exact ⟨allReadable_of_walk device hHere, allReadable_of_walkLast rest hLater⟩

end

section Steps

variable {parent : Option String} {facts : DeviceFacts} {id : String}
  {below found : List DeviceNode}
  (hId : facts.readId = .ok id) (hFound : DeviceNode.children (.node facts below) = .ok found)
include hId hFound

theorem walk_of_isUsb (hUsb : facts.isUsb = true) :
    walk parent (.node facts below) =
      (walkLast (some facts.idText) found.length below).map (facts.record parent facts.idText
        ((UsbId.parse? facts.idText).getD ⟨"", "", ""⟩) :: ·) := by
  obtain ⟨usb, hParse⟩ := Option.isSome_iff_exists.mp hUsb
  rw [walk, hId, hFound, hParse, DeviceFacts.idText_of_readId hId]
  rw [DeviceFacts.idText_of_readId hId] at hParse
  simp only [bind, Except.bind, hParse]
  cases walkLast (some id) found.length below <;> rfl

theorem walk_of_not_isUsb (hUsb : facts.isUsb = false) :
    walk parent (.node facts below) = walkLast parent found.length below := by
  have hParse := Option.isSome_eq_false_iff.mp hUsb
  rw [DeviceFacts.idText_of_readId hId, Option.isNone_iff_eq_none] at hParse
  rw [walk, hId, hFound]
  simp only [bind, Except.bind, hParse]

end Steps

/-- A device with the one that it is placed below. -/
abbrev Place := DeviceFacts × Option DeviceFacts

/-- The record of a device at a place. -/
def Place.record (place : Place) : UsbRecord :=
  place.1.recordBelow place.2

/-- An answer has the records of places, in whatever order. -/
def Gives (answer : Answer (List UsbRecord)) (places : List Place) : Prop :=
  ∃ found : List Place, found.Perm places ∧ answer = .ok (found.map Place.record)

mutual

/-- **If everything can be read, the walk gives the records of the USB devices that are shown**,
each below the USB device next above it. -/
theorem gives_walk (above : Option DeviceFacts) : ∀ device : DeviceNode, AllReadable device →
    Gives (walk (above.map DeviceFacts.idText) device)
      (Tree.forestPlaced above (Tree.contract DeviceFacts.isUsb (shown device)))
  | .node facts below => by
    intro h
    obtain ⟨⟨⟨id, hRead⟩, ⟨found, hFound⟩⟩, hBelow⟩ := allReadable_iff.mp h
    have hId : facts.readId = .ok id := hRead
    rw [listed_of_children hFound, children_eq_take hFound] at hBelow
    rw [shown, listed_of_children hFound, Tree.contract]
    cases hUsb : facts.isUsb with
    | true =>
      -- what is below has this device above it
      obtain ⟨places, hPerm, hWalk⟩ := gives_walkLast (some facts) below hBelow
      rw [walk_of_isUsb hId hFound hUsb, if_pos rfl, Tree.forestPlaced, Tree.placed,
        Tree.forestPlaced, List.append_nil]
      refine ⟨(facts, above) :: places, hPerm.cons _, ?_⟩
      rw [Option.map_some] at hWalk
      rw [hWalk]
      rfl
    | false =>
      rw [walk_of_not_isUsb hId hFound hUsb, if_neg (by simp)]
      exact gives_walkLast above below hBelow

/-- Devices that can be read are found where the contracted trees have them. -/
theorem gives_walkLast (above : Option DeviceFacts) {count : Nat} :
    ∀ devices : List DeviceNode, (∀ device ∈ devices.take count, AllReadable device) →
      Gives (walkLast (above.map DeviceFacts.idText) count devices)
        (Tree.forestPlaced above
          (Tree.forestContract DeviceFacts.isUsb (shownFirst count devices)))
  | [] => fun _ => ⟨[], .nil, by rw [walkLast]; rfl⟩
  | device :: rest => by
    intro h
    cases count with
    | zero => exact ⟨[], .nil, by rw [walkLast]; rfl⟩
    | succ count =>
      rw [List.take_succ_cons, List.forall_mem_cons] at h
      obtain ⟨here, hHere, hWalk⟩ := gives_walk above device h.1
      obtain ⟨later, hLater, hWalkLast⟩ := gives_walkLast above rest h.2
      refine ⟨later ++ here, ?_, ?_⟩
      · -- the walk takes the later trees first
        rw [shownFirst, Tree.forestContract, Tree.forestPlaced_append]
        exact List.perm_append_comm.trans (hHere.append hLater)
      · rw [walkLast, hWalkLast, hWalk, List.map_append]
        rfl

end

end DeviceTree

end HardwareReport.Windows
