import HardwareReport.Proofs.Usb.Records
import HardwareReport.Proofs.Usb.Roots

/-!
# Usb — links that lead up to a top

If all things are grounded there is no cycle to cut, and the forest is told by the links alone: its
trees top the things without a parent, and below every thing are all of its children.

* `Links.AllGrounded` — links that lead up to a top from everywhere;
* `Links.fromCycles_eq_nil` — no tree grows from a cycle;
* `Links.map_value_forest`, `Links.map_value_branches` — the tops, and what is below a thing;
* `UsbRecord.Grounded` — the same of records, by their ids.

Main result: `UsbRecord.exists_forest_of_grounded` — the forest of records that are grounded.
-/

namespace HardwareReport

namespace Links

variable {links : Links}

/-- Every thing is grounded, and no parent is anything but one of the things. -/
structure AllGrounded (links : Links) : Prop where
  parent_lt : ∀ i p, links.parent? i = some p → p < links.size
  grounded : ∀ i < links.size, Grounded links i

/-- Nothing grows if nothing is waiting. -/
theorem trees_grow_of_nil (things : List Nat) : (links.grow [] things).trees = [] := by
  induction things with
  | nil => exact trees_grow_nil
  | cons i rest ih => rw [grow_cons_of_not_mem List.not_mem_nil, ih]

/-- **If every thing is grounded, no tree grows from a cycle.** -/
theorem fromCycles_eq_nil (h : links.AllGrounded) : links.fromCycles = [] := by
  have hRange : links.InRange := h.parent_lt
  have hNone : (links.grow (List.range links.size) links.parentless).left = [] := by
    rw [List.eq_nil_iff_forall_not_mem]
    intro i hi
    obtain ⟨hLess, hNot⟩ := hRange.mem_left_parentless_iff.mp hi
    exact hNot (h.grounded i hLess)
  rw [fromCycles, hNone, trees_grow_of_nil]

/-- The trees of grounded things top those without a parent, in their order. -/
theorem map_value_forest (h : links.AllGrounded) :
    links.forest.map Tree.value = links.parentless := by
  rw [forest_eq_append, fromCycles_eq_nil h, List.append_nil, map_value_grow_parentless]

/-- Below every grounded thing hang all of its children, in their order. -/
theorem map_value_branches (h : links.AllGrounded) {t : Tree Nat}
    (ht : t ∈ Tree.forestSubtrees links.forest) :
    t.branches.map Tree.value = links.children t.value := by
  rw [map_value_branches_eq ht, List.filter_eq_self]
  intro i hi
  rw [decide_eq_true_eq, map_value_forest h, mem_parentless_iff, parent?_of_mem_children hi]
  simp

end Links

namespace UsbRecord

/-! ## Grounded records -/

/-- Going from a record to the record that it names one comes to one that names none. -/
inductive Grounded (records : List UsbRecord) : UsbRecord → Prop where
  | top {record : UsbRecord} (unknown : ∀ above ∈ records, record.parentId ≠ some above.id) :
      Grounded records record
  | child {record above : UsbRecord} (mem : above ∈ records)
      (named : record.parentId = some above.id) (grounded : Grounded records above) :
      Grounded records record

/-- Every record has an id of its own and is grounded. -/
structure AllGrounded (records : List UsbRecord) : Prop where
  ids : (records.map UsbRecord.id).Nodup
  grounded : ∀ record ∈ records, Grounded records record

section AllGrounded

variable {records : List UsbRecord} (h : AllGrounded records) {i j : Nat}
  {record above : UsbRecord}
include h

theorem AllGrounded.eq_of_id_eq (hRecord : record ∈ records) (hAbove : above ∈ records)
    (hId : record.id = above.id) : record = above :=
  List.inj_on_of_nodup_map h.ids hRecord hAbove hId

/-- A record that names itself would never come to a top. -/
theorem AllGrounded.parentId_ne_id (hRecord : record ∈ records) :
    record.parentId ≠ some record.id := by
  induction h.grounded record hRecord with
  | top unknown => exact unknown _ hRecord
  | child mem named _ ih =>
    intro hSelf
    -- the record that it names is itself, and is nearer to a top
    have hId := Option.some.inj (named.symm.trans hSelf)
    obtain rfl := h.eq_of_id_eq mem hRecord hId
    exact ih mem hSelf

/-- The links of grounded records are the names that they give each other. -/
theorem AllGrounded.parent?_links_iff (hRecord : records[i]? = some record)
    (hAbove : records[j]? = some above) :
    (links records).parent? i = some j ↔ record.parentId = some above.id := by
  rw [parent?_links, leadsTo_iff_of_nodup h.ids hRecord hAbove, and_iff_left_iff_imp]
  rintro hNamed rfl
  obtain rfl : record = above := Option.some.inj (hRecord.symm.trans hAbove)
  exact h.parentId_ne_id (List.mem_of_getElem? hRecord) hNamed

theorem AllGrounded.parent?_links_eq_none_iff (hRecord : records[i]? = some record) :
    (links records).parent? i = none ↔ ∀ above ∈ records, record.parentId ≠ some above.id := by
  constructor
  · intro hNone above hMem hNamed
    obtain ⟨j, hAbove⟩ := List.getElem?_of_mem hMem
    rw [(h.parent?_links_iff hRecord hAbove).mpr hNamed] at hNone
    exact absurd hNone (by simp)
  · intro hUnknown
    by_contra hSome
    obtain ⟨j, hParent⟩ := Option.ne_none_iff_exists'.mp hSome
    obtain ⟨⟨-, -, -, -, ⟨above, hAbove, -⟩, -⟩, -⟩ := parent?_links.mp hParent
    exact hUnknown above (List.mem_of_getElem? hAbove)
      ((h.parent?_links_iff hRecord hAbove).mp hParent)

/-- A grounded record stands for a grounded thing. -/
theorem AllGrounded.grounded_links (hGrounded : Grounded records record)
    (hRecord : records[i]? = some record) : (links records).Grounded i := by
  induction hGrounded generalizing i with
  | top unknown => exact .top ((h.parent?_links_eq_none_iff hRecord).mpr unknown)
  | child mem named _ ih =>
    obtain ⟨j, hAbove⟩ := List.getElem?_of_mem mem
    exact .child ((h.parent?_links_iff hRecord hAbove).mpr named) (ih hAbove)

theorem AllGrounded.links : (links records).AllGrounded where
  parent_lt := by
    intro i p hParent
    rw [size_links]
    exact lt_length_of_parent? hParent
  grounded := by
    intro i hi
    rw [size_links] at hi
    exact h.grounded_links (h.grounded _ (List.getElem_mem hi)) (List.getElem?_eq_getElem hi)

end AllGrounded

/-! ## The forest of grounded records -/

/-- A record names none of the records as its parent. -/
def namesNone (records : List UsbRecord) (record : UsbRecord) : Bool :=
  records.all fun above => record.parentId != some above.id

variable {α : Type}

/-- A forest of things that have records is the one that the records describe: each thing has its
place once, the tops are the things that name none, and below a thing is whatever names it. All
stand in the order of the list. -/
structure IsForest (record : α → UsbRecord) (things : List α) (own : List (Tree α)) : Prop where
  shown : forest (things.map record) = Tree.forestMap (fun a => (record a).details) own
  once : (Tree.forestPreorder own).Perm things
  tops : own.map Tree.value = things.filter fun a => namesNone (things.map record) (record a)
  below : ∀ t ∈ Tree.forestSubtrees own, t.branches.map Tree.value =
    things.filter fun a => (record a).parentId == some (record t.value).id

theorem map_getElem!_range [Inhabited α] (things : List α) :
    (List.range things.length).map (fun i => things[i]!) = things := by
  apply List.ext_getElem
  · simp
  · intro i hi hThing
    simp [hThing]

/-- What is picked by number is what is picked by what it is. -/
theorem map_filter_range [Inhabited α] {things : List α} {byNumber : Nat → Bool}
    {byThing : α → Bool} (hSame : ∀ i a, things[i]? = some a → byNumber i = byThing a) :
    ((List.range things.length).filter byNumber).map (fun i => things[i]!) =
      things.filter byThing := by
  conv_rhs => rw [← map_getElem!_range things, List.filter_map]
  congr 1
  apply List.filter_congr
  intro i hi
  have hThing : things[i]? = some things[i]! := by
    simp [List.mem_range.mp hi]
  exact hSame i _ hThing

/-- **Things whose records are grounded have the forest that the records describe.** -/
theorem exists_forest_of_grounded [Inhabited α] {record : α → UsbRecord} {things : List α}
    (h : AllGrounded (things.map record)) : ∃ own, IsForest record things own := by
  obtain ⟨numbers, hNumbers⟩ : ∃ numbers, numbers = (links (things.map record)).forest := ⟨_, rfl⟩
  have hPlaces := Links.forestPreorder_forest_perm (links (things.map record))
  rw [size_links, List.length_map, ← hNumbers] at hPlaces
  -- a number stands for the thing and for its record
  have hRecord : ∀ (i : Nat) (a : α), things[i]? = some a →
      (things.map record)[i]? = some (record a) := by
    intro i a hThing
    rw [List.getElem?_map, hThing, Option.map_some]
  have hNumber : ∀ i < things.length, things[i]? = some things[i]! := by
    intro i hi
    simp [hi]
  refine ⟨Tree.forestMap (fun i => things[i]!) numbers, ?shown, ?once, ?tops, ?below⟩
  case shown =>
    rw [forest, ← hNumbers, Tree.forestMap_forestMap]
    apply Tree.forestMap_congr
    intro i hi
    have hLess := List.mem_range.mp (hPlaces.subset hi)
    exact detailsAt_eq (hRecord i _ (hNumber i hLess))
  case once =>
    rw [Tree.forestPreorder_forestMap]
    exact (hPlaces.map _).trans (.of_eq (map_getElem!_range things))
  case tops =>
    rw [Tree.map_value_forestMap, hNumbers, Links.map_value_forest h.links, Links.parentless,
      size_links, List.length_map]
    apply map_filter_range
    intro i a hThing
    rw [Bool.eq_iff_iff, beq_iff_eq, h.parent?_links_eq_none_iff (hRecord i a hThing), namesNone,
      List.all_eq_true]
    simp
  case below =>
    intro t ht
    rw [Tree.forestSubtrees_forestMap] at ht
    obtain ⟨u, hu, rfl⟩ := List.mem_map.mp ht
    have hMem := hPlaces.subset (Tree.value_mem_forestPreorder hu)
    have hAbove := hNumber _ (List.mem_range.mp hMem)
    rw [hNumbers] at hu
    rw [Tree.branches_map, Tree.value_map, Tree.map_value_forestMap,
      Links.map_value_branches h.links hu, Links.children, size_links, List.length_map]
    apply map_filter_range
    intro i a hThing
    rw [Bool.eq_iff_iff, beq_iff_eq, beq_iff_eq,
      h.parent?_links_iff (hRecord i a hThing) (hRecord _ _ hAbove)]

section IsForest

variable {record : α → UsbRecord} {things : List α} {own : List (Tree α)}
  (h : IsForest record things own)
include h

/-- One thing hangs directly below another if it names it. -/
theorem IsForest.mem_forestEdges_iff {above below : α} :
    (above, below) ∈ Tree.forestEdges own ↔
      above ∈ things ∧ below ∈ things ∧ (record below).parentId = some (record above).id := by
  rw [Tree.mem_forestEdges_iff]
  constructor
  · rintro ⟨t, ht, rfl, hBelow⟩
    rw [h.below t ht, List.mem_filter, beq_iff_eq] at hBelow
    exact ⟨h.once.subset (Tree.value_mem_forestPreorder ht), hBelow⟩
  · rintro ⟨hAbove, hBelow⟩
    obtain ⟨t, ht, rfl⟩ := Tree.exists_value_eq (h.once.symm.subset hAbove)
    refine ⟨t, ht, rfl, ?_⟩
    rw [h.below t ht, List.mem_filter, beq_iff_eq]
    exact hBelow

/-- Tops, and what hangs directly below a thing, keep any order that the things are in. -/
theorem IsForest.pairwise {before : α → α → Prop} (hOrder : things.Pairwise before) :
    (own.map Tree.value).Pairwise before ∧
      ∀ t ∈ Tree.forestSubtrees own, (t.branches.map Tree.value).Pairwise before := by
  refine ⟨?_, fun t ht => ?_⟩
  · rw [h.tops]
    exact hOrder.filter _
  · rw [h.below t ht]
    exact hOrder.filter _

end IsForest

end UsbRecord

end HardwareReport
