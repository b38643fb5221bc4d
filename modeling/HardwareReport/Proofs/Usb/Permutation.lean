import HardwareReport.Proofs.Tree.Reordering
import HardwareReport.Proofs.Usb.Cycles

/-!
# Usb — records listed in another order

In what order records are listed decides where a cycle of links is cut. If there is no cycle, no
link is cut, so what hangs below what is told by the records themselves: a record hangs below the
one that it names (`mem_forestEdges_placed_iff`). The order of the list is then left to siblings
only, whether or not parents are listed before what hangs below them.

A record that names itself has no link, and may do so here.

* `Names` — a record names another one of a list as its parent;
* `Acyclic` — no record is on a cycle of links;
* `placed` — the forest with the records at their places.

Main result: `forest_reordered_of_perm`.
-/

namespace HardwareReport

open Relation

/-! ## Links without cycles -/

/-- Without cycles nothing is cut off from its parent. -/
theorem Links.InRange.mem_forestEdges_iff_up {links : Links} (hRange : links.InRange)
    (hAcyclic : ∀ i, ¬ OnCycle links.Up i) {i p : Nat} :
    (p, i) ∈ Tree.forestEdges links.forest ↔ links.Up i p := by
  constructor
  · exact parent?_of_mem_forestEdges
  · intro hUp
    have hStart : i ∉ cycleStarts links.Up := fun hStart => hAcyclic i hStart.1
    have hStray : i ∉ strays links.Up := by
      rintro ⟨⟨-, j, -, hCycle⟩, -⟩
      exact hAcyclic j hCycle
    exact (hRange.mem_forestEdges_iff hUp).mpr ⟨hStart, hStray⟩

namespace UsbRecord

variable {records others : List UsbRecord}

/-! ## Records that name each other -/

/-- A record of a list names another one of them as its parent. -/
structure Names (records : List UsbRecord) (record above : UsbRecord) : Prop where
  mem : record ∈ records
  above_mem : above ∈ records
  ne : above ≠ record
  named : record.parentId = some above.id

/-- Going from record to record along the names of parents one never comes back. -/
def Acyclic (records : List UsbRecord) : Prop :=
  ∀ record, ¬ TransGen (Names records) record record

theorem names_eq_of_perm (hPerm : records.Perm others) : Names records = Names others := by
  ext record above
  constructor
  · exact fun h => ⟨hPerm.subset h.mem, hPerm.subset h.above_mem, h.ne, h.named⟩
  · exact fun h => ⟨hPerm.symm.subset h.mem, hPerm.symm.subset h.above_mem, h.ne, h.named⟩

/-! ## Records at their places -/

/-- The record with number `i`. -/
def recordAt (records : List UsbRecord) (i : Nat) : UsbRecord :=
  records[i]?.getD ⟨"", none, {}⟩

theorem recordAt_eq {i : Nat} {record : UsbRecord} (h : records[i]? = some record) :
    recordAt records i = record := by
  rw [recordAt, h, Option.getD_some]

theorem map_recordAt_range (records : List UsbRecord) :
    (List.range records.length).map (recordAt records) = records := by
  apply List.ext_getElem
  · simp
  · intro i hi hRecord
    rw [List.getElem_map, List.getElem_range]
    exact recordAt_eq (List.getElem?_eq_getElem hRecord)

/-- The forest with the records at their places. -/
def placed (records : List UsbRecord) : List (Tree UsbRecord) :=
  Tree.forestMap (recordAt records) (links records).forest

theorem forest_eq_placed (records : List UsbRecord) :
    forest records = Tree.forestMap UsbRecord.details (placed records) := by
  have hDetails : detailsAt records = UsbRecord.details ∘ recordAt records := by
    funext i
    rw [detailsAt, Function.comp_apply, recordAt]
    cases records[i]? <;> rfl
  rw [forest, placed, Tree.forestMap_forestMap, hDetails]

/-- Every record has one place. -/
theorem forestPreorder_placed_perm (records : List UsbRecord) :
    (Tree.forestPreorder (placed records)).Perm records := by
  have hOnce := (Links.forestPreorder_forest_perm (links records)).map (recordAt records)
  rw [size_links, map_recordAt_range] at hOnce
  rw [placed, Tree.forestPreorder_forestMap]
  exact hOnce

section OwnIds

variable (hIds : (records.map UsbRecord.id).Nodup)
include hIds

/-- By records or by their numbers, it is the same that is named. -/
theorem names_iff_namesOther {i p : Nat} {record above : UsbRecord}
    (hRecord : records[i]? = some record) (hAbove : records[p]? = some above) :
    Names records record above ↔ NamesOther records i p := by
  -- ids are not repeated, so a record has one number
  have hSame : above = record ↔ p = i := by
    constructor
    · rintro rfl
      have hLess := (List.getElem?_eq_some_iff.mp hAbove).1
      exact (List.getElem?_inj hLess hIds.of_map).mp (hAbove.trans hRecord.symm)
    · rintro rfl
      exact Option.some.inj (hAbove.symm.trans hRecord)
  constructor
  · exact fun h =>
      ⟨fun hNumber => h.ne (hSame.mpr hNumber), record, above, hRecord, hAbove, h.named⟩
  · rintro ⟨hne, other, otherAbove, hOther, hOtherAbove, hNamed⟩
    obtain rfl : record = other := Option.some.inj (hRecord.symm.trans hOther)
    obtain rfl : above = otherAbove := Option.some.inj (hAbove.symm.trans hOtherAbove)
    exact ⟨List.mem_of_getElem? hRecord, List.mem_of_getElem? hAbove,
      fun hRecords => hne (hSame.mp hRecords), hNamed⟩

theorem names_recordAt {i p : Nat} (h : NamesOther records i p) :
    Names records (recordAt records i) (recordAt records p) := by
  obtain ⟨hne, record, above, hRecord, hAbove, hNamed⟩ := h
  rw [recordAt_eq hRecord, recordAt_eq hAbove, names_iff_namesOther hIds hRecord hAbove]
  exact ⟨hne, record, above, hRecord, hAbove, hNamed⟩

/-- The numbers of records that are on no cycle are on no cycle. -/
theorem not_onCycle_links (hAcyclic : Acyclic records) (i : Nat) :
    ¬ Links.OnCycle (links records).Up i := by
  rw [← namesOther_eq_up hIds]
  intro hCycle
  exact hAcyclic _ (hCycle.lift (recordAt records) fun _ _ => names_recordAt hIds)

/-- **A record hangs directly below another exactly if it names it.** -/
theorem mem_forestEdges_placed_iff (hAcyclic : Acyclic records) {record above : UsbRecord} :
    (above, record) ∈ Tree.forestEdges (placed records) ↔ Names records record above := by
  have hEdge : ∀ i p, (p, i) ∈ Tree.forestEdges (links records).forest ↔
      NamesOther records i p := by
    intro i p
    rw [(inRange_links records).mem_forestEdges_iff_up (not_onCycle_links hIds hAcyclic),
      namesOther_eq_up hIds]
  rw [placed, Tree.forestEdges_forestMap, List.mem_map]
  constructor
  · rintro ⟨⟨p, i⟩, hNumbers, hPair⟩
    obtain ⟨rfl, rfl⟩ := Prod.mk.inj hPair
    exact names_recordAt hIds ((hEdge i p).mp hNumbers)
  · intro hNames
    obtain ⟨i, hRecord⟩ := List.getElem?_of_mem hNames.mem
    obtain ⟨p, hAbove⟩ := List.getElem?_of_mem hNames.above_mem
    refine ⟨(p, i), (hEdge i p).mpr ((names_iff_namesOther hIds hRecord hAbove).mp hNames), ?_⟩
    rw [Prod.map, recordAt_eq hRecord, recordAt_eq hAbove]

end OwnIds

/-! ## Another order -/

/-- **Records in another order have the same forest but for the order of siblings,** if each has an
id of its own and there is no cycle of links. The records can be put at the places of both forests
so that in both each has one place, and hangs directly below the record that it names. -/
theorem forest_reordered_of_perm (hPerm : records.Perm others)
    (hIds : (records.map UsbRecord.id).Nodup) (hAcyclic : Acyclic records) :
    Tree.ForestReordered (forest records) (forest others) ∧
    ∃ own otherOwn : List (Tree UsbRecord),
      forest records = Tree.forestMap UsbRecord.details own ∧
      forest others = Tree.forestMap UsbRecord.details otherOwn ∧
      Tree.ForestReordered own otherOwn ∧
      (Tree.forestPreorder own).Perm records ∧
      (∀ above record,
        (above, record) ∈ Tree.forestEdges own ↔ Names records record above) ∧
      ∀ above record,
        (above, record) ∈ Tree.forestEdges otherOwn ↔ Names records record above := by
  have hOtherIds : (others.map UsbRecord.id).Nodup := (hPerm.map UsbRecord.id).nodup_iff.mp hIds
  have hOtherAcyclic : Acyclic others := by
    rw [Acyclic, ← names_eq_of_perm hPerm]
    exact hAcyclic
  have hOnce := forestPreorder_placed_perm records
  have hEdges : ∀ above record,
      (above, record) ∈ Tree.forestEdges (placed records) ↔ Names records record above :=
    fun above record => mem_forestEdges_placed_iff hIds hAcyclic
  have hOtherEdges : ∀ above record,
      (above, record) ∈ Tree.forestEdges (placed others) ↔ Names records record above := by
    intro above record
    rw [mem_forestEdges_placed_iff hOtherIds hOtherAcyclic, names_eq_of_perm hPerm]
  -- the same values and the same edges leave the order of siblings only
  have hPlaced : Tree.ForestReordered (placed records) (placed others) := by
    refine Tree.forestReordered_of_edges (hOnce.nodup_iff.mpr hIds.of_map) ?_ ?_
    · exact (hOnce.trans hPerm).trans (forestPreorder_placed_perm others).symm
    · intro above record
      rw [hEdges, hOtherEdges]
  refine ⟨?_, placed records, placed others, forest_eq_placed records, forest_eq_placed others,
    hPlaced, hOnce, hEdges, hOtherEdges⟩
  rw [forest_eq_placed, forest_eq_placed]
  exact hPlaced.forestMap UsbRecord.details

/-- Two devices at a hub that is plugged into a controller, each listed before what it hangs off.
The controller names itself. -/
def childrenFirst : List UsbRecord :=
  [plainRecord "1-1.2" "1-1", plainRecord "1-1.1" "1-1", plainRecord "1-1" "usb1",
    plainRecord "usb1" "usb1"]

/-- From these records, names lead to a root in two steps at most. -/
theorem acyclic_childrenFirst : Acyclic childrenFirst := by
  -- a record that is named stands further down in the list
  have hDown : childrenFirst.all (fun record => childrenFirst.all fun above =>
      above == record || record.parentId != some above.id ||
        decide (childrenFirst.idxOf record < childrenFirst.idxOf above)) = true := by
    decide +kernel
  have hNames : ∀ record above, Names childrenFirst record above →
      childrenFirst.idxOf record < childrenFirst.idxOf above := by
    intro record above h
    have hPair := List.all_eq_true.mp (List.all_eq_true.mp hDown record h.mem) above h.above_mem
    simpa [h.ne, h.named] using hPair
  intro record hCycle
  have hLess := hCycle.lift (p := (· < ·)) childrenFirst.idxOf hNames
  rw [transGen_eq_self] at hLess
  exact absurd hLess (Nat.lt_irrefl _)

/-- Records that come before those they name, and the other way round. -/
theorem forest_reordered_of_perm_childrenFirst :
    childrenFirst.Perm childrenFirst.reverse ∧ (childrenFirst.map UsbRecord.id).Nodup ∧
    Acyclic childrenFirst ∧
    Tree.ForestReordered (forest childrenFirst) (forest childrenFirst.reverse) ∧
    ∃ otherOwn : List (Tree UsbRecord),
      forest childrenFirst.reverse = Tree.forestMap UsbRecord.details otherOwn ∧
      (plainRecord "1-1" "usb1", plainRecord "1-1.2" "1-1") ∈ Tree.forestEdges otherOwn := by
  have hPerm : childrenFirst.Perm childrenFirst.reverse := (List.reverse_perm _).symm
  have hIds : (childrenFirst.map UsbRecord.id).Nodup := by decide
  have hNames : Names childrenFirst (plainRecord "1-1.2" "1-1") (plainRecord "1-1" "usb1") :=
    ⟨by decide, by decide, by decide, rfl⟩
  obtain ⟨hForests, -, otherOwn, -, hOther, -, -, -, hEdges⟩ :=
    forest_reordered_of_perm hPerm hIds acyclic_childrenFirst
  exact ⟨hPerm, hIds, acyclic_childrenFirst, hForests, otherOwn, hOther, (hEdges _ _).mpr hNames⟩

end UsbRecord

end HardwareReport
