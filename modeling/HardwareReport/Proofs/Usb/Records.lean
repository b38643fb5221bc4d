import HardwareReport.Proofs.Usb.Forest
import HardwareReport.Usb.Device
import Mathlib.Data.List.Range

/-!
# Usb — the forest of records

Records link to each other by ids, which may be missing, unknown, repeated or a record's own. The
link of a record is the last record with the id that it names (`parent?_links`); with it, what holds
of forests from links holds of records.

Main result: `UsbRecord.forest_numbering` — the places of the forest carry the records' numbers,
every number once, and what hangs below a place is what its record is named as a parent by.
-/

namespace HardwareReport.UsbRecord

/-! ## Ids -/

theorem lastIndex?_eq_none_iff {α : Type} {p : α → Bool} {l : List α} :
    lastIndex? p l = none ↔ ∀ a ∈ l, p a = false := by
  induction l with
  | nil => simp [lastIndex?]
  | cons a rest ih =>
    rw [List.forall_mem_cons, ← ih, lastIndex?]
    cases lastIndex? p rest with
    | some i => simp
    | none =>
      cases h : p a
      · simp
      · simp

/-- The number found is that of an element as looked for, and no later element is one. -/
theorem of_lastIndex?_eq_some {α : Type} {p : α → Bool} {l : List α} {i : Nat}
    (h : lastIndex? p l = some i) :
    (∃ a, l[i]? = some a ∧ p a = true) ∧ ∀ j a, l[j]? = some a → p a = true → j ≤ i := by
  induction l generalizing i with
  | nil => exact absurd h (by simp [lastIndex?])
  | cons first rest ih =>
    rw [lastIndex?] at h
    cases hRest : lastIndex? p rest with
    | some k =>
      rw [hRest] at h
      obtain rfl : k + 1 = i := Option.some.inj h
      obtain ⟨⟨a, ha, hp⟩, hLast⟩ := ih hRest
      refine ⟨⟨a, by rw [List.getElem?_cons_succ, ha], hp⟩, ?_⟩
      intro j b hb hpb
      cases j with
      | zero => exact Nat.zero_le _
      | succ j =>
        rw [List.getElem?_cons_succ] at hb
        exact Nat.succ_le_succ (hLast j b hb hpb)
    | none =>
      rw [hRest] at h
      cases hFirst : p first with
      | false =>
        rw [hFirst] at h
        exact absurd h (by simp)
      | true =>
        rw [hFirst] at h
        obtain rfl : 0 = i := Option.some.inj h
        refine ⟨⟨first, List.getElem?_cons_zero, hFirst⟩, ?_⟩
        intro j b hb hpb
        cases j with
        | zero => exact Nat.le_refl 0
        | succ j =>
          rw [List.getElem?_cons_succ] at hb
          -- no place after the first one counts
          have hNot := lastIndex?_eq_none_iff.mp hRest b (List.mem_of_getElem? hb)
          rw [hpb] at hNot
          exact absurd hNot (by simp)

/-- The record with number `p` is the last one with an id. -/
def IsLastWithId (records : List UsbRecord) (id : String) (p : Nat) : Prop :=
  (∃ record, records[p]? = some record ∧ record.id = id) ∧
    ∀ q record, records[q]? = some record → record.id = id → q ≤ p

/-- Of records with one id, the last is the one that is found. -/
theorem indexOf?_eq_some_iff {records : List UsbRecord} {id : String} {p : Nat} :
    indexOf? records id = some p ↔ IsLastWithId records id p := by
  constructor
  · intro h
    obtain ⟨⟨record, hRecord, hId⟩, hLast⟩ := of_lastIndex?_eq_some h
    refine ⟨⟨record, hRecord, beq_iff_eq.mp hId⟩, ?_⟩
    intro q other hOther hOtherId
    exact hLast q other hOther (beq_iff_eq.mpr hOtherId)
  · rintro ⟨⟨record, hRecord, hId⟩, hLast⟩
    cases h : indexOf? records id with
    | none =>
      have hNot := lastIndex?_eq_none_iff.mp h record (List.mem_of_getElem? hRecord)
      exact absurd hId (beq_eq_false_iff_ne.mp hNot)
    | some q =>
      -- both are last, so neither is after the other
      obtain ⟨⟨other, hOther, hOtherId⟩, hAfter⟩ := of_lastIndex?_eq_some h
      have hqp := hLast q other hOther (beq_iff_eq.mp hOtherId)
      have hpq := hAfter p record hRecord (beq_iff_eq.mpr hId)
      rw [Nat.le_antisymm hqp hpq]

/-! ## Links -/

/-- The parent id of the record with number `i` leads to the record with number `p`, which is the
last one with that id. -/
def LeadsTo (records : List UsbRecord) (i p : Nat) : Prop :=
  ∃ record id, records[i]? = some record ∧ record.parentId = some id ∧
    IsLastWithId records id p

@[simp] theorem size_links (records : List UsbRecord) :
    (links records).size = records.length := by
  rw [links, List.size_toArray, List.length_mapIdx]

/-- A record's parent is what its parent id leads to, unless that is the record itself. -/
theorem parent?_links {records : List UsbRecord} {i p : Nat} :
    (links records).parent? i = some p ↔ LeadsTo records i p ∧ p ≠ i := by
  rw [Links.parent?, links, List.getElem?_toArray, List.getElem?_mapIdx]
  constructor
  · intro h
    obtain ⟨record, hRecord, hLink⟩ := Option.map_eq_some_iff.mp (Option.join_eq_some_iff.mp h)
    obtain ⟨hNamed, hne⟩ := Option.filter_eq_some_iff.mp hLink
    obtain ⟨id, hId, hIndex⟩ := Option.bind_eq_some_iff.mp hNamed
    exact ⟨⟨record, id, hRecord, hId, indexOf?_eq_some_iff.mp hIndex⟩, bne_iff_ne.mp hne⟩
  · rintro ⟨⟨record, id, hRecord, hId, hLast⟩, hne⟩
    rw [hRecord, Option.map_some, Option.join_some, link?, hId, Option.bind_some,
      indexOf?_eq_some_iff.mpr hLast, Option.filter_some, if_pos (bne_iff_ne.mpr hne)]

theorem lt_length_of_parent? {records : List UsbRecord} {i p : Nat}
    (h : (links records).parent? i = some p) : p < records.length := by
  obtain ⟨⟨-, -, -, -, ⟨above, hAbove, -⟩, -⟩, -⟩ := parent?_links.mp h
  exact (List.getElem?_eq_some_iff.mp hAbove).1

/-- An id that no two records have is that of one record, which then is the last with it. -/
theorem isLastWithId_of_nodup {records : List UsbRecord} (hIds : (records.map UsbRecord.id).Nodup)
    {p : Nat} {above : UsbRecord} (hAbove : records[p]? = some above) :
    IsLastWithId records above.id p := by
  refine ⟨⟨above, hAbove, rfl⟩, fun q other hOther hId => Nat.le_of_eq ?_⟩
  have hIdQ : (records.map UsbRecord.id)[q]? = some above.id := by
    rw [List.getElem?_map, hOther, Option.map_some, hId]
  have hIdP : (records.map UsbRecord.id)[p]? = some above.id := by
    rw [List.getElem?_map, hAbove, Option.map_some]
  exact (List.getElem?_inj (List.getElem?_eq_some_iff.mp hIdQ).1 hIds).mp (hIdQ.trans hIdP.symm)

theorem leadsTo_iff_of_nodup {records : List UsbRecord} (hIds : (records.map UsbRecord.id).Nodup)
    {i p : Nat} {record above : UsbRecord} (hRecord : records[i]? = some record)
    (hAbove : records[p]? = some above) :
    LeadsTo records i p ↔ record.parentId = some above.id := by
  constructor
  · rintro ⟨other, id, hOther, hId, ⟨last, hLast, rfl⟩, -⟩
    obtain rfl : record = other := Option.some.inj (hRecord.symm.trans hOther)
    obtain rfl : above = last := Option.some.inj (hAbove.symm.trans hLast)
    exact hId
  · intro hNamed
    exact ⟨record, above.id, hRecord, hNamed, isLastWithId_of_nodup hIds hAbove⟩

/-! ## The forest -/

theorem detailsAt_eq {records : List UsbRecord} {i : Nat} {record : UsbRecord}
    (h : records[i]? = some record) : detailsAt records i = record.details := by
  rw [detailsAt, h, Option.map_some, Option.getD_some]

theorem map_detailsAt_range (records : List UsbRecord) :
    (List.range records.length).map (detailsAt records) = records.map UsbRecord.details := by
  apply List.ext_getElem?
  intro i
  rw [List.getElem?_map, List.getElem?_map]
  cases h : records[i]? with
  | none =>
    rw [List.getElem?_eq_none_iff] at h
    rw [List.getElem?_eq_none (by rw [List.length_range]; exact h), Option.map_none,
      Option.map_none]
  | some record =>
    have hi : i < records.length := (List.getElem?_eq_some_iff.mp h).1
    rw [List.getElem?_range hi, Option.map_some, Option.map_some, detailsAt_eq h]

/-- The forest lists what is known of every record once. -/
theorem forestPreorder_forest_perm (records : List UsbRecord) :
    (Tree.forestPreorder (forest records)).Perm (records.map UsbRecord.details) := by
  have hOnce := Links.forestPreorder_forest_perm (links records)
  rw [size_links] at hOnce
  rw [forest, Tree.forestPreorder_forestMap, ← map_detailsAt_range]
  exact hOnce.map (detailsAt records)

/-- **Every record has one place in the forest, below the record it names.** The places can be
numbered so that

* each shows what is known of the record with its number,
* each number of a record is that of one place, and there are no other places,
* a place is directly below another only if the parent id of its record leads there, and a place
  that is no root is directly below another.

So the forest in preorder lists the same devices as the flat report, and as many. -/
theorem forest_numbering (records : List UsbRecord) :
    ∃ numbered : List (Tree Nat),
      forest records = Tree.forestMap (detailsAt records) numbered ∧
      (∀ i record, records[i]? = some record → detailsAt records i = record.details) ∧
      (Tree.forestPreorder numbered).Perm (List.range records.length) ∧
      (∀ above below, (above, below) ∈ Tree.forestEdges numbered →
        LeadsTo records below above) ∧
      (∀ i < records.length, i ∉ numbered.map Tree.value →
        ∃ above, LeadsTo records i above ∧ (above, i) ∈ Tree.forestEdges numbered) ∧
      ((Tree.forestPreorder (forest records)).map Tree.leaf).Perm (flat records) ∧
      ((forest records).map Tree.size).sum = records.length := by
  have hOnce := Links.forestPreorder_forest_perm (links records)
  rw [size_links] at hOnce
  have hEdge : ∀ above below, (above, below) ∈ Tree.forestEdges (links records).forest →
      LeadsTo records below above := fun above below h =>
    (parent?_links.mp (Links.parent?_of_mem_forestEdges h)).1
  refine ⟨(links records).forest, rfl, fun i record => detailsAt_eq, hOnce, hEdge, ?_, ?_, ?_⟩
  · intro i hi hTop
    have hMem : i ∈ Tree.forestPreorder (links records).forest :=
      hOnce.mem_iff.mpr (List.mem_range.mpr hi)
    -- what is in the forest and no root hangs below something
    obtain ⟨above, hAbove⟩ := Tree.exists_edge_of_mem hMem hTop
    exact ⟨above, hEdge above i hAbove, hAbove⟩
  · have hFlat : flat records = (records.map UsbRecord.details).map Tree.leaf := by
      rw [flat, List.map_map]
      rfl
    rw [hFlat]
    exact (forestPreorder_forest_perm records).map Tree.leaf
  · rw [← Tree.forestSize_eq_sum, ← Tree.length_forestPreorder,
      (forestPreorder_forest_perm records).length_eq, List.length_map]

end HardwareReport.UsbRecord
