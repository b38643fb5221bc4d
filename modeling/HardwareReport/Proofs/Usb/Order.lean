import HardwareReport.Proofs.Usb.Cycles

/-!
# Usb — the order of the forest of records

The forest stands in the order of the enumeration. Its roots are the records without a link, and
after them, for every way up that has no end, the record where the enumeration meets it first, if
nothing earlier is on its own way up. Below every device its records follow in their order too.

Ids may repeat here and records may name themselves, so the link of a record is spelled out
(`UsbRecord.LinksTo`), and the chain of links from a record is what its link leads to, the link of
that, and so on.

Main result: `UsbRecord.forest_ordered`.
-/

namespace HardwareReport.UsbRecord

open Relation

variable {records : List UsbRecord} {i p : Nat}

/-! ## Chains of links -/

/-- The link of the record with number `i` is the record with number `p`: the last one with the id
that it names, unless that is the record itself. -/
def LinksTo (records : List UsbRecord) (i p : Nat) : Prop :=
  LeadsTo records i p ∧ p ≠ i

/-- A record has no link: it names no parent, or one that is not listed, or only itself. -/
def Linkless (records : List UsbRecord) (i : Nat) : Prop :=
  ∀ p, ¬ LinksTo records i p

/-- The chain of links from a record does not come to an end, and no record on it stands before the
record itself. -/
structure LeadsChain (records : List UsbRecord) (i : Nat) : Prop where
  endless : ∀ j, ReflTransGen (LinksTo records) i j → ¬ Linkless records j
  first : ∀ j, ReflTransGen (LinksTo records) i j → i ≤ j

theorem linksTo_eq_up (records : List UsbRecord) : LinksTo records = (links records).Up := by
  ext i p
  exact parent?_links.symm

theorem linkless_iff : Linkless records i ↔ (links records).parent? i = none := by
  rw [Linkless, linksTo_eq_up, Option.eq_none_iff_forall_ne_some]
  rfl

/-- A record leads its chain exactly if a tree grows from it although it has a link. -/
theorem leadsChain_iff : LeadsChain records i ↔ (links records).IsEntry i := by
  have hEndless : (∀ j, ReflTransGen (LinksTo records) i j → ¬ Linkless records j) ↔
      ¬ (links records).Grounded i := by
    rw [Links.grounded_iff, linksTo_eq_up]
    simp only [linkless_iff, not_exists, not_and]
    exact forall_congr' fun j => imp_not_comm
  have hFirst : (∀ j, ReflTransGen (LinksTo records) i j → i ≤ j) ↔
      ∀ j, TransGen (links records).Up i j → i ≤ j := by
    rw [linksTo_eq_up]
    refine ⟨fun h j hWay => h j hWay.to_reflTransGen, fun h j hWay => ?_⟩
    rcases reflTransGen_iff_eq_or_transGen.mp hWay with rfl | hWay
    · exact Nat.le_refl j
    · exact h j hWay
  rw [Links.IsEntry, ← hEndless, ← hFirst]
  exact ⟨fun h => ⟨h.endless, h.first⟩, fun h => ⟨h.1, h.2⟩⟩

/-! ## The forest -/

open scoped Classical in
/-- **The forest stands in the order of the enumeration.** The places can be numbered so that each
record has one place and shows there what is known of it, and

* the roots are the records without a link in their order, and then in their order the records that
  lead an endless chain of links,
* what hangs directly below a place are the records that link to its record and are no roots, in
  their order. -/
theorem forest_ordered (records : List UsbRecord) :
    ∃ numbered : List (Tree Nat),
      forest records = Tree.forestMap (detailsAt records) numbered ∧
      (∀ i record, records[i]? = some record → detailsAt records i = record.details) ∧
      (Tree.forestPreorder numbered).Perm (List.range records.length) ∧
      numbered.map Tree.value =
        (List.range records.length).filter (fun i => decide (Linkless records i)) ++
          (List.range records.length).filter (fun i => decide (LeadsChain records i)) ∧
      ∀ t ∈ Tree.forestSubtrees numbered, t.branches.map Tree.value =
        (List.range records.length).filter fun i =>
          decide (LinksTo records i t.value ∧ i ∉ numbered.map Tree.value) := by
  have hOnce := Links.forestPreorder_forest_perm (links records)
  rw [size_links] at hOnce
  refine ⟨(links records).forest, rfl, fun i record => detailsAt_eq, hOnce, ?_, ?_⟩
  · rw [Links.map_value_forest_eq (inRange_links records), Links.parentless, size_links]
    congr 1
    · -- the first pass takes what has no link
      refine List.filter_congr fun i _ => ?_
      rw [Bool.eq_iff_iff, beq_iff_eq, decide_eq_true_eq, linkless_iff]
    · refine List.filter_congr fun i _ => ?_
      rw [decide_eq_decide, leadsChain_iff]
  · intro t ht
    rw [Links.map_value_branches_eq ht, Links.children, size_links, List.filter_filter]
    refine List.filter_congr fun i _ => ?_
    rw [Bool.eq_iff_iff, Bool.and_eq_true, decide_eq_true_eq, decide_eq_true_eq, beq_iff_eq,
      linksTo_eq_up, and_comm]
    rfl

end HardwareReport.UsbRecord
