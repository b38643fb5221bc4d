import HardwareReport.Proofs.Usb.Records
import HardwareReport.Proofs.Usb.Roots
import Mathlib.Data.Set.Card
import Mathlib.Order.Lattice.Nat

/-!
# Usb — cycles of parent links

As a thing has no more than one parent, there is one way up from it. The way ends at a thing
without a parent, or it comes to a cycle and stays there. So besides grounded things there are those
on a cycle and those that hang off one.

To be put in a forest a cycle has to lose a link, and the one that it loses is that of its first
thing. The things that hang off a cycle could all stay where they hang. One that comes before all
others on its way up does not: when its turn comes nothing has grown that it could hang below, and
it becomes a root although no cycle goes through it. These are the strays.

* `Links.OnCycle`, `Links.cycles` — the things on cycles, and the cycles;
* `Links.HangsOff`, `Links.strays` — the things that hang off cycles, and those that are cut off;
* `UsbRecord.NamesOther` — the links of records of which each has an id of its own.

Main result: `UsbRecord.forest_cuts` — the links that are cut and the count of the roots.
-/

namespace HardwareReport

namespace Links

open Relation

/-! ## Cycles -/

section Up

variable (up : Nat → Nat → Prop)

/-- Going up from a thing one comes back to it. -/
def OnCycle (i : Nat) : Prop :=
  TransGen up i i

/-- The cycles. On each are the things that one comes to from any of them. -/
def cycles : Set (Set Nat) :=
  {cycle | ∃ i, OnCycle up i ∧ cycle = {j | TransGen up i j}}

/-- A thing is on no cycle, but going up from it one comes to one. -/
def HangsOff (i : Nat) : Prop :=
  ¬ OnCycle up i ∧ ∃ j, TransGen up i j ∧ OnCycle up j

/-- The things that hang off a cycle and come before all on their way up. -/
def strays : Set Nat :=
  {i | HangsOff up i ∧ ∀ j, TransGen up i j → i < j}

/-- The first things of the cycles. -/
def cycleStarts : Set Nat :=
  {i | OnCycle up i ∧ ∀ j, TransGen up i j → i ≤ j}

end Up

variable {links : Links} {i j p : Nat}

/-! ## One way up -/

/-- Every way up from a thing goes by its parent. -/
theorem Up.way_of_transGen (hUp : links.Up i p) (hWay : TransGen links.Up i j) :
    ReflTransGen links.Up p j := by
  obtain ⟨q, hOther, hRest⟩ := TransGen.head'_iff.mp hWay
  obtain rfl : p = q := Option.some.inj (hUp.symm.trans hOther)
  exact hRest

theorem OnCycle.transGen_of_up (h : OnCycle links.Up i) (hUp : links.Up i p) :
    TransGen links.Up p i := by
  rcases reflTransGen_iff_eq_or_transGen.mp (hUp.way_of_transGen h) with rfl | hWay
  · exact h
  · exact hWay

/-- From whatever one comes to from a thing on a cycle, one comes back to it. -/
theorem OnCycle.transGen_symm (h : OnCycle links.Up i) (hWay : TransGen links.Up i j) :
    TransGen links.Up j i := by
  induction hWay with
  | single hUp => exact h.transGen_of_up hUp
  | tail hWay hUp ih =>
    -- whatever comes back to `i` is on a cycle itself, and so is its parent
    have hMiddle : OnCycle links.Up _ := ih.trans hWay
    exact (hMiddle.transGen_of_up hUp).trans ih

/-- The things of a cycle are what one comes to from any of them. -/
theorem eq_of_mem_of_mem_cycles {cycle : Set Nat} (hCycle : cycle ∈ cycles links.Up)
    (hi : i ∈ cycle) : OnCycle links.Up i ∧ cycle = {j | TransGen links.Up i j} := by
  obtain ⟨first, hFirst, rfl⟩ := hCycle
  have hBack := hFirst.transGen_symm hi
  exact ⟨hBack.trans hi, Set.ext fun j => ⟨hBack.trans, hi.trans⟩⟩

theorem Grounded.not_onCycle (h : links.Grounded i) : ¬ OnCycle links.Up i := by
  induction h with
  | top parentless =>
    intro hCycle
    obtain ⟨p, hUp, -⟩ := TransGen.head'_iff.mp hCycle
    rw [Up, parentless] at hUp
    exact absurd hUp (by simp)
  | child parent _ ih => exact fun hCycle => ih ((hCycle.transGen_of_up parent).tail parent)

theorem Grounded.of_up (h : links.Grounded i) (hUp : links.Up i p) : links.Grounded p := by
  cases h with
  | top parentless => exact absurd (parentless.symm.trans hUp) (by simp)
  | child parent grounded =>
    obtain rfl := Option.some.inj (parent.symm.trans hUp)
    exact grounded

theorem Grounded.of_transGen (h : links.Grounded i) (hWay : TransGen links.Up i j) :
    links.Grounded j := by
  induction hWay with
  | single hUp => exact h.of_up hUp
  | tail _ hUp ih => exact ih.of_up hUp

/-- Nothing comes back to what is no parent. -/
theorem not_onCycle_of_not_mem (h : some i ∉ links) : ¬ OnCycle links.Up i := by
  intro hCycle
  obtain ⟨b, -, hUp⟩ := TransGen.tail'_iff.mp hCycle
  exact h (Array.mem_of_getElem? (Option.join_eq_some_iff.mp hUp))

/-! ## Where the ways end -/

section InRange

variable (hRange : links.InRange)
include hRange

theorem InRange.finite_wayUp (i : Nat) : {j | TransGen links.Up i j}.Finite := by
  refine (Set.finite_lt_nat links.size).subset fun j hWay => ?_
  obtain ⟨b, -, hUp⟩ := TransGen.tail'_iff.mp hWay
  exact hRange b j hUp

/-- A way up that does not end at a thing without a parent comes to a cycle. -/
theorem InRange.exists_onCycle (h : ¬ links.Grounded i) :
    ∃ j, TransGen links.Up i j ∧ OnCycle links.Up j := by
  -- as long as no cycle comes, there is less and less on the way up
  induction hCount : {j | TransGen links.Up i j}.ncard using Nat.strong_induction_on
    generalizing i with
  | _ count ih =>
    obtain ⟨p, hUp⟩ := Option.ne_none_iff_exists'.mp fun hNone => h (.top hNone)
    by_cases hCycle : OnCycle links.Up p
    · exact ⟨p, .single hUp, hCycle⟩
    · have hLess : {j | TransGen links.Up p j} ⊂ {j | TransGen links.Up i j} :=
        ⟨fun j => .head hUp, fun hAll => hCycle (hAll (TransGen.single hUp))⟩
      have hCard := Set.ncard_lt_ncard hLess (hRange.finite_wayUp i)
      obtain ⟨j, hWay, hj⟩ :=
        ih _ (hCount ▸ hCard) (fun hGrounded => h (.child hUp hGrounded)) rfl
      exact ⟨j, .head hUp hWay, hj⟩

theorem InRange.not_grounded_iff :
    ¬ links.Grounded i ↔ OnCycle links.Up i ∨ HangsOff links.Up i := by
  constructor
  · intro h
    by_cases hCycle : OnCycle links.Up i
    · exact .inl hCycle
    · exact .inr ⟨hCycle, hRange.exists_onCycle h⟩
  · rintro (hCycle | ⟨-, j, hWay, hCycle⟩) hGrounded
    · exact hGrounded.not_onCycle hCycle
    · exact (hGrounded.of_transGen hWay).not_onCycle hCycle

/-- The trees that do not grow from things without a parent grow from the first things of cycles and
from strays. -/
theorem InRange.isEntry_iff :
    links.IsEntry i ↔ i ∈ cycleStarts links.Up ∨ i ∈ strays links.Up := by
  rw [IsEntry, hRange.not_grounded_iff, or_and_right]
  refine or_congr Iff.rfl (and_congr_right fun hHangs => ?_)
  -- what hangs off a cycle does not come to itself
  have hNe : ∀ j, TransGen links.Up i j → i ≠ j := by
    rintro j hWay rfl
    exact hHangs.1 hWay
  exact forall₂_congr fun j hWay => ⟨fun h => Nat.lt_of_le_of_ne h (hNe j hWay), Nat.le_of_lt⟩

end InRange

/-! ## The first thing of a cycle -/

theorem existsUnique_cycleStart {cycle : Set Nat} (hCycle : cycle ∈ cycles links.Up) :
    ∃! i, i ∈ cycle ∧ i ∈ cycleStarts links.Up := by
  have hNonempty : cycle.Nonempty := by
    obtain ⟨i, hi, rfl⟩ := hCycle
    exact ⟨i, hi⟩
  -- it is the one with the least number
  have hFirst := Nat.sInf_mem hNonempty
  obtain ⟨hOn, hAll⟩ := eq_of_mem_of_mem_cycles hCycle hFirst
  refine ⟨sInf cycle, ⟨hFirst, hOn, fun j hWay => Nat.sInf_le (hAll ▸ hWay)⟩, ?_⟩
  rintro i ⟨hi, -, hLeast⟩
  obtain ⟨-, hSame⟩ := eq_of_mem_of_mem_cycles hCycle hi
  exact Nat.le_antisymm (hLeast _ (hSame ▸ hFirst)) (Nat.sInf_le hi)

/-- There are as many cycles as first things of cycles. -/
theorem ncard_cycleStarts (links : Links) :
    (cycleStarts links.Up).ncard = (cycles links.Up).ncard := by
  have hOwn : ∀ i ∈ cycleStarts links.Up,
      {j | TransGen links.Up i j} ∈ cycles links.Up ∧ i ∈ {j | TransGen links.Up i j} :=
    fun i hi => ⟨⟨i, hi.1, rfl⟩, hi.1⟩
  have hInj : Set.InjOn (fun i => {j | TransGen links.Up i j}) (cycleStarts links.Up) := by
    intro i hi j hj (hSame : {k | TransGen links.Up i k} = {k | TransGen links.Up j k})
    obtain ⟨hCycle, hMem⟩ := hOwn i hi
    exact (existsUnique_cycleStart hCycle).unique ⟨hMem, hi⟩ ⟨hSame ▸ (hOwn j hj).2, hj⟩
  -- a cycle is what one comes to from its first thing
  have hImage : (fun i => {j | TransGen links.Up i j}) '' cycleStarts links.Up =
      cycles links.Up := by
    ext cycle
    constructor
    · rintro ⟨i, hi, rfl⟩
      exact (hOwn i hi).1
    · intro hCycle
      obtain ⟨i, ⟨hi, hStart⟩, -⟩ := existsUnique_cycleStart hCycle
      exact ⟨i, hStart, (eq_of_mem_of_mem_cycles hCycle hi).2.symm⟩
  rw [← hImage, hInj.ncard_image]

/-! ## The links that are cut -/

section InRange

variable (hRange : links.InRange)
include hRange

/-- A link is cut at the first thing of a cycle and at a stray. -/
theorem InRange.mem_forestEdges_iff (hUp : links.Up i p) :
    (p, i) ∈ Tree.forestEdges links.forest ↔
      i ∉ cycleStarts links.Up ∧ i ∉ strays links.Up := by
  have hParent : links.parent? i ≠ none := by
    rw [show links.parent? i = some p from hUp]
    simp
  rw [mem_forestEdges_forest_iff, and_iff_right hUp, mem_map_value_forest_iff hRange,
    and_iff_right (lt_size_of_up hUp), or_iff_right hParent, hRange.isEntry_iff, not_or]

/-- **Each cycle loses one link.** -/
theorem InRange.existsUnique_cut {cycle : Set Nat} (hCycle : cycle ∈ cycles links.Up) :
    ∃! i, i ∈ cycle ∧ ∀ p, (p, i) ∉ Tree.forestEdges links.forest := by
  refine (existsUnique_congr fun i => and_congr_right fun hi => ?_).mp
    (existsUnique_cycleStart hCycle)
  obtain ⟨hOn, -⟩ := eq_of_mem_of_mem_cycles hCycle hi
  obtain ⟨above, hUp, -⟩ := TransGen.head'_iff.mp hOn
  -- a thing on a cycle has a link, and only being the first of the cycle can cut it
  have hNotStray : i ∉ strays links.Up := fun hStray => hStray.1.1 hOn
  constructor
  · intro hStart p hEdge
    exact ((hRange.mem_forestEdges_iff (parent?_of_mem_forestEdges hEdge)).mp hEdge).1 hStart
  · intro hCut
    by_contra hStart
    exact hCut above ((hRange.mem_forestEdges_iff hUp).mpr ⟨hStart, hNotStray⟩)

/-- **Off the cycles, strays lose their links, and nothing else does.** -/
theorem InRange.mem_forestEdges_iff_of_not_onCycle (hUp : links.Up i p)
    (h : ¬ OnCycle links.Up i) :
    (p, i) ∈ Tree.forestEdges links.forest ↔ i ∉ strays links.Up := by
  have hStart : i ∉ cycleStarts links.Up := fun hStart => h hStart.1
  rw [hRange.mem_forestEdges_iff hUp, and_iff_right hStart]

/-! ## The count of the roots -/

/-- The roots are the things without a parent, the first things of cycles, and the strays. -/
theorem InRange.setOf_roots :
    {i | i ∈ links.forest.map Tree.value} =
      {i | i < links.size ∧ ∀ p, ¬ links.Up i p} ∪
        (cycleStarts links.Up ∪ strays links.Up) := by
  ext i
  have hTop : links.parent? i = none ↔ ∀ p, ¬ links.Up i p := Option.eq_none_iff_forall_ne_some
  have hEntry : i < links.size ∧ links.IsEntry i ↔ links.IsEntry i := by
    refine and_iff_right_of_imp fun h => ?_
    obtain ⟨p, hUp⟩ := Option.ne_none_iff_exists'.mp fun hNone => h.1 (.top hNone)
    exact lt_size_of_up hUp
  rw [Set.mem_ofPred_eq, mem_map_value_forest_iff hRange, and_or_left, hEntry, hRange.isEntry_iff,
    hTop]
  rfl

/-- **There is one root for every thing without a parent, for every cycle, and for every stray.** -/
theorem InRange.length_forest :
    links.forest.length = {i | i < links.size ∧ ∀ p, ¬ links.Up i p}.ncard +
      (cycles links.Up).ncard + (strays links.Up).ncard := by
  have hCount : links.forest.length = {i | i ∈ links.forest.map Tree.value}.ncard := by
    rw [← List.coe_toFinset, Set.ncard_coe_finset,
      List.toFinset_card_of_nodup (List.nodup_append.mp (nodup_tops_edges links)).1,
      List.length_map]
  have hFinite : ({i | i < links.size ∧ ∀ p, ¬ links.Up i p} ∪
      (cycleStarts links.Up ∪ strays links.Up)).Finite := by
    rw [← hRange.setOf_roots]
    exact List.finite_toSet _
  rw [Set.finite_union, Set.finite_union] at hFinite
  obtain ⟨hTops, hStarts, hStrays⟩ := hFinite
  -- the three kinds of roots have nothing in common
  have hLink : Disjoint {i | i < links.size ∧ ∀ p, ¬ links.Up i p}
      (cycleStarts links.Up ∪ strays links.Up) := by
    rw [Set.disjoint_left]
    rintro i ⟨-, hTop⟩ (⟨hWay, -⟩ | ⟨⟨-, j, hWay, -⟩, -⟩)
    all_goals
      obtain ⟨p, hUp, -⟩ := TransGen.head'_iff.mp hWay
      exact hTop p hUp
  have hCycle : Disjoint (cycleStarts links.Up) (strays links.Up) :=
    Set.disjoint_left.mpr fun i hStart hStray => hStray.1.1 hStart.1
  rw [hCount, hRange.setOf_roots, Set.ncard_union_eq hLink hTops (hStarts.union hStrays),
    Set.ncard_union_eq hCycle hStarts hStrays, ncard_cycleStarts, Nat.add_assoc]

end InRange

end Links

namespace UsbRecord

/-! ## Records with ids of their own -/

/-- The record with number `i` names another one, that with number `p`, as its parent. -/
def NamesOther (records : List UsbRecord) (i p : Nat) : Prop :=
  p ≠ i ∧ ∃ record above, records[i]? = some record ∧ records[p]? = some above ∧
    record.parentId = some above.id

theorem inRange_links (records : List UsbRecord) : (links records).InRange := by
  intro i p hUp
  rw [size_links]
  exact lt_length_of_parent? hUp

theorem namesOther_eq_up {records : List UsbRecord} (hIds : (records.map UsbRecord.id).Nodup) :
    NamesOther records = (links records).Up := by
  ext i p
  rw [Links.Up, parent?_links, and_comm]
  refine and_congr_right' ?_
  constructor
  · rintro ⟨record, above, hRecord, hAbove, hNamed⟩
    exact (leadsTo_iff_of_nodup hIds hRecord hAbove).mpr hNamed
  · rintro ⟨record, id, hRecord, hNamed, ⟨above, hAbove, rfl⟩, -⟩
    exact ⟨record, above, hRecord, hAbove, hNamed⟩

/-- **Which links the forest of records with ids of their own does not keep.** The places can be
numbered so that each record has one place, and shows there what is known of it, and

* a place is directly below another only if its record names that of the other,
* every cycle of links loses exactly one of them,
* the links of the records on no cycle are kept, but for the strays: the records that hang off a
  cycle and are listed before all on their way up,
* there is one root for every record that names no other, one for every cycle, and one for every
  stray.

So only where there are no strays are links cut just to break cycles. -/
theorem forest_cuts {records : List UsbRecord} (hIds : (records.map UsbRecord.id).Nodup) :
    ∃ numbered : List (Tree Nat),
      forest records = Tree.forestMap (detailsAt records) numbered ∧
      (∀ i record, records[i]? = some record → detailsAt records i = record.details) ∧
      (Tree.forestPreorder numbered).Perm (List.range records.length) ∧
      (∀ i p, (p, i) ∈ Tree.forestEdges numbered → NamesOther records i p) ∧
      (∀ cycle ∈ Links.cycles (NamesOther records),
        ∃! i, i ∈ cycle ∧ ∀ p, (p, i) ∉ Tree.forestEdges numbered) ∧
      (∀ i p, NamesOther records i p → ¬ Links.OnCycle (NamesOther records) i →
        ((p, i) ∈ Tree.forestEdges numbered ↔ i ∉ Links.strays (NamesOther records))) ∧
      (forest records).length =
        {i | i < records.length ∧ ∀ p, ¬ NamesOther records i p}.ncard +
          (Links.cycles (NamesOther records)).ncard +
          (Links.strays (NamesOther records)).ncard := by
  -- all of it is said of links first, of which the forest is made
  have hRange := inRange_links records
  have hOnce := Links.forestPreorder_forest_perm (links records)
  have hLength := hRange.length_forest
  rw [size_links] at hOnce hLength
  rw [namesOther_eq_up hIds]
  refine ⟨(links records).forest, rfl, fun i record => detailsAt_eq, hOnce,
    fun i p => Links.parent?_of_mem_forestEdges, fun cycle => hRange.existsUnique_cut,
    fun i p => hRange.mem_forestEdges_iff_of_not_onCycle, ?_⟩
  rw [forest, Tree.forestMap_eq_map, List.length_map]
  exact hLength

/-- A record that is named like its id. -/
def plainRecord (id parent : String) : UsbRecord where
  id := id
  parentId := some parent
  details := { name := id }

/-- Two records on a cycle, and then one that hangs off it. -/
def trailingRecords : List UsbRecord :=
  [plainRecord "x" "y", plainRecord "y" "x", plainRecord "w" "y"]

theorem links_trailingRecords : links trailingRecords = #[some 1, some 0, some 1] := by
  decide

/-- The record that hangs off the cycle keeps its parent, as it is listed last. -/
theorem forest_cuts_trailingRecords :
    (trailingRecords.map UsbRecord.id).Nodup ∧ NamesOther trailingRecords 2 1 ∧
    ∃ numbered : List (Tree Nat),
      forest trailingRecords = Tree.forestMap (detailsAt trailingRecords) numbered ∧
      (1, 2) ∈ Tree.forestEdges numbered ∧
      ∃! i, Relation.TransGen (NamesOther trailingRecords) 0 i ∧
        ∀ p, (p, i) ∉ Tree.forestEdges numbered := by
  have hIds : (trailingRecords.map UsbRecord.id).Nodup := by decide
  have hUp : NamesOther trailingRecords = Links.Up #[some 1, some 0, some 1] := by
    rw [namesOther_eq_up hIds, links_trailingRecords]
  have hLink : NamesOther trailingRecords 2 1 := by
    rw [hUp]
    decide
  -- the first two records make up the cycle, and the last is not on it
  have hCycle : Links.OnCycle (NamesOther trailingRecords) 0 := by
    rw [hUp]
    exact .tail (.single (by decide : Links.Up _ 0 1)) (by decide)
  have hOff : ¬ Links.OnCycle (NamesOther trailingRecords) 2 := by
    rw [hUp]
    exact Links.not_onCycle_of_not_mem (by simp)
  obtain ⟨numbered, hForest, -, -, -, hCut, hKept, -⟩ := forest_cuts hIds
  refine ⟨hIds, hLink, numbered, hForest, (hKept 2 1 hLink hOff).mpr fun hStray => ?_,
    hCut _ ⟨0, hCycle, rfl⟩⟩
  exact absurd (hStray.2 1 (.single hLink)) (by decide)

/-- The same records with the one that hangs off the cycle in front. -/
def strayRecords : List UsbRecord :=
  [plainRecord "w" "y", plainRecord "x" "y", plainRecord "y" "x"]

theorem links_strayRecords : links strayRecords = #[some 2, some 2, some 1] := by
  decide

/-- A record is cut off from the record that it names although it is on no cycle. -/
theorem forest_strayRecords :
    (strayRecords.map UsbRecord.id).Nodup ∧ NamesOther strayRecords 0 2 ∧
    ¬ Links.OnCycle (NamesOther strayRecords) 0 ∧
    forest strayRecords =
      [.leaf { name := "w" }, .node { name := "x" } [.leaf { name := "y" }]] := by
  have hIds : (strayRecords.map UsbRecord.id).Nodup := by decide
  have hUp : NamesOther strayRecords = Links.Up #[some 2, some 2, some 1] := by
    rw [namesOther_eq_up hIds, links_strayRecords]
  have hForest : Links.forest #[some 2, some 2, some 1] = [.leaf 0, .node 1 [.leaf 2]] := by
    -- by numbers: 0 links to 2, and 1 and 2 to each other
    have hTops : Links.parentless #[some 2, some 2, some 1] = [] := by decide
    have hFirst : Links.children #[some 2, some 2, some 1] 0 = [] := by decide
    have hSecond : Links.children #[some 2, some 2, some 1] 1 = [2] := by decide
    have hThird : Links.children #[some 2, some 2, some 1] 2 = [0, 1] := by decide
    have hRange : List.range 3 = [0, 1, 2] := by decide
    simp [Links.forest, Links.grow, hTops, hFirst, hSecond, hThird, hRange, Tree.leaf]
  rw [forest, links_strayRecords, hForest, hUp]
  exact ⟨hIds, by decide, Links.not_onCycle_of_not_mem (by simp), rfl⟩

end UsbRecord

end HardwareReport
