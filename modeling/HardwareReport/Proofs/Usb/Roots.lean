import HardwareReport.Proofs.Tree.Lineage
import HardwareReport.Proofs.Usb.Forest
import Mathlib.Data.List.Perm.Subperm
import Mathlib.Logic.Relation

/-!
# Usb — the roots of the forest

Which things are roots is told by what one comes to from them, going from parent to parent, and by
the order of the numbers. The things without a parent come first. Once the trees below them have
grown, only things that are not grounded are still waiting, and one of these becomes a root exactly
if its number is the least of all that one comes to from it.

The argument rests on what growing leaves waiting (`mem_left_grow_iff`): whatever has none of the
things on its way up. This is what each tree sees of those that have grown before it.

* `Links.Up` — going from a thing to its parent;
* `Links.Grounded` — the things from which the links lead up to a top;
* `Links.IsEntry` — the things that are the first of all on their way up, which has no end.

## Results

* `Links.map_value_forest_eq` — the roots, in their order;
* `Links.map_value_branches_eq` — what hangs directly below a thing, in its order.
-/

namespace HardwareReport.Links

open Relation

variable {links : Links} {waiting things : List Nat} {i j : Nat}

/-- Going from a thing to its parent. -/
def Up (links : Links) (i p : Nat) : Prop :=
  links.parent? i = some p

instance (links : Links) (i p : Nat) : Decidable (links.Up i p) :=
  inferInstanceAs (Decidable (links.parent? i = some p))

theorem mem_children_iff {i p : Nat} :
    i ∈ links.children p ↔ i < links.size ∧ links.parent? i = some p := by
  rw [children, List.mem_filter, List.mem_range, beq_iff_eq]

theorem mem_parentless_iff {i : Nat} :
    i ∈ links.parentless ↔ i < links.size ∧ links.parent? i = none := by
  rw [parentless, List.mem_filter, List.mem_range, beq_iff_eq]

theorem lt_size_of_up {p : Nat} (h : links.Up i p) : i < links.size :=
  (Array.getElem?_eq_some_iff.mp (Option.join_eq_some_iff.mp h)).1

theorem mem_children_of_up {p : Nat} (h : links.Up i p) : i ∈ links.children p :=
  mem_children_iff.mpr ⟨lt_size_of_up h, h⟩

/-! ## Growing from several things after others -/

theorem trees_grow_append (waiting first rest : List Nat) :
    (links.grow waiting (first ++ rest)).trees =
      (links.grow waiting first).trees ++
        (links.grow (links.grow waiting first).left rest).trees := by
  induction first generalizing waiting with
  | nil => rw [List.nil_append, trees_grow_nil, left_grow_nil, List.nil_append]
  | cons i first ih =>
    rw [List.cons_append]
    by_cases hi : i ∈ waiting
    · rw [trees_grow_cons_of_mem hi, trees_grow_cons_of_mem hi, left_grow_cons_of_mem hi, ih,
        List.cons_append]
    · rw [grow_cons_of_not_mem hi, grow_cons_of_not_mem hi, ih]

/-- One thing is a root if it is waiting. -/
theorem map_value_grow_singleton (waiting : List Nat) (i : Nat) :
    (links.grow waiting [i]).trees.map Tree.value = if i ∈ waiting then [i] else [] := by
  by_cases hi : i ∈ waiting
  · rw [trees_grow_cons_of_mem hi, trees_grow_nil, if_pos hi]
    rfl
  · rw [grow_cons_of_not_mem hi, trees_grow_nil, if_neg hi]
    rfl

/-- Of the things up to a number, those become roots that the earlier ones leave waiting. -/
theorem map_value_grow_range (waiting : List Nat) (n : Nat) :
    (links.grow waiting (List.range n)).trees.map Tree.value =
      (List.range n).filter fun i => decide (i ∈ (links.grow waiting (List.range i)).left) := by
  induction n with
  | zero => rw [List.range_zero, trees_grow_nil, List.map_nil, List.filter_nil]
  | succ n ih =>
    -- the last number has its turn when all before it have had theirs
    have hLast : (links.grow (links.grow waiting (List.range n)).left [n]).trees.map Tree.value =
        [n].filter fun i => decide (i ∈ (links.grow waiting (List.range i)).left) := by
      rw [map_value_grow_singleton, List.filter_cons, List.filter_nil]
      simp only [decide_eq_true_eq]
    rw [List.range_succ, trees_grow_append, List.map_append, ih, hLast, List.filter_append]

/-! ## What is left waiting -/

/-- A thing that has got its place leaves none of its children waiting. -/
theorem not_mem_left_grow_of_child {waiting things : List Nat} (hNodup : waiting.Nodup) {p i : Nat}
    (hp : p ∈ waiting) (hPlaced : p ∉ (links.grow waiting things).left)
    (hi : i ∈ links.children p) : i ∉ (links.grow waiting things).left := by
  induction waiting, things using grow_induction links with
  | nil waiting =>
    rw [left_grow_nil] at hPlaced
    exact absurd hp hPlaced
  | mem waiting first rest hFirst ihBelow ihRest =>
    rw [left_grow_cons_of_mem hFirst] at hPlaced ⊢
    have hErased : (waiting.erase first).Nodup := hNodup.erase first
    have hBelow := (links.grow (waiting.erase first) (links.children first)).sublist
    have hRest := (links.grow (links.grow (waiting.erase first) (links.children first)).left
      rest).sublist
    by_cases hSame : p = first
    · -- its children had their turn right after it
      subst hSame
      exact fun hLeft => not_mem_left_grow hErased hi (hRest.subset hLeft)
    · -- it was placed below the first of the things or after it
      have hpErased : p ∈ waiting.erase first := (List.mem_erase_of_ne hSame).mpr hp
      by_cases hpBelow : p ∈ (links.grow (waiting.erase first) (links.children first)).left
      · exact ihRest (hErased.sublist hBelow) hpBelow hPlaced
      · exact fun hLeft => ihBelow hErased hpErased hpBelow (hRest.subset hLeft)
  | not_mem waiting first rest hFirst ih =>
    rw [grow_cons_of_not_mem hFirst] at hPlaced ⊢
    exact ih hNodup hp hPlaced

/-- What has got its place has one of the things on its way up. -/
theorem exists_of_not_mem_left (hj : j ∈ waiting)
    (hPlaced : j ∉ (links.grow waiting things).left) :
    ∃ t ∈ things, ReflTransGen links.Up j t := by
  induction waiting, things using grow_induction links with
  | nil waiting =>
    rw [left_grow_nil] at hPlaced
    exact absurd hj hPlaced
  | mem waiting first rest hFirst ihBelow ihRest =>
    rw [left_grow_cons_of_mem hFirst] at hPlaced
    by_cases hSame : j = first
    · exact ⟨first, List.mem_cons_self, hSame ▸ .refl⟩
    · have hErased : j ∈ waiting.erase first := (List.mem_erase_of_ne hSame).mpr hj
      by_cases hBelow : j ∈ (links.grow (waiting.erase first) (links.children first)).left
      · obtain ⟨t, ht, hWay⟩ := ihRest hBelow hPlaced
        exact ⟨t, List.mem_cons_of_mem first ht, hWay⟩
      · -- it hangs below the first of the things
        obtain ⟨child, hChild, hWay⟩ := ihBelow hErased hBelow
        exact ⟨first, List.mem_cons_self, hWay.tail (parent?_of_mem_children hChild)⟩
  | not_mem waiting first rest hFirst ih =>
    rw [grow_cons_of_not_mem hFirst] at hPlaced
    -- the first of the things was placed before
    obtain ⟨t, ht, hWay⟩ := ih hj hPlaced
    exact ⟨t, List.mem_cons_of_mem first ht, hWay⟩

/-- What is waiting has its parent waiting too, and there is no repetition. -/
structure IsUpClosed (links : Links) (waiting : List Nat) : Prop where
  nodup : waiting.Nodup
  parent_mem : ∀ i ∈ waiting, ∀ p, links.parent? i = some p → p ∈ waiting

/-- **What is left waiting are the things that have none of those on their way up from which trees
grow.** -/
theorem mem_left_grow_iff (hWaiting : links.IsUpClosed waiting) :
    j ∈ (links.grow waiting things).left ↔
      j ∈ waiting ∧ ∀ t ∈ things, ¬ ReflTransGen links.Up j t := by
  constructor
  · intro hLeft
    have hj : j ∈ waiting := (Growth.sublist _).subset hLeft
    refine ⟨hj, fun t ht hWay => ?_⟩
    -- everything on the way down from `t` gets its place
    have hPlaced : j ∉ (links.grow waiting things).left := by
      clear hLeft
      induction hWay using ReflTransGen.head_induction_on with
      | refl => exact not_mem_left_grow hWaiting.nodup ht
      | head hUp _ ih =>
        have hParent := hWaiting.parent_mem _ hj _ hUp
        exact not_mem_left_grow_of_child hWaiting.nodup hParent (ih hParent)
          (mem_children_of_up hUp)
    exact hPlaced hLeft
  · rintro ⟨hj, hNone⟩
    by_contra hPlaced
    obtain ⟨t, ht, hWay⟩ := exists_of_not_mem_left hj hPlaced
    exact hNone t ht hWay

/-! ## What grows from the things without a parent -/

/-- From parent to parent one comes from a thing to one that has no parent. -/
inductive Grounded (links : Links) : Nat → Prop where
  | top {i : Nat} (parentless : links.parent? i = none) : Grounded links i
  | child {i p : Nat} (parent : links.parent? i = some p) (grounded : Grounded links p) :
      Grounded links i

/-- Grounded things are those from which one comes to one without a parent. -/
theorem grounded_iff :
    links.Grounded i ↔ ∃ t, links.parent? t = none ∧ ReflTransGen links.Up i t := by
  constructor
  · intro h
    induction h with
    | top parentless => exact ⟨_, parentless, .refl⟩
    | child parent _ ih =>
      obtain ⟨t, hNone, hWay⟩ := ih
      exact ⟨t, hNone, hWay.head parent⟩
  · rintro ⟨t, hNone, hWay⟩
    induction hWay using ReflTransGen.head_induction_on with
    | refl => exact .top hNone
    | head hUp _ ih => exact .child hUp ih

/-- A list without repetitions has no proper part with all of its elements. -/
theorem eq_of_sublist_of_subset {α : Type} {part list : List α} (hPart : part.Sublist list)
    (hNodup : list.Nodup) (hAll : list ⊆ part) : part = list :=
  hPart.eq_of_length_le (List.subperm_of_subset hNodup hAll).length_le

/-- The trees that grow first top the things without a parent, in their order. -/
theorem map_value_grow_parentless (links : Links) :
    (links.grow (List.range links.size) links.parentless).trees.map Tree.value =
      links.parentless := by
  refine eq_of_sublist_of_subset (map_value_grow_sublist ..) (List.nodup_range.filter _) ?_
  intro i hi
  obtain ⟨hRange, hNone⟩ := mem_parentless_iff.mp hi
  by_contra hTop
  -- it has got its place, and otherwise would hang below something
  have hMem := (forestPreorder_grow_perm links (List.range links.size) links.parentless).mem_iff.mpr
    (List.mem_range.mpr hRange)
  rcases List.mem_append.mp hMem with hPlaced | hLeft
  · obtain ⟨above, hEdge⟩ := Tree.exists_edge_of_mem hPlaced hTop
    rw [parent?_of_mem_forestEdges_grow hEdge] at hNone
    exact absurd hNone (by simp)
  · exact not_mem_left_grow List.nodup_range hi hLeft

/-- No parent is anything but one of the things. -/
def InRange (links : Links) : Prop :=
  ∀ i p, links.Up i p → p < links.size

section InRange

variable (hRange : links.InRange)
include hRange

theorem InRange.isUpClosed_range : links.IsUpClosed (List.range links.size) where
  nodup := List.nodup_range
  parent_mem i _ p hParent := List.mem_range.mpr (hRange i p hParent)

theorem InRange.lt_size_of_way (hi : i < links.size) (h : ReflTransGen links.Up i j) :
    j < links.size := by
  induction h with
  | refl => exact hi
  | tail _ hUp _ => exact hRange _ _ hUp

/-- What is left after that are the things that are not grounded. -/
theorem InRange.mem_left_parentless_iff :
    i ∈ (links.grow (List.range links.size) links.parentless).left ↔
      i < links.size ∧ ¬ links.Grounded i := by
  rw [mem_left_grow_iff hRange.isUpClosed_range, List.mem_range, grounded_iff]
  refine and_congr_right fun hi => ?_
  constructor
  · -- no link leads out of the range, so a top on the way up is one of the things
    rintro hNone ⟨t, hTop, hWay⟩
    exact hNone t (mem_parentless_iff.mpr ⟨hRange.lt_size_of_way hi hWay, hTop⟩) hWay
  · intro hNot t ht hWay
    exact hNot ⟨t, (mem_parentless_iff.mp ht).2, hWay⟩

theorem InRange.isUpClosed_left :
    links.IsUpClosed (links.grow (List.range links.size) links.parentless).left where
  nodup := List.nodup_range.sublist (Growth.sublist _)
  parent_mem i hi p hParent := by
    rw [hRange.mem_left_parentless_iff] at hi ⊢
    exact ⟨hRange i p hParent, fun hGrounded => hi.2 (.child hParent hGrounded)⟩

end InRange

/-! ## The roots -/

/-- The trees that grow from what the things without a parent do not lead down to. -/
def fromCycles (links : Links) : List (Tree Nat) :=
  (links.grow (links.grow (List.range links.size) links.parentless).left
    (List.range links.size)).trees

theorem forest_eq_append (links : Links) :
    links.forest =
      (links.grow (List.range links.size) links.parentless).trees ++ links.fromCycles :=
  rfl

/-- A thing is the first of all on its way up, which has no end. -/
def IsEntry (links : Links) (i : Nat) : Prop :=
  ¬ links.Grounded i ∧ ∀ t, TransGen links.Up i t → i ≤ t

/-- Nothing before a thing is on its way up exactly if it is the first there. -/
theorem forall_lt_not_way_iff :
    (∀ t ∈ List.range i, ¬ ReflTransGen links.Up i t) ↔ ∀ t, TransGen links.Up i t → i ≤ t := by
  constructor
  · intro hNone t hWay
    by_contra hLess
    exact hNone t (List.mem_range.mpr (Nat.lt_of_not_le hLess)) hWay.to_reflTransGen
  · intro hFirst t ht hWay
    rw [List.mem_range] at ht
    rcases reflTransGen_iff_eq_or_transGen.mp hWay with rfl | hWay
    · exact absurd ht (Nat.lt_irrefl _)
    · exact absurd (hFirst t hWay) (Nat.not_le_of_lt ht)

open scoped Classical in
/-- **The roots** are the things without a parent, and then the entries, both in their order. -/
theorem map_value_forest_eq (hRange : links.InRange) :
    links.forest.map Tree.value =
      links.parentless ++ (List.range links.size).filter fun i => decide (links.IsEntry i) := by
  rw [forest_eq_append, List.map_append, map_value_grow_parentless, fromCycles,
    map_value_grow_range]
  congr 1
  -- both passes are given by what they leave: the first leaves what is not grounded
  refine List.filter_congr fun i hi => ?_
  rw [List.mem_range] at hi
  rw [decide_eq_decide, mem_left_grow_iff hRange.isUpClosed_left, hRange.mem_left_parentless_iff,
    forall_lt_not_way_iff, IsEntry, and_iff_right hi]

theorem mem_map_value_forest_iff (hRange : links.InRange) :
    i ∈ links.forest.map Tree.value ↔
      i < links.size ∧ (links.parent? i = none ∨ links.IsEntry i) := by
  classical
  rw [map_value_forest_eq hRange, List.mem_append, mem_parentless_iff, List.mem_filter,
    List.mem_range, decide_eq_true_eq, and_or_left]

/-! ## What hangs below a thing -/

/-- The forest has no thing twice. -/
theorem nodup_forestPreorder_forest (links : Links) : (Tree.forestPreorder links.forest).Nodup :=
  (forestPreorder_forest_perm links).nodup_iff.mpr List.nodup_range

/-- No thing is a root twice, or both a root and below another. -/
theorem nodup_tops_edges (links : Links) :
    (links.forest.map Tree.value ++ (Tree.forestEdges links.forest).map Prod.snd).Nodup :=
  (Tree.tops_edges_perm links.forest).nodup_iff.mpr (nodup_forestPreorder_forest links)

/-- **A thing hangs directly below its parent if it is no root.** -/
theorem mem_forestEdges_forest_iff {p : Nat} :
    (p, i) ∈ Tree.forestEdges links.forest ↔
      links.Up i p ∧ i ∉ links.forest.map Tree.value := by
  constructor
  · intro hEdge
    refine ⟨parent?_of_mem_forestEdges hEdge, fun hTop => ?_⟩
    exact (List.nodup_append.mp (nodup_tops_edges links)).2.2 i hTop i
      (List.mem_map_of_mem hEdge) rfl
  · rintro ⟨hUp, hTop⟩
    have hMem : i ∈ Tree.forestPreorder links.forest :=
      (forestPreorder_forest_perm links).mem_iff.mpr (List.mem_range.mpr (lt_size_of_up hUp))
    obtain ⟨above, hEdge⟩ := Tree.exists_edge_of_mem hMem hTop
    obtain rfl : above = p := Option.some.inj ((parent?_of_mem_forestEdges hEdge).symm.trans hUp)
    exact hEdge

/-- What hangs directly below a thing in a tree are children of it, in their order. -/
theorem map_value_branches_grow_sublist {waiting things : List Nat} {t : Tree Nat}
    (ht : t ∈ Tree.forestSubtrees (links.grow waiting things).trees) :
    (t.branches.map Tree.value).Sublist (links.children t.value) := by
  induction waiting, things using grow_induction links with
  | nil waiting =>
    rw [trees_grow_nil] at ht
    exact absurd ht List.not_mem_nil
  | mem waiting i rest hi ihBelow ihRest =>
    rw [trees_grow_cons_of_mem hi, Tree.forestSubtrees, Tree.subtrees, List.mem_append,
      List.mem_cons] at ht
    -- the thing itself, one below it, or one in a later tree
    rcases ht with (rfl | hBelow) | hRest
    · exact map_value_grow_sublist ..
    · exact ihBelow hBelow
    · exact ihRest hRest
  | not_mem waiting i rest hi ih =>
    rw [grow_cons_of_not_mem hi] at ht
    exact ih ht

/-- **What hangs directly below a thing are its children that are no roots,** in their order. -/
theorem map_value_branches_eq {t : Tree Nat} (ht : t ∈ Tree.forestSubtrees links.forest) :
    t.branches.map Tree.value =
      (links.children t.value).filter fun i => decide (i ∉ links.forest.map Tree.value) := by
  have hChildren : (t.branches.map Tree.value).Sublist (links.children t.value) := by
    rw [forest_eq_append, Tree.forestSubtrees_append, List.mem_append] at ht
    rcases ht with ht | ht
    · exact map_value_branches_grow_sublist ht
    · exact map_value_branches_grow_sublist ht
  have hNoRoot : ∀ i ∈ t.branches.map Tree.value, i ∉ links.forest.map Tree.value := fun i hi =>
    (mem_forestEdges_forest_iff.mp ((Tree.mem_forestEdges_iff _).mpr ⟨t, ht, rfl, hi⟩)).2
  have hSublist := hChildren.filter fun i => decide (i ∉ links.forest.map Tree.value)
  rw [List.filter_eq_self.mpr fun i hi => decide_eq_true (hNoRoot i hi)] at hSublist
  refine eq_of_sublist_of_subset hSublist ((List.nodup_range.filter _).filter _) fun i hi => ?_
  obtain ⟨hChild, hTop⟩ := List.mem_filter.mp hi
  have hEdge := mem_forestEdges_forest_iff.mpr
    ⟨parent?_of_mem_children hChild, of_decide_eq_true hTop⟩
  -- the place of the parent is the only one
  obtain ⟨u, hu, hValue, hBelow⟩ := (Tree.mem_forestEdges_iff _).mp hEdge
  obtain rfl := Tree.eq_of_value_eq (nodup_forestPreorder_forest links) hu ht hValue
  exact hBelow

end HardwareReport.Links
