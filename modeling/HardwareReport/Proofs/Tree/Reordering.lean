import HardwareReport.Proofs.Tree.Lineage
import Mathlib.Data.List.Perm.Lattice

/-!
# Tree — forests but for their order

Two forests are equal but for the order of siblings if the trees of one, and at every depth the
branches below each value, stand in some order in the other.

A forest without repetitions is told by its values and its edges, but for this order. Its tops are
the values that no edge leads to, and the branches below a value are told by the edges that start at
it.

* `Tree.Reordered`, `Tree.ForestReordered` — equal but for the order of siblings;
* `Tree.forestReordered_of_edges` — the same values and the same edges make the same forest.
-/

namespace HardwareReport.Tree

variable {α β : Type}

mutual

/-- The branches of two trees stand in another order at most, at every depth. -/
inductive Reordered : Tree α → Tree α → Prop where
  | node (value : α) {branches others : List (Tree α)}
      (below : ForestReordered branches others) :
      Reordered (.node value branches) (.node value others)

/-- Several trees and their branches stand in another order at most. -/
inductive ForestReordered : List (Tree α) → List (Tree α) → Prop where
  | nil : ForestReordered [] []
  | cons {tree other : Tree α} {rest others : List (Tree α)} (first : Reordered tree other)
      (later : ForestReordered rest others) : ForestReordered (tree :: rest) (other :: others)
  | swap (tree next : Tree α) (rest : List (Tree α)) :
      ForestReordered (next :: tree :: rest) (tree :: next :: rest)
  | trans {trees others third : List (Tree α)} (first : ForestReordered trees others)
      (last : ForestReordered others third) : ForestReordered trees third

end

mutual

theorem Reordered.refl : ∀ tree : Tree α, Reordered tree tree
  | .node top branches => .node top (ForestReordered.refl branches)

theorem ForestReordered.refl : ∀ trees : List (Tree α), ForestReordered trees trees
  | [] => .nil
  | tree :: rest => .cons (Reordered.refl tree) (ForestReordered.refl rest)

end

theorem ForestReordered.of_perm {trees others : List (Tree α)} (h : trees.Perm others) :
    ForestReordered trees others := by
  induction h with
  | nil => exact .nil
  | cons tree _ ih => exact .cons (.refl tree) ih
  | swap tree next rest => exact .swap tree next rest
  | trans _ _ ihFirst ihLast => exact .trans ihFirst ihLast

section Map

variable (f : α → β)

mutual

theorem Reordered.map : ∀ {tree other : Tree α}, Reordered tree other →
    Reordered (tree.map f) (other.map f)
  | _, _, .node top below => by
    rw [Tree.map, Tree.map]
    exact .node (f top) (ForestReordered.forestMap below)

theorem ForestReordered.forestMap : ∀ {trees others : List (Tree α)},
    ForestReordered trees others →
      ForestReordered (Tree.forestMap f trees) (Tree.forestMap f others)
  | _, _, .nil => .nil
  | _, _, .cons first later => by
    rw [Tree.forestMap, Tree.forestMap]
    exact .cons (Reordered.map first) (ForestReordered.forestMap later)
  | _, _, .swap tree next rest => by
    simp only [Tree.forestMap]
    exact .swap _ _ _
  | _, _, .trans first last =>
    .trans (ForestReordered.forestMap first) (ForestReordered.forestMap last)

end

end Map

/-! ## Forests told by their edges -/

/-- The lower ends of the edges that start at a value are the tops of its branches. -/
theorem mem_map_value_branches_iff {trees : List (Tree α)}
    (hDistinct : (forestPreorder trees).Nodup) {t : Tree α} (ht : t ∈ forestSubtrees trees)
    {below : α} : below ∈ t.branches.map value ↔ (t.value, below) ∈ forestEdges trees := by
  rw [mem_forestEdges_iff]
  constructor
  · exact fun hBelow => ⟨t, ht, rfl, hBelow⟩
  · rintro ⟨u, hu, hValue, hBelow⟩
    obtain rfl := eq_of_value_eq hDistinct hu ht hValue
    exact hBelow

theorem nodup_map_value {trees : List (Tree α)} (hDistinct : (forestPreorder trees).Nodup) :
    (trees.map value).Nodup :=
  (List.nodup_append.mp ((tops_edges_perm trees).nodup_iff.mpr hDistinct)).1

theorem nodup_map_value_branches {trees : List (Tree α)}
    (hDistinct : (forestPreorder trees).Nodup) {t : Tree α} (ht : t ∈ forestSubtrees trees) :
    (t.branches.map value).Nodup := by
  have hBelow := hDistinct.sublist (preorder_sublist_of_mem_forest trees ht)
  obtain ⟨top, branches⟩ := t
  rw [preorder, List.nodup_cons] at hBelow
  exact nodup_map_value hBelow.2

/-- The tops of a forest without repetitions are the values that no edge leads to. -/
theorem mem_map_value_iff {trees : List (Tree α)} (hDistinct : (forestPreorder trees).Nodup)
    {a : α} : a ∈ trees.map value ↔
      a ∈ forestPreorder trees ∧ ∀ above, (above, a) ∉ forestEdges trees := by
  constructor
  · intro hTop
    refine ⟨map_value_subset_forestPreorder trees hTop, fun above hEdge => ?_⟩
    have hParts := (tops_edges_perm trees).nodup_iff.mpr hDistinct
    exact (List.nodup_append.mp hParts).2.2 a hTop a (List.mem_map_of_mem hEdge) rfl
  · rintro ⟨hMem, hNone⟩
    by_contra hTop
    obtain ⟨above, hEdge⟩ := exists_edge_of_mem hMem hTop
    exact hNone above hEdge

/-- Below a value of both forests stand trees with the same tops. -/
def SameBelow (trees others : List (Tree α)) : Prop :=
  ∀ t ∈ forestSubtrees trees, ∀ u ∈ forestSubtrees others, t.value = u.value →
    (t.branches.map value).Perm (u.branches.map value)

mutual

theorem SameBelow.reordered {trees others : List (Tree α)} (h : SameBelow trees others) :
    ∀ t : Tree α, t ∈ forestSubtrees trees → ∀ u ∈ forestSubtrees others, t.value = u.value →
      Reordered t u
  | .node top branches => by
    intro ht u hu hValue
    have hTops := h _ ht u hu hValue
    have hPart := forestSubtrees_branches_subset trees ht
    have hOtherPart := forestSubtrees_branches_subset others hu
    obtain ⟨other, otherBranches⟩ := u
    obtain rfl : top = other := hValue
    exact .node top (SameBelow.forestReordered h branches hPart otherBranches hOtherPart hTops)

/-- Parts of two forests whose tops are the same are the same but for the order of siblings. -/
theorem SameBelow.forestReordered {trees others : List (Tree α)} (h : SameBelow trees others) :
    ∀ part : List (Tree α), forestSubtrees part ⊆ forestSubtrees trees →
      ∀ otherPart : List (Tree α), forestSubtrees otherPart ⊆ forestSubtrees others →
        (part.map value).Perm (otherPart.map value) → ForestReordered part otherPart
  | [] => by
    intro _ otherPart _ hTops
    obtain rfl := List.map_eq_nil_iff.mp hTops.symm.eq_nil
    exact .nil
  | t :: rest => by
    intro hPart otherPart hOtherPart hTops
    -- the tree in the other forest with the same top moves to the front
    obtain ⟨u, hu, hValue⟩ := List.mem_map.mp (hTops.subset List.mem_cons_self)
    obtain ⟨front, back, rfl⟩ := List.append_of_mem hu
    have hMoved : (front ++ u :: back).Perm (u :: (front ++ back)) := List.perm_middle
    have hRestTops : (rest.map value).Perm ((front ++ back).map value) := by
      have hTopsMoved := hTops.trans (hMoved.map value)
      rw [List.map_cons, List.map_cons, hValue] at hTopsMoved
      exact hTopsMoved.cons_inv
    have hRest : forestSubtrees rest ⊆ forestSubtrees trees := by
      rw [forestSubtrees] at hPart
      exact (List.append_subset.mp hPart).2
    have hOtherRest : forestSubtrees (front ++ back) ⊆ forestSubtrees others := by
      refine List.Subset.trans (fun v hv => ?_) hOtherPart
      rw [forestSubtrees_append, List.mem_append] at hv
      rw [forestSubtrees_append, forestSubtrees, List.mem_append, List.mem_append]
      exact hv.imp_right .inr
    have hFirst : Reordered t u :=
      SameBelow.reordered h t (hPart (mem_forestSubtrees_of_mem List.mem_cons_self)) u
        (hOtherPart (mem_forestSubtrees_of_mem hu)) hValue.symm
    have hLater : ForestReordered rest (front ++ back) :=
      SameBelow.forestReordered h rest hRest (front ++ back) hOtherRest hRestTops
    exact (ForestReordered.cons hFirst hLater).trans (.of_perm hMoved.symm)

end

/-- **A forest without repetitions is told by its values and its edges,** but for the order of
siblings. -/
theorem forestReordered_of_edges {trees others : List (Tree α)}
    (hDistinct : (forestPreorder trees).Nodup)
    (hValues : (forestPreorder trees).Perm (forestPreorder others))
    (hEdges : ∀ above below, (above, below) ∈ forestEdges trees ↔
      (above, below) ∈ forestEdges others) : ForestReordered trees others := by
  have hOthers : (forestPreorder others).Nodup := hValues.nodup_iff.mp hDistinct
  -- a value is at the top exactly if no edge leads to it
  have hTops : (trees.map value).Perm (others.map value) := by
    rw [List.perm_ext_iff_of_nodup (nodup_map_value hDistinct) (nodup_map_value hOthers)]
    intro a
    rw [mem_map_value_iff hDistinct, mem_map_value_iff hOthers, hValues.mem_iff]
    simp only [hEdges]
  -- and it is below another exactly if an edge leads there
  have hBelow : SameBelow trees others := by
    intro t ht u hu hValue
    rw [List.perm_ext_iff_of_nodup (nodup_map_value_branches hDistinct ht)
      (nodup_map_value_branches hOthers hu)]
    intro below
    rw [mem_map_value_branches_iff hDistinct ht, mem_map_value_branches_iff hOthers hu, hValue,
      hEdges]
  exact hBelow.forestReordered trees (List.Subset.refl _) others (List.Subset.refl _) hTops

end HardwareReport.Tree
