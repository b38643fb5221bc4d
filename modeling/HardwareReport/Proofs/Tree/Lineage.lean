import HardwareReport.Proofs.Tree
import Mathlib.Data.List.Nodup
import Mathlib.Logic.Relation

/-!
# Tree — lineage

A value is above another if the other hangs below it at any depth. In a forest without repetitions
the pairs of the two are told by the edges alone, and an edge is told by them: it joins two values
with none between them.

* `Tree.subtrees`, `Tree.forestSubtrees` — a tree at each of its values;
* `Tree.lineage`, `Tree.forestLineage` — the pairs of a value and a value anywhere below it;
* `Tree.mem_forestLineage_iff_transGen` — one step after the other;
* `Tree.mem_forestEdges_iff_lineage` — the steps with nothing between them.
-/

namespace HardwareReport.Tree

variable {α β : Type}

/-! ## Subtrees -/

mutual

/-- The trees at the values of a tree, in preorder. -/
def subtrees : Tree α → List (Tree α)
  | .node value branches => .node value branches :: forestSubtrees branches

/-- The trees at the values of several trees, in preorder. -/
def forestSubtrees : List (Tree α) → List (Tree α)
  | [] => []
  | tree :: rest => subtrees tree ++ forestSubtrees rest

end

theorem forestSubtrees_append (trees others : List (Tree α)) :
    forestSubtrees (trees ++ others) = forestSubtrees trees ++ forestSubtrees others := by
  induction trees with
  | nil => rfl
  | cons tree rest ih =>
    rw [List.cons_append, forestSubtrees, ih, forestSubtrees, List.append_assoc]

mutual

theorem map_value_subtrees : ∀ tree : Tree α, tree.subtrees.map value = tree.preorder
  | .node top branches => by
    rw [subtrees, preorder, List.map_cons, map_value_forestSubtrees branches]
    rfl

theorem map_value_forestSubtrees : ∀ trees : List (Tree α),
    (forestSubtrees trees).map value = forestPreorder trees
  | [] => rfl
  | tree :: rest => by
    rw [forestSubtrees, forestPreorder, List.map_append, map_value_subtrees tree,
      map_value_forestSubtrees rest]

end

theorem value_mem_forestPreorder {trees : List (Tree α)} {t : Tree α}
    (ht : t ∈ forestSubtrees trees) : t.value ∈ forestPreorder trees := by
  rw [← map_value_forestSubtrees]
  exact List.mem_map_of_mem ht

theorem exists_value_eq {trees : List (Tree α)} {a : α} (ha : a ∈ forestPreorder trees) :
    ∃ t ∈ forestSubtrees trees, t.value = a := by
  rw [← map_value_forestSubtrees] at ha
  exact List.mem_map.mp ha

theorem mem_forestSubtrees_of_mem {trees : List (Tree α)} {t : Tree α} (h : t ∈ trees) :
    t ∈ forestSubtrees trees := by
  induction trees with
  | nil => exact absurd h List.not_mem_nil
  | cons tree rest ih =>
    rw [forestSubtrees, List.mem_append]
    rcases List.mem_cons.mp h with rfl | hRest
    · obtain ⟨top, branches⟩ := t
      rw [subtrees]
      exact .inl (List.mem_cons_self ..)
    · exact .inr (ih hRest)

mutual

/-- What is below a subtree is below the tree. -/
theorem subtrees_branches_subset {t : Tree α} : ∀ tree : Tree α, t ∈ tree.subtrees →
    forestSubtrees t.branches ⊆ tree.subtrees
  | .node top branches => by
    intro ht
    rw [subtrees] at ht ⊢
    rcases List.mem_cons.mp ht with rfl | hBelow
    · exact List.subset_cons_self ..
    · exact List.subset_cons_of_subset _ (forestSubtrees_branches_subset branches hBelow)

theorem forestSubtrees_branches_subset {t : Tree α} : ∀ trees : List (Tree α),
    t ∈ forestSubtrees trees → forestSubtrees t.branches ⊆ forestSubtrees trees
  | [] => fun ht => absurd ht List.not_mem_nil
  | tree :: rest => by
    intro ht
    rw [forestSubtrees] at ht ⊢
    rcases List.mem_append.mp ht with hFirst | hRest
    · exact List.subset_append_of_subset_left _ (subtrees_branches_subset tree hFirst)
    · exact List.subset_append_of_subset_right _ (forestSubtrees_branches_subset rest hRest)

end

mutual

/-- The values of a subtree are a stretch of those of the tree. -/
theorem preorder_sublist_of_mem {t : Tree α} : ∀ tree : Tree α, t ∈ tree.subtrees →
    t.preorder.Sublist tree.preorder
  | .node top branches => by
    intro ht
    rw [subtrees] at ht
    rcases List.mem_cons.mp ht with rfl | hBelow
    · exact .refl _
    · rw [preorder]
      exact (preorder_sublist_of_mem_forest branches hBelow).cons top

theorem preorder_sublist_of_mem_forest {t : Tree α} : ∀ trees : List (Tree α),
    t ∈ forestSubtrees trees → t.preorder.Sublist (forestPreorder trees)
  | [] => fun ht => absurd ht List.not_mem_nil
  | tree :: rest => by
    intro ht
    rw [forestSubtrees] at ht
    rw [forestPreorder]
    rcases List.mem_append.mp ht with hFirst | hRest
    · exact (preorder_sublist_of_mem tree hFirst).trans (List.sublist_append_left ..)
    · exact (preorder_sublist_of_mem_forest rest hRest).trans (List.sublist_append_right ..)

end

section Distinct

variable {trees : List (Tree α)} (hDistinct : (forestPreorder trees).Nodup)
include hDistinct

/-- Without repetitions a subtree is told by its top. -/
theorem eq_of_value_eq {t u : Tree α} (ht : t ∈ forestSubtrees trees)
    (hu : u ∈ forestSubtrees trees) (hValue : t.value = u.value) : t = u := by
  rw [← map_value_forestSubtrees] at hDistinct
  exact List.inj_on_of_nodup_map hDistinct ht hu hValue

/-- Without repetitions no value is below itself. -/
theorem value_not_mem_branches {t : Tree α} (ht : t ∈ forestSubtrees trees) :
    t.value ∉ forestPreorder t.branches := by
  have hNodup := hDistinct.sublist (preorder_sublist_of_mem_forest trees ht)
  obtain ⟨top, branches⟩ := t
  -- the top comes before everything below it
  rw [preorder] at hNodup
  exact (List.nodup_cons.mp hNodup).1

end Distinct

/-! ## Edges -/

mutual

theorem mem_edges_iff {above below : α} : ∀ tree : Tree α, (above, below) ∈ tree.edges ↔
    ∃ t ∈ tree.subtrees, t.value = above ∧ below ∈ t.branches.map value
  | .node top branches => by
    have hTop : (above, below) ∈ branches.map (fun branch => (top, branch.value)) ↔
        top = above ∧ below ∈ branches.map value := by
      simp only [List.mem_map, Prod.mk.injEq]
      exact ⟨fun ⟨branch, hMem, hAbove, hBelow⟩ => ⟨hAbove, branch, hMem, hBelow⟩,
        fun ⟨hAbove, branch, hMem, hBelow⟩ => ⟨branch, hMem, hAbove, hBelow⟩⟩
    rw [edges, subtrees, List.mem_append, mem_forestEdges_iff branches, List.exists_mem_cons_iff,
      hTop]
    rfl

/-- An edge joins the top of a subtree to the top of one of its branches. -/
theorem mem_forestEdges_iff {above below : α} : ∀ trees : List (Tree α),
    (above, below) ∈ forestEdges trees ↔
      ∃ t ∈ forestSubtrees trees, t.value = above ∧ below ∈ t.branches.map value
  | [] => by simp [forestEdges, forestSubtrees]
  | tree :: rest => by
    rw [forestEdges, forestSubtrees, List.mem_append, mem_edges_iff tree,
      mem_forestEdges_iff rest]
    simp only [List.mem_append, or_and_right, exists_or]

end

theorem upper_mem_forestPreorder {trees : List (Tree α)} {above below : α}
    (h : (above, below) ∈ forestEdges trees) : above ∈ forestPreorder trees := by
  obtain ⟨t, ht, rfl, -⟩ := (mem_forestEdges_iff trees).mp h
  exact value_mem_forestPreorder ht

theorem map_value_subset_forestPreorder (trees : List (Tree α)) :
    trees.map value ⊆ forestPreorder trees := by
  intro a ha
  exact (tops_edges_perm trees).subset (List.mem_append_left _ ha)

/-- Without repetitions a value hangs directly below one other at most. -/
theorem edge_above_unique {trees : List (Tree α)} (hDistinct : (forestPreorder trees).Nodup)
    {above other below : α} (h : (above, below) ∈ forestEdges trees)
    (hOther : (other, below) ∈ forestEdges trees) : above = other := by
  have hLower : ((forestEdges trees).map Prod.snd).Nodup :=
    (List.nodup_append.mp ((tops_edges_perm trees).nodup_iff.mpr hDistinct)).2.1
  exact congrArg Prod.fst (List.inj_on_of_nodup_map hLower h hOther rfl)

/-! ## Lineage -/

mutual

/-- The pairs of a value of a tree and a value anywhere below it. -/
def lineage : Tree α → List (α × α)
  | .node value branches =>
    (forestPreorder branches).map (fun below => (value, below)) ++ forestLineage branches

/-- The pairs of a value of several trees and a value anywhere below it. -/
def forestLineage : List (Tree α) → List (α × α)
  | [] => []
  | tree :: rest => lineage tree ++ forestLineage rest

end

mutual

theorem mem_lineage_iff {above below : α} : ∀ tree : Tree α, (above, below) ∈ tree.lineage ↔
    ∃ t ∈ tree.subtrees, t.value = above ∧ below ∈ forestPreorder t.branches
  | .node top branches => by
    have hTop : (above, below) ∈ (forestPreorder branches).map (fun below => (top, below)) ↔
        top = above ∧ below ∈ forestPreorder branches := by
      simp only [List.mem_map, Prod.mk.injEq]
      exact ⟨fun ⟨_, hMem, hAbove, hBelow⟩ => ⟨hAbove, hBelow ▸ hMem⟩,
        fun ⟨hAbove, hMem⟩ => ⟨below, hMem, hAbove, rfl⟩⟩
    rw [lineage, subtrees, List.mem_append, mem_forestLineage_iff branches,
      List.exists_mem_cons_iff, hTop]
    rfl

theorem mem_forestLineage_iff {above below : α} : ∀ trees : List (Tree α),
    (above, below) ∈ forestLineage trees ↔
      ∃ t ∈ forestSubtrees trees, t.value = above ∧ below ∈ forestPreorder t.branches
  | [] => by simp [forestLineage, forestSubtrees]
  | tree :: rest => by
    rw [forestLineage, forestSubtrees, List.mem_append, mem_lineage_iff tree,
      mem_forestLineage_iff rest]
    simp only [List.mem_append, or_and_right, exists_or]

end

theorem forestEdges_subset_forestLineage (trees : List (Tree α)) :
    forestEdges trees ⊆ forestLineage trees := by
  rintro ⟨above, below⟩ hEdge
  obtain ⟨t, ht, hValue, hBelow⟩ := (mem_forestEdges_iff trees).mp hEdge
  exact (mem_forestLineage_iff trees).mpr
    ⟨t, ht, hValue, map_value_subset_forestPreorder t.branches hBelow⟩

/-- A value hangs directly below another. -/
def Joins (trees : List (Tree α)) (above below : α) : Prop :=
  (above, below) ∈ forestEdges trees

mutual

/-- From the top of a tree, edges lead to every other value in it. -/
theorem transGen_of_mem_preorder {trees : List (Tree α)} {below : α} : ∀ tree : Tree α,
    tree.subtrees ⊆ forestSubtrees trees → below ∈ tree.preorder →
      tree.value = below ∨ Relation.TransGen (Joins trees) tree.value below
  | .node top branches => by
    intro hPart hBelow
    rw [preorder] at hBelow
    rcases List.mem_cons.mp hBelow with rfl | hDeep
    · exact .inl rfl
    · -- the first step leads to a branch, and what is below leads on from there
      rw [subtrees] at hPart
      obtain ⟨branch, hBranch, hReach⟩ := transGen_of_mem_forestPreorder branches
        (List.Subset.trans (List.subset_cons_self ..) hPart) hDeep
      have hJoins : Joins trees top branch.value :=
        (mem_forestEdges_iff trees).mpr
          ⟨_, hPart (List.mem_cons_self ..), rfl, List.mem_map_of_mem hBranch⟩
      rcases hReach with rfl | hReach
      · exact .inr (.single hJoins)
      · exact .inr (.head hJoins hReach)

/-- Step by step, every value of a part of a forest is reached from the top of one of its trees. -/
theorem transGen_of_mem_forestPreorder {trees : List (Tree α)} {below : α} :
    ∀ part : List (Tree α), forestSubtrees part ⊆ forestSubtrees trees →
      below ∈ forestPreorder part →
        ∃ tree ∈ part, tree.value = below ∨ Relation.TransGen (Joins trees) tree.value below
  | [] => fun _ hBelow => absurd hBelow List.not_mem_nil
  | tree :: rest => by
    intro hPart hBelow
    rw [forestSubtrees, List.append_subset] at hPart
    rw [forestPreorder, List.mem_append] at hBelow
    rcases hBelow with hFirst | hRest
    · exact ⟨tree, List.mem_cons_self .., transGen_of_mem_preorder tree hPart.1 hFirst⟩
    · obtain ⟨other, hMem, hReach⟩ := transGen_of_mem_forestPreorder rest hPart.2 hRest
      exact ⟨other, List.mem_cons_of_mem _ hMem, hReach⟩

end

theorem transGen_of_mem_forestLineage {trees : List (Tree α)} {above below : α}
    (h : (above, below) ∈ forestLineage trees) : Relation.TransGen (Joins trees) above below := by
  obtain ⟨t, ht, rfl, hBelow⟩ := (mem_forestLineage_iff trees).mp h
  obtain ⟨branch, hBranch, hReach⟩ := transGen_of_mem_forestPreorder t.branches
    (forestSubtrees_branches_subset trees ht) hBelow
  have hJoins : Joins trees t.value branch.value :=
    (mem_forestEdges_iff trees).mpr ⟨t, ht, rfl, List.mem_map_of_mem hBranch⟩
  rcases hReach with rfl | hReach
  · exact .single hJoins
  · exact .head hJoins hReach

section Distinct

variable {trees : List (Tree α)} (hDistinct : (forestPreorder trees).Nodup) {above below : α}
include hDistinct

/-- What hangs directly below a value is below everything that is above that value. -/
theorem mem_forestLineage_step {middle : α} (h : (above, middle) ∈ forestLineage trees)
    (hStep : (middle, below) ∈ forestEdges trees) : (above, below) ∈ forestLineage trees := by
  rw [mem_forestLineage_iff] at h ⊢
  obtain ⟨t, ht, hAbove, hMiddle⟩ := h
  refine ⟨t, ht, hAbove, ?_⟩
  -- the place of `middle` below `t` is the only one
  rw [← map_value_forestSubtrees] at hMiddle
  obtain ⟨u, hu, hValue⟩ := List.mem_map.mp hMiddle
  obtain ⟨v, hv, hMiddleV, hBelow⟩ := (mem_forestEdges_iff trees).mp hStep
  have hSame : u = v := eq_of_value_eq hDistinct (forestSubtrees_branches_subset trees ht hu) hv
    (hValue.trans hMiddleV.symm)
  have hDeep := (preorder_sublist_of_mem_forest t.branches hu).subset
  obtain ⟨top, branches⟩ := u
  subst hSame
  exact hDeep (List.mem_cons_of_mem _ (map_value_subset_forestPreorder branches hBelow))

/-- **Without repetitions a value is above another if steps along the edges lead down to it.** -/
theorem mem_forestLineage_iff_transGen :
    (above, below) ∈ forestLineage trees ↔ Relation.TransGen (Joins trees) above below := by
  refine ⟨transGen_of_mem_forestLineage, fun h => ?_⟩
  induction h with
  | single hStep => exact forestEdges_subset_forestLineage trees hStep
  | tail _ hStep ih => exact mem_forestLineage_step hDistinct ih hStep

theorem not_mem_forestLineage_self : (above, above) ∉ forestLineage trees := by
  intro h
  obtain ⟨t, ht, hValue, hBelow⟩ := (mem_forestLineage_iff trees).mp h
  exact value_not_mem_branches hDistinct ht (hValue ▸ hBelow)

/-- **Without repetitions an edge joins two values that have none between them.** -/
theorem mem_forestEdges_iff_lineage :
    (above, below) ∈ forestEdges trees ↔
      (above, below) ∈ forestLineage trees ∧
        ∀ middle, (above, middle) ∈ forestLineage trees →
          (middle, below) ∉ forestLineage trees := by
  constructor
  · intro hEdge
    refine ⟨forestEdges_subset_forestLineage trees hEdge, ?_⟩
    intro middle hAbove hBelow
    -- the last step from `middle` down to `below` starts at `above`
    rcases (mem_forestLineage_iff_transGen hDistinct).mp hBelow with hLast | ⟨hFirst, hLast⟩
    · obtain rfl := edge_above_unique hDistinct hEdge hLast
      exact not_mem_forestLineage_self hDistinct hAbove
    · obtain rfl := edge_above_unique hDistinct hEdge hLast
      have hCycle := ((mem_forestLineage_iff_transGen hDistinct).mp hAbove).trans hFirst
      exact not_mem_forestLineage_self hDistinct
        ((mem_forestLineage_iff_transGen hDistinct).mpr hCycle)
  · rintro ⟨hAbove, hNone⟩
    rcases (mem_forestLineage_iff_transGen hDistinct).mp hAbove with hStep | ⟨hFirst, hLast⟩
    · exact hStep
    · -- a longer way down has a last stop before its end
      exact absurd (forestEdges_subset_forestLineage trees hLast)
        (hNone _ ((mem_forestLineage_iff_transGen hDistinct).mpr hFirst))

end Distinct

/-- The same edges make the same lineage. -/
theorem mem_forestLineage_congr {trees others : List (Tree α)}
    (hTrees : (forestPreorder trees).Nodup) (hOthers : (forestPreorder others).Nodup)
    (hEdges : ∀ a b, (a, b) ∈ forestEdges trees ↔ (a, b) ∈ forestEdges others) {above below : α} :
    (above, below) ∈ forestLineage trees ↔ (above, below) ∈ forestLineage others := by
  have hJoins : Joins trees = Joins others := by
    funext a b
    exact propext (hEdges a b)
  rw [mem_forestLineage_iff_transGen hTrees, mem_forestLineage_iff_transGen hOthers, hJoins]

/-! ## A function applied to every value -/

section Map

variable (f : α → β)

@[simp] theorem value_map (tree : Tree α) : (tree.map f).value = f tree.value := by
  obtain ⟨top, branches⟩ := tree
  rfl

@[simp] theorem branches_map (tree : Tree α) :
    (tree.map f).branches = forestMap f tree.branches := by
  obtain ⟨top, branches⟩ := tree
  rfl

theorem forestMap_eq_map (trees : List (Tree α)) : forestMap f trees = trees.map (map f) := by
  induction trees with
  | nil => rfl
  | cons tree rest ih => rw [forestMap, ih, List.map_cons]

theorem map_value_forestMap (trees : List (Tree α)) :
    (forestMap f trees).map value = (trees.map value).map f := by
  rw [forestMap_eq_map, List.map_map, List.map_map]
  exact List.map_congr_left fun tree _ => value_map f tree

mutual

theorem subtrees_map : ∀ tree : Tree α, (tree.map f).subtrees = tree.subtrees.map (map f)
  | .node top branches => by
    rw [map, subtrees, subtrees, List.map_cons, forestSubtrees_forestMap branches, map]

theorem forestSubtrees_forestMap : ∀ trees : List (Tree α),
    forestSubtrees (forestMap f trees) = (forestSubtrees trees).map (map f)
  | [] => rfl
  | tree :: rest => by
    rw [forestMap, forestSubtrees, forestSubtrees, List.map_append, subtrees_map tree,
      forestSubtrees_forestMap rest]

end

mutual

theorem edges_map : ∀ tree : Tree α, (tree.map f).edges = tree.edges.map (Prod.map f f)
  | .node top branches => by
    have hTops : (forestMap f branches).map (fun branch => (f top, branch.value)) =
        (branches.map fun branch => (top, branch.value)).map (Prod.map f f) := by
      rw [forestMap_eq_map, List.map_map, List.map_map]
      refine List.map_congr_left fun branch _ => ?_
      rw [Function.comp_apply, value_map]
      rfl
    rw [map, edges, edges, List.map_append, hTops, forestEdges_forestMap branches]

theorem forestEdges_forestMap : ∀ trees : List (Tree α),
    forestEdges (forestMap f trees) = (forestEdges trees).map (Prod.map f f)
  | [] => rfl
  | tree :: rest => by
    rw [forestMap, forestEdges, forestEdges, List.map_append, edges_map tree,
      forestEdges_forestMap rest]

end

mutual

theorem map_map {γ : Type} (g : β → γ) : ∀ tree : Tree α,
    (tree.map f).map g = tree.map (g ∘ f)
  | .node top branches => by
    rw [map, map, map, forestMap_forestMap g branches]
    rfl

theorem forestMap_forestMap {γ : Type} (g : β → γ) : ∀ trees : List (Tree α),
    forestMap g (forestMap f trees) = forestMap (g ∘ f) trees
  | [] => rfl
  | tree :: rest => by
    rw [forestMap, forestMap, forestMap, map_map g tree, forestMap_forestMap g rest]

end

mutual

theorem map_congr {f g : α → β} : ∀ tree : Tree α, (∀ a ∈ tree.preorder, f a = g a) →
    tree.map f = tree.map g
  | .node top branches => by
    intro h
    rw [preorder, List.forall_mem_cons] at h
    rw [map, map, h.1, forestMap_congr branches h.2]

/-- What a function does to other values does not matter. -/
theorem forestMap_congr {f g : α → β} : ∀ trees : List (Tree α),
    (∀ a ∈ forestPreorder trees, f a = g a) → forestMap f trees = forestMap g trees
  | [] => fun _ => rfl
  | tree :: rest => by
    intro h
    rw [forestPreorder, List.forall_mem_append] at h
    rw [forestMap, forestMap, map_congr tree h.1, forestMap_congr rest h.2]

end

end Map

end HardwareReport.Tree
