import HardwareReport.Proofs.Tree.Lineage

/-!
# Tree — contraction

A forest can be thinned out to the values of a kind: a value of another kind gives way to what hangs
below it. What is left keeps its order, and whatever of it was above something else still is.

* `Tree.contract`, `Tree.forestContract` — what is left of a tree;
* `Tree.forestPreorder_forestContract`, `Tree.forestLineage_forestContract` — the values that are
  left, and which of them is above which;
* `Tree.placed`, `Tree.forestPlaced` — the values with those directly above them.
-/

namespace HardwareReport.Tree

variable {α : Type} (keep : α → Bool)

/-! ## Thinning out -/

mutual

/-- What is left of a tree if only some of its values are kept. -/
def contract : Tree α → List (Tree α)
  | .node value branches =>
    if keep value then [.node value (forestContract branches)] else forestContract branches

/-- What is left of several trees. -/
def forestContract : List (Tree α) → List (Tree α)
  | [] => []
  | tree :: rest => contract tree ++ forestContract rest

end

mutual

theorem forestPreorder_contract : ∀ tree : Tree α,
    forestPreorder (contract keep tree) = tree.preorder.filter keep
  | .node top branches => by
    have ih := forestPreorder_forestContract branches
    rw [contract, preorder]
    cases hKeep : keep top with
    | true =>
      rw [List.filter_cons_of_pos hKeep, if_pos rfl, forestPreorder, preorder, ih, forestPreorder,
        List.append_nil]
    | false =>
      -- what is below takes the place of a value that is not kept
      rw [List.filter_cons_of_neg (by simp [hKeep]), if_neg (by simp), ih]

/-- The values that are left are those that are kept, in their order. -/
theorem forestPreorder_forestContract : ∀ trees : List (Tree α),
    forestPreorder (forestContract keep trees) = (forestPreorder trees).filter keep
  | [] => rfl
  | tree :: rest => by
    rw [forestContract, forestPreorder_append, forestPreorder_contract tree,
      forestPreorder_forestContract rest, forestPreorder, List.filter_append]

end

/-- Both values of a pair are kept. -/
def keepBoth (pair : α × α) : Bool :=
  keep pair.1 && keep pair.2

theorem forestLineage_append (trees others : List (Tree α)) :
    forestLineage (trees ++ others) = forestLineage trees ++ forestLineage others := by
  induction trees with
  | nil => rfl
  | cons tree rest ih =>
    rw [List.cons_append, forestLineage, ih, forestLineage, List.append_assoc]

mutual

/-- What stays above what in a contracted tree was above it before. -/
theorem forestLineage_contract : ∀ tree : Tree α,
    forestLineage (contract keep tree) = tree.lineage.filter (keepBoth keep)
  | .node top branches => by
    have ih := forestLineage_forestContract branches
    rw [contract, lineage, List.filter_append, List.filter_map, ← ih]
    cases hKeep : keep top with
    | true =>
      have hBelow : keepBoth keep ∘ (fun below => (top, below)) = keep := by
        funext below
        show (keep top && keep below) = keep below
        rw [hKeep, Bool.true_and]
      rw [if_pos rfl, forestLineage, lineage, forestPreorder_forestContract, hBelow, forestLineage,
        List.append_nil]
    | false =>
      -- a value that is not kept is above nothing any more
      have hNone : keepBoth keep ∘ (fun below => (top, below)) = fun _ => false := by
        funext below
        show (keep top && keep below) = false
        rw [hKeep, Bool.false_and]
      rw [if_neg (by simp), hNone, List.filter_false, List.map_nil, List.nil_append]

/-- **Of the values that are kept the same ones are above each other as before.** -/
theorem forestLineage_forestContract : ∀ trees : List (Tree α),
    forestLineage (forestContract keep trees) = (forestLineage trees).filter (keepBoth keep)
  | [] => rfl
  | tree :: rest => by
    rw [forestContract, forestLineage_append, forestLineage_contract tree,
      forestLineage_forestContract rest, forestLineage, List.filter_append]

end

/-! ## Places -/

mutual

/-- The values of a tree that hangs below a value or not, each with the one directly above it. -/
def placed (above : Option α) : Tree α → List (α × Option α)
  | .node value branches => (value, above) :: forestPlaced (some value) branches

/-- The values of several trees, each with the one directly above it. -/
def forestPlaced (above : Option α) : List (Tree α) → List (α × Option α)
  | [] => []
  | tree :: rest => placed above tree ++ forestPlaced above rest

end

theorem forestPlaced_append (above : Option α) (trees others : List (Tree α)) :
    forestPlaced above (trees ++ others) =
      forestPlaced above trees ++ forestPlaced above others := by
  induction trees with
  | nil => rfl
  | cons tree rest ih =>
    rw [List.cons_append, forestPlaced, ih, forestPlaced, List.append_assoc]

mutual

theorem map_fst_placed (above : Option α) : ∀ tree : Tree α,
    (tree.placed above).map Prod.fst = tree.preorder
  | .node top branches => by
    rw [placed, preorder, List.map_cons, map_fst_forestPlaced (some top) branches]

theorem map_fst_forestPlaced (above : Option α) : ∀ trees : List (Tree α),
    (forestPlaced above trees).map Prod.fst = forestPreorder trees
  | [] => rfl
  | tree :: rest => by
    rw [forestPlaced, forestPreorder, List.map_append, map_fst_placed above tree,
      map_fst_forestPlaced above rest]

end

mutual

/-- A value is placed under the one that an edge leads from, or is the top of the tree. -/
theorem mem_placed_iff {a : α} {above above? : Option α} : ∀ tree : Tree α,
    (a, above?) ∈ tree.placed above ↔
      a = tree.value ∧ above? = above ∨ ∃ b, above? = some b ∧ (b, a) ∈ tree.edges
  | .node top branches => by
    have hTops :
        (∃ b, above? = some b ∧ (b, a) ∈ branches.map (fun branch => (top, branch.value))) ↔
        a ∈ branches.map value ∧ above? = some top := by
      simp only [List.mem_map, Prod.mk.injEq]
      constructor
      · rintro ⟨b, hAbove, branch, hMem, rfl, hValue⟩
        exact ⟨⟨branch, hMem, hValue⟩, hAbove⟩
      · rintro ⟨⟨branch, hMem, hValue⟩, hAbove⟩
        exact ⟨top, hAbove, branch, hMem, rfl, hValue⟩
    -- a place below the top is that of a branch, or deeper
    rw [placed, edges, List.mem_cons, Prod.mk.injEq, mem_forestPlaced_iff branches, ← hTops]
    simp only [List.mem_append, and_or_left, exists_or]
    rfl

/-- A value hangs directly below the one that it is placed below, or it tops a tree. -/
theorem mem_forestPlaced_iff {a : α} {above above? : Option α} : ∀ trees : List (Tree α),
    (a, above?) ∈ forestPlaced above trees ↔
      a ∈ trees.map value ∧ above? = above ∨ ∃ b, above? = some b ∧ (b, a) ∈ forestEdges trees
  | [] => by simp [forestPlaced, forestEdges]
  | tree :: rest => by
    rw [forestPlaced, forestEdges, List.mem_append, mem_placed_iff tree,
      mem_forestPlaced_iff rest, List.map_cons, List.mem_cons]
    simp only [List.mem_append, and_or_left, or_and_right, exists_or]
    exact or_or_or_comm ..

end

end HardwareReport.Tree
