import HardwareReport.Tree
import Mathlib.Algebra.Ring.Nat
import Mathlib.Data.List.Perm.Basic

/-!
# Tree — edges

A tree is told by its top and by which value hangs directly below which. The pairs of the two are
the edges.

* `Tree.edges`, `Tree.forestEdges` — the pairs of a value and a value directly below it;
* `Tree.tops_edges_perm` — every value of a forest is either the top of a tree or the lower end of
  an edge, and never both at one place.
-/

namespace HardwareReport.Tree

variable {α : Type}

/-! ## Several trees -/

theorem forestPreorder_append (trees others : List (Tree α)) :
    forestPreorder (trees ++ others) = forestPreorder trees ++ forestPreorder others := by
  induction trees with
  | nil => rfl
  | cons tree rest ih =>
    rw [List.cons_append, forestPreorder, ih, forestPreorder, List.append_assoc]

theorem forestSize_eq_sum (trees : List (Tree α)) :
    forestSize trees = (trees.map size).sum := by
  induction trees with
  | nil => rfl
  | cons tree rest ih => rw [forestSize, ih, List.map_cons, List.sum_cons]

/-! ## Edges -/

mutual

/-- The pairs of a value of a tree and a value directly below it. -/
def edges : Tree α → List (α × α)
  | .node value branches =>
    branches.map (fun branch => (value, branch.value)) ++ forestEdges branches

/-- The pairs of a value of several trees and a value directly below it. -/
def forestEdges : List (Tree α) → List (α × α)
  | [] => []
  | tree :: rest => edges tree ++ forestEdges rest

end

theorem forestEdges_append (trees others : List (Tree α)) :
    forestEdges (trees ++ others) = forestEdges trees ++ forestEdges others := by
  induction trees with
  | nil => rfl
  | cons tree rest ih => rw [List.cons_append, forestEdges, ih, forestEdges, List.append_assoc]

mutual

/-- The values of a tree are its top and the lower ends of its edges. -/
theorem top_edges_perm : ∀ tree : Tree α,
    (tree.value :: tree.edges.map Prod.snd).Perm tree.preorder
  | .node value branches => by
    have ih := tops_edges_perm branches
    rw [edges, List.map_append, List.map_map, preorder]
    exact ih.cons value

/-- The values of several trees are their tops and the lower ends of their edges. -/
theorem tops_edges_perm : ∀ trees : List (Tree α),
    (trees.map value ++ (forestEdges trees).map Prod.snd).Perm (forestPreorder trees)
  | [] => .nil
  | tree :: rest => by
    have first := top_edges_perm tree
    have others := tops_edges_perm rest
    rw [forestEdges, forestPreorder, List.map_append, List.map_cons, List.cons_append]
    -- the lower ends of the first tree move in front of the other tops
    have swapped : (rest.map value ++ (tree.edges.map Prod.snd ++
        (forestEdges rest).map Prod.snd)).Perm
        (tree.edges.map Prod.snd ++ (rest.map value ++ (forestEdges rest).map Prod.snd)) := by
      rw [← List.append_assoc, ← List.append_assoc]
      exact List.perm_append_comm.append_right _
    exact (swapped.cons tree.value).trans (first.append others)

end

/-- A value of a forest that tops none of its trees hangs directly below another value. -/
theorem exists_edge_of_mem {trees : List (Tree α)} {a : α} (ha : a ∈ forestPreorder trees)
    (hTop : a ∉ trees.map value) : ∃ above, (above, a) ∈ forestEdges trees := by
  rw [← (tops_edges_perm trees).mem_iff, List.mem_append] at ha
  rcases ha with ha | ha
  · exact absurd ha hTop
  · obtain ⟨⟨above, below⟩, hEdge, rfl⟩ := List.mem_map.mp ha
    exact ⟨above, hEdge⟩

end HardwareReport.Tree
