/-!
# Tree — trees with any number of branches

* `Tree` — a value with the trees below it;
* `Tree.size` — the count of values;
* `Tree.preorder` — the values, each before those below it;
* `Tree.outline` — the values in the same order with their depths.
-/

namespace HardwareReport

/-- A value with the trees below it. -/
inductive Tree (α : Type) where
  | node (value : α) (branches : List (Tree α))

namespace Tree

variable {α β : Type}

/-- The value at the top. -/
def value : Tree α → α
  | .node value _ => value

/-- The trees below the top. -/
def branches : Tree α → List (Tree α)
  | .node _ branches => branches

/-- A value with nothing below it. -/
def leaf (value : α) : Tree α := .node value []

mutual

/-- The count of values in a tree. -/
def size : Tree α → Nat
  | .node _ branches => 1 + forestSize branches

/-- The count of values in several trees. -/
def forestSize : List (Tree α) → Nat
  | [] => 0
  | tree :: rest => size tree + forestSize rest

end

mutual

/-- The values of a tree, each before those below it. -/
def preorder : Tree α → List α
  | .node value branches => value :: forestPreorder branches

/-- The values of several trees, one tree after the other. -/
def forestPreorder : List (Tree α) → List α
  | [] => []
  | tree :: rest => preorder tree ++ forestPreorder rest

end

mutual

/-- The values of a tree in preorder, with their depths and the sizes of the trees they top. -/
def outline (depth : Nat) : Tree α → List (Nat × Tree α)
  | .node value branches => (depth, .node value branches) :: forestOutline (depth + 1) branches

/-- The outline of several trees whose tops are at one depth. -/
def forestOutline (depth : Nat) : List (Tree α) → List (Nat × Tree α)
  | [] => []
  | tree :: rest => outline depth tree ++ forestOutline depth rest

end

mutual

/-- A tree with a function applied to every value. -/
def map (f : α → β) : Tree α → Tree β
  | .node value branches => .node (f value) (forestMap f branches)

/-- Several trees with a function applied to every value. -/
def forestMap (f : α → β) : List (Tree α) → List (Tree β)
  | [] => []
  | tree :: rest => map f tree :: forestMap f rest

end

/-! ## Small laws -/

mutual

/-- The preorder of a tree lists as many values as the tree has. -/
theorem length_preorder : ∀ tree : Tree α, tree.preorder.length = tree.size
  | .node _ branches => by
    simp only [preorder, size, List.length_cons, length_forestPreorder branches]
    omega

/-- The preorder of several trees lists as many values as the trees have. -/
theorem length_forestPreorder : ∀ trees : List (Tree α),
    (forestPreorder trees).length = forestSize trees
  | [] => rfl
  | tree :: rest => by
    simp only [forestPreorder, forestSize, List.length_append, length_preorder tree,
      length_forestPreorder rest]

end

mutual

/-- Applying a function keeps the order of the values. -/
theorem preorder_map (f : α → β) : ∀ tree : Tree α,
    (tree.map f).preorder = tree.preorder.map f
  | .node _ branches => by
    simp only [map, preorder, List.map_cons, forestPreorder_forestMap f branches]

/-- Applying a function keeps the order of the values of several trees. -/
theorem forestPreorder_forestMap (f : α → β) : ∀ trees : List (Tree α),
    forestPreorder (forestMap f trees) = (forestPreorder trees).map f
  | [] => rfl
  | tree :: rest => by
    simp only [forestMap, forestPreorder, List.map_append, preorder_map f tree,
      forestPreorder_forestMap f rest]

end

end Tree

end HardwareReport
