import HardwareReport.Text.Blank
import HardwareReport.Tree
import Mathlib.Order.Monotone.Basic

/-!
# Tree — forests read back from outlines

An outline lists the values of a forest in preorder, each with a number that grows with its depth.
The forest can be read back from it: below a value stands whatever follows it, up to the first entry
that does not stand deeper. The reader begins at the end of the list, so that what may stand below
an entry has been put together when its turn comes.

* `Tree.ofOutline` — the forest that an outline tells;
* `Tree.forestShape` — the nesting of a forest, without its values;
* `Tree.ofIndentation` — the nesting that numbers alone tell.

## Results

* `Tree.ofOutline_forestOutline` — an outline tells the forest that it was made of;
* `Tree.ofIndentation_forestOutline` — its numbers tell the nesting.
-/

namespace HardwareReport.Tree

variable {α β : Type}

/-! ## Reading -/

/-- Puts an entry before trees that are told with the numbers of their tops: those that stand deeper
than it, up to the first that does not, go below it. -/
def plant (entry : Nat × α) (placed : List (Nat × Tree α)) : List (Nat × Tree α) :=
  (entry.1, .node entry.2 ((placed.takeWhile fun tree => entry.1 < tree.1).map Prod.snd)) ::
    placed.dropWhile fun tree => entry.1 < tree.1

/-- The forest that an outline tells. -/
def ofOutline (entries : List (Nat × α)) : List (Tree α) :=
  (entries.foldr plant []).map Prod.snd

/-- The nesting of a forest, without its values. -/
def forestShape (trees : List (Tree α)) : List (Tree Unit) :=
  forestMap (fun _ => ()) trees

/-- The nesting that the numbers of an outline tell by themselves. -/
def ofIndentation (widths : List Nat) : List (Tree Unit) :=
  ofOutline (widths.map fun width => (width, ()))

/-! ## What is read -/

/-- Trees whose tops all stand deeper than an entry go below it, if what follows them does not. -/
theorem plant_append {entry : Nat × α} {deeper : Nat} {trees : List (Tree α)}
    {placed : List (Nat × Tree α)} (hDeeper : entry.1 < deeper)
    (hStop : ∀ tree ∈ placed.head?, tree.1 ≤ entry.1) :
    plant entry (trees.map (Prod.mk deeper) ++ placed) =
      (entry.1, .node entry.2 trees) :: placed := by
  have hRun : ∀ tree ∈ trees.map (Prod.mk deeper), decide (entry.1 < tree.1) = true := by
    intro tree hTree
    obtain ⟨_, -, rfl⟩ := List.mem_map.mp hTree
    exact decide_eq_true hDeeper
  have hEnd : ∀ tree ∈ placed.head?, decide (entry.1 < tree.1) = false := fun tree hTree =>
    decide_eq_false (Nat.not_lt.mpr (hStop tree hTree))
  rw [plant, Text.takeWhile_append_of_stop hRun hEnd, Text.dropWhile_append_of_stop hRun hEnd,
    List.map_map]
  exact congrArg (fun below => (entry.1, node entry.2 below) :: placed) (List.map_id trees)

mutual

/-- The outline of a tree is planted as that tree, before whatever does not stand deeper. -/
theorem foldr_plant_outline {width : Nat → Nat} (hWidth : StrictMono width) (f : α → β)
    (depth : Nat) (placed : List (Nat × Tree β))
    (hStop : ∀ tree ∈ placed.head?, tree.1 ≤ width depth) : ∀ tree : Tree α,
    ((outline depth tree).map fun entry => (width entry.1, f entry.2.value)).foldr plant placed =
      (width depth, tree.map f) :: placed
  | .node top branches => by
    have hDeeper : width depth < width (depth + 1) := hWidth (Nat.lt_succ_self depth)
    have hBelow := foldr_plant_forestOutline hWidth f (depth + 1) placed
      (fun tree hTree => (hStop tree hTree).trans hDeeper.le) branches
    rw [outline, List.map_cons, List.foldr_cons, hBelow, map]
    exact plant_append hDeeper hStop

/-- The outline of several trees is planted as those trees. -/
theorem foldr_plant_forestOutline {width : Nat → Nat} (hWidth : StrictMono width) (f : α → β)
    (depth : Nat) (placed : List (Nat × Tree β))
    (hStop : ∀ tree ∈ placed.head?, tree.1 ≤ width depth) : ∀ trees : List (Tree α),
    ((forestOutline depth trees).map fun entry => (width entry.1, f entry.2.value)).foldr plant
      placed = (forestMap f trees).map (Prod.mk (width depth)) ++ placed
  | [] => rfl
  | tree :: rest => by
    rw [forestOutline, List.map_append, List.foldr_append,
      foldr_plant_forestOutline hWidth f depth placed hStop rest, forestMap, List.map_cons]
    refine foldr_plant_outline hWidth f depth _ ?_ tree
    -- the next tree stands as deep as this one
    cases rest with
    | nil => exact hStop
    | cons next others =>
      intro placedTree hFirst
      obtain rfl := Option.some.inj hFirst
      exact Nat.le_refl _

end

/-- **An outline tells the forest that it was made of**, whatever the numbers are that tell how deep
its entries stand. -/
theorem ofOutline_forestOutline {width : Nat → Nat} (hWidth : StrictMono width) (f : α → β)
    (depth : Nat) (trees : List (Tree α)) :
    ofOutline ((forestOutline depth trees).map fun entry => (width entry.1, f entry.2.value)) =
      forestMap f trees := by
  have hPlanted := foldr_plant_forestOutline hWidth f depth [] (by simp) trees
  rw [ofOutline, hPlanted, List.append_nil, List.map_map]
  exact List.map_id _

/-- The numbers alone tell the nesting. -/
theorem ofIndentation_forestOutline {width : Nat → Nat} (hWidth : StrictMono width) (depth : Nat)
    (trees : List (Tree α)) :
    ofIndentation ((forestOutline depth trees).map fun entry => width entry.1) =
      forestShape trees := by
  rw [ofIndentation, List.map_map]
  exact ofOutline_forestOutline hWidth (fun _ => ()) depth trees

mutual

/-- An outline lists the values in preorder. -/
theorem map_value_outline (depth : Nat) : ∀ tree : Tree α,
    (outline depth tree).map (fun entry => entry.2.value) = tree.preorder
  | .node top branches => by
    rw [outline, List.map_cons, map_value_forestOutline (depth + 1) branches, preorder]
    rfl

theorem map_value_forestOutline (depth : Nat) : ∀ trees : List (Tree α),
    (forestOutline depth trees).map (fun entry => entry.2.value) = forestPreorder trees
  | [] => rfl
  | tree :: rest => by
    rw [forestOutline, List.map_append, map_value_outline depth tree,
      map_value_forestOutline depth rest, forestPreorder]

end

end HardwareReport.Tree
