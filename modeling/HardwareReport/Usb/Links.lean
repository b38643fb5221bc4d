import HardwareReport.Tree

/-!
# Usb — forests from parent links

Things that are numbered from zero and of which each may name another as its parent. Links may be
missing, and may form cycles. A forest is grown from the things without a parent, and then from
whatever those do not lead down to, so that a cycle is cut where it is met first.

* `Links.parent?`, `Links.children` — the parent of a thing, and the things that it is the parent
  of;
* `Links.grow` — the trees below several things, as far as they have not been met;
* `Links.forest` — the forest of all things.
-/

namespace HardwareReport

/-- The parent of each thing, by number. -/
abbrev Links := Array (Option Nat)

namespace Links

/-- The parent of a thing. -/
def parent? (links : Links) (i : Nat) : Option Nat :=
  links[i]?.join

/-- The things that have a thing as their parent, in order. -/
def children (links : Links) (i : Nat) : List Nat :=
  (List.range links.size).filter fun j => links.parent? j == some i

/-- The things without a parent, in order. -/
def parentless (links : Links) : List Nat :=
  (List.range links.size).filter fun i => links.parent? i == none

/-! ## Growing -/

/-- What comes of growing trees while some things are waiting for a place in one. -/
structure Growth (waiting : List Nat) where
  trees : List (Tree Nat)
  /-- The things that are still waiting. -/
  left : List Nat
  /-- A thing that has got its place does not wait for another. -/
  sublist : left.Sublist waiting

/-- Grows a tree from each of several things that is still waiting when its turn comes. A thing gets
its place before all that hangs below it, and that before the next of the things. -/
def grow (links : Links) (waiting things : List Nat) : Growth waiting :=
  match things with
  | [] => ⟨[], waiting, .refl waiting⟩
  | i :: rest =>
    if _hi : i ∈ waiting then
      match grow links (waiting.erase i) (links.children i) with
      | ⟨branches, left, hLeft⟩ =>
        match grow links left rest with
        | ⟨trees, last, hLast⟩ =>
          ⟨.node i branches :: trees, last, (hLast.trans hLeft).trans List.erase_sublist⟩
    else grow links waiting rest
-- A thing that gets its place is no longer waiting, and one that does not is done with.
termination_by (waiting.length, things.length)
decreasing_by
  · have hPos := List.length_pos_of_mem _hi
    rw [List.length_erase_of_mem _hi]
    exact Prod.Lex.left _ _ (by omega)
  · have hPos := List.length_pos_of_mem _hi
    have hLength := hLeft.length_le
    rw [List.length_erase_of_mem _hi] at hLength
    exact Prod.Lex.left _ _ (by omega)
  · exact Prod.Lex.right _ (Nat.lt_succ_self _)

/-- The forest of all things: the trees below those without a parent, and then the trees below those
that none of these leads down to, each entered where the enumeration meets it first. -/
def forest (links : Links) : List (Tree Nat) :=
  let fromTops := links.grow (List.range links.size) links.parentless
  let fromCycles := links.grow fromTops.left (List.range links.size)
  fromTops.trees ++ fromCycles.trees

/-! ## Small laws -/

variable {links : Links} {waiting rest : List Nat} {i : Nat}

@[simp] theorem trees_grow_nil : (links.grow waiting []).trees = [] := by
  rw [grow]

@[simp] theorem left_grow_nil : (links.grow waiting []).left = waiting := by
  rw [grow]

theorem trees_grow_cons_of_mem (hi : i ∈ waiting) :
    (links.grow waiting (i :: rest)).trees =
      .node i (links.grow (waiting.erase i) (links.children i)).trees ::
        (links.grow (links.grow (waiting.erase i) (links.children i)).left rest).trees := by
  rw [grow, dif_pos hi]

theorem left_grow_cons_of_mem (hi : i ∈ waiting) :
    (links.grow waiting (i :: rest)).left =
      (links.grow (links.grow (waiting.erase i) (links.children i)).left rest).left := by
  rw [grow, dif_pos hi]

theorem grow_cons_of_not_mem (hi : i ∉ waiting) :
    links.grow waiting (i :: rest) = links.grow waiting rest := by
  rw [grow, dif_neg hi]

/-- What holds of growing follows the order in which it is done: first what hangs below a thing,
then the rest of the things. -/
theorem grow_induction (links : Links) {motive : List Nat → List Nat → Prop}
    (nil : ∀ waiting, motive waiting [])
    (mem : ∀ waiting i rest, i ∈ waiting → motive (waiting.erase i) (links.children i) →
      motive (links.grow (waiting.erase i) (links.children i)).left rest →
      motive waiting (i :: rest))
    (not_mem : ∀ waiting i rest, i ∉ waiting → motive waiting rest → motive waiting (i :: rest))
    (waiting things : List Nat) : motive waiting things := by
  induction waiting, things using grow.induct links with
  | case1 waiting => exact nil waiting
  | case2 waiting i rest hi branches left hLeft hBelow trees last hLast hBeside ihBelow ihRest =>
    have hNext : left = (links.grow (waiting.erase i) (links.children i)).left := by rw [hBelow]
    exact mem waiting i rest hi ihBelow (hNext ▸ ihRest)
  | case3 waiting i rest hi ih => exact not_mem waiting i rest hi ih

end Links

end HardwareReport
