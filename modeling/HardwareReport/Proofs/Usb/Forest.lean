import HardwareReport.Proofs.Tree
import HardwareReport.Usb.Links

/-!
# Usb — the forest holds every thing once

Whatever the links are, the forest grown from them has one place for every thing and no other, and
nothing hangs below anything but its parent.

The argument follows how the forest is grown. What is waiting either gets one place or goes on
waiting (`forestPreorder_grow_perm`), nothing that has had its turn is waiting afterwards
(`not_mem_left_grow`), and in the end everything has had its turn.

## Results

* `Links.forestPreorder_forest_perm` — the forest holds every thing once;
* `Links.parent?_of_mem_forestEdges` — what hangs below a thing has it as its parent.
-/

namespace HardwareReport.Links

variable {links : Links}

/-! ## Growing -/

/-- Whatever is waiting either gets one place or goes on waiting. -/
theorem forestPreorder_grow_perm (links : Links) (waiting things : List Nat) :
    (Tree.forestPreorder (links.grow waiting things).trees ++
      (links.grow waiting things).left).Perm waiting := by
  induction waiting, things using grow_induction links with
  | nil waiting =>
    rw [trees_grow_nil, left_grow_nil]
    exact .refl waiting
  | mem waiting i rest hi ihBelow ihRest =>
    rw [trees_grow_cons_of_mem hi, left_grow_cons_of_mem hi, Tree.forestPreorder, Tree.preorder,
      List.cons_append, List.cons_append, List.append_assoc]
    -- what hangs below `i` and what comes after it share out what `i` leaves
    have hShare := (ihRest.append_left _).trans ihBelow
    exact (hShare.cons i).trans (List.perm_cons_erase hi).symm
  | not_mem waiting i rest hi ih =>
    rw [grow_cons_of_not_mem hi]
    exact ih

/-- Nothing that has had its turn is waiting afterwards. -/
theorem not_mem_left_grow {waiting things : List Nat} (hNodup : waiting.Nodup) {i : Nat}
    (hi : i ∈ things) : i ∉ (links.grow waiting things).left := by
  induction waiting, things using grow_induction links with
  | nil => exact absurd hi List.not_mem_nil
  | mem waiting first rest hFirst _ ihRest =>
    rw [left_grow_cons_of_mem hFirst]
    have hBelow := (links.grow (waiting.erase first) (links.children first)).sublist
    rcases List.mem_cons.mp hi with rfl | hRest
    · intro hLeft
      -- it was taken out, and nothing is put back
      exact hNodup.not_mem_erase (hBelow.subset ((links.grow _ rest).sublist.subset hLeft))
    · exact ihRest ((hNodup.erase first).sublist hBelow) hRest
  | not_mem waiting first rest hFirst ih =>
    rw [grow_cons_of_not_mem hFirst]
    rcases List.mem_cons.mp hi with rfl | hRest
    · exact fun hLeft => hFirst ((links.grow waiting rest).sublist.subset hLeft)
    · exact ih hNodup hRest

/-- Trees grow from the things in their order. -/
theorem map_value_grow_sublist (waiting things : List Nat) :
    ((links.grow waiting things).trees.map Tree.value).Sublist things := by
  induction waiting, things using grow_induction links with
  | nil waiting =>
    rw [trees_grow_nil]
    exact .slnil
  | mem waiting i rest hi _ ihRest =>
    rw [trees_grow_cons_of_mem hi]
    exact ihRest.cons_cons i
  | not_mem waiting i rest hi ih =>
    rw [grow_cons_of_not_mem hi]
    exact ih.cons i

theorem parent?_of_mem_children {i j : Nat} (h : j ∈ links.children i) :
    links.parent? j = some i :=
  beq_iff_eq.mp (List.mem_filter.mp h).2

/-- What hangs directly below a thing in a tree has it as its parent. -/
theorem parent?_of_mem_forestEdges_grow {waiting things : List Nat} {above below : Nat}
    (h : (above, below) ∈ Tree.forestEdges (links.grow waiting things).trees) :
    links.parent? below = some above := by
  induction waiting, things using grow_induction links with
  | nil waiting =>
    rw [trees_grow_nil] at h
    exact absurd h List.not_mem_nil
  | mem waiting i rest hi ihBelow ihRest =>
    rw [trees_grow_cons_of_mem hi, Tree.forestEdges, Tree.edges, List.mem_append,
      List.mem_append] at h
    -- an edge from the top, one further down, or one in a later tree
    rcases h with (hTop | hDeep) | hRest
    · obtain ⟨branch, hBranch, hPair⟩ := List.mem_map.mp hTop
      obtain ⟨rfl, rfl⟩ := Prod.mk.inj hPair
      exact parent?_of_mem_children
        ((map_value_grow_sublist _ _).subset (List.mem_map_of_mem hBranch))
    · exact ihBelow hDeep
    · exact ihRest hRest
  | not_mem waiting i rest hi ih =>
    rw [grow_cons_of_not_mem hi] at h
    exact ih h

/-! ## The forest -/

/-- **The forest holds every thing once.** -/
theorem forestPreorder_forest_perm (links : Links) :
    (Tree.forestPreorder links.forest).Perm (List.range links.size) := by
  obtain ⟨fromTops, hFromTops⟩ : ∃ growth, growth =
      links.grow (List.range links.size) links.parentless := ⟨_, rfl⟩
  have hTops := forestPreorder_grow_perm links (List.range links.size) links.parentless
  have hCycles := forestPreorder_grow_perm links fromTops.left (List.range links.size)
  -- everything has had its turn in the end
  have hNone : (links.grow fromTops.left (List.range links.size)).left = [] := by
    rw [List.eq_nil_iff_forall_not_mem]
    intro i hi
    have hWaiting := fromTops.sublist.subset ((Growth.sublist _).subset hi)
    exact not_mem_left_grow (List.nodup_range.sublist fromTops.sublist) hWaiting hi
  rw [hNone, List.append_nil] at hCycles
  rw [← hFromTops] at hTops
  rw [forest, Tree.forestPreorder_append, ← hFromTops]
  exact (hCycles.append_left _).trans hTops

/-- What hangs directly below a thing in the forest has it as its parent. -/
theorem parent?_of_mem_forestEdges {above below : Nat}
    (h : (above, below) ∈ Tree.forestEdges links.forest) : links.parent? below = some above := by
  rw [forest, Tree.forestEdges_append, List.mem_append] at h
  rcases h with hTops | hCycles
  · exact parent?_of_mem_forestEdges_grow hTops
  · exact parent?_of_mem_forestEdges_grow hCycles

end HardwareReport.Links
