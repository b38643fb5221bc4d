import HardwareReport.FileTree
import Mathlib.Data.List.Infix

/-!
# Files — what a removal leaves

A removal takes a name out of one directory. What does not lie at the removed path or below it is
read as before, and directories are listed as before but for that one name.

* `lookup_append` — a path is followed part by part;
* `lookup_remove_append`, `lookup_remove_of_apart` — what a path leads to, on the way to what was
  removed and away from it;
* `readBytes_remove`, `names_remove` — what is read, and what is listed.
-/

namespace HardwareReport.FileTree.Node

variable (tree : Node)

/-! ## Paths in two parts -/

/-- A path is looked up in two parts, the second in what the first leads to. -/
theorem lookup_append (path rest : Path) :
    tree.lookup (path ++ rest) = tree.lookup path >>= fun node => node.lookup rest := by
  induction path generalizing tree with
  | nil =>
    rw [List.nil_append, lookup]
    rfl
  | cons name path ih =>
    cases tree with
    | file content =>
      rw [List.cons_append, lookup, lookup]
      rfl
    | directory refusal entries =>
      rw [List.cons_append, lookup, lookup]
      cases entries.lookup name with
      | none => rfl
      | some child => exact ih child

theorem readBytes_append (path rest : Path) :
    tree.readBytes (path ++ rest) = tree.lookup path >>= fun node => node.readBytes rest := by
  rw [readBytes, lookup_append]
  cases tree.lookup path <;> rfl

theorem names_eq_bind (path : Path) :
    tree.names path = tree.lookup path >>= fun node => node.names [] := by
  rw [names]
  cases tree.lookup path with
  | error fault => rfl
  | ok node =>
    cases node with
    | file content => rfl
    | directory refusal entries => cases refusal <;> rfl

/-! ## One directory -/

theorem map_fst_setEntry {name : String} {entries : List (String × Node)} {old : Node}
    (h : entries.lookup name = some old) (node : Node) :
    (setEntry name node entries).map Prod.fst = entries.map Prod.fst := by
  induction entries with
  | nil => exact absurd h (by simp)
  | cons entry rest ih =>
    obtain ⟨other, inner⟩ := entry
    by_cases hName : other = name
    · simp [setEntry, hName]
    · have hFlip : (name == other) = false := by simpa using fun hSame => hName hSame.symm
      rw [List.lookup_cons, hFlip] at h
      simp [setEntry, hName, ih h]

theorem lookup_filter_ne {gone name : String} (hNe : name ≠ gone)
    (entries : List (String × Node)) :
    (entries.filter fun entry => entry.1 != gone).lookup name = entries.lookup name := by
  induction entries with
  | nil => rfl
  | cons entry rest ih =>
    obtain ⟨other, inner⟩ := entry
    by_cases hGone : other = gone
    · subst hGone
      have hFlip : (name == other) = false := by simpa using hNe
      simp [List.lookup_cons, hFlip, ih]
    · simp [hGone, List.lookup_cons, ih]

theorem remove_file (content : Except Fault ByteArray) (path : Path) :
    remove (.file content) path = .file content := by
  rw [remove] <;> simp

/-- A removal further down keeps the names in a directory, and what is below them but for the name
that the path goes on with. -/
theorem exists_remove_cons (refusal : Option Fault) (entries : List (String × Node))
    (gone : String) {rest : Path} (hRest : rest ≠ []) :
    ∃ left, remove (.directory refusal entries) (gone :: rest) = .directory refusal left ∧
      left.map Prod.fst = entries.map Prod.fst ∧
      left.lookup gone = (entries.lookup gone).map (·.remove rest) ∧
      ∀ name, name ≠ gone → left.lookup name = entries.lookup name := by
  obtain ⟨next, others, rfl⟩ := List.exists_cons_of_ne_nil hRest
  -- without an entry of the name there is nothing to remove
  cases hChild : entries.lookup gone with
  | none =>
    refine ⟨entries, ?_, rfl, by rw [hChild]; rfl, fun _ _ => rfl⟩
    rw [remove, hChild]
    simp
  | some child =>
    refine ⟨setEntry gone (child.remove (next :: others)) entries, ?_,
      map_fst_setEntry hChild _, lookup_setEntry .., fun name => lookup_setEntry_of_ne _ entries⟩
    rw [remove, hChild]
    simp

/-- A directory loses the name at which the path ends, if it ends there, and no other. -/
theorem exists_remove_directory (refusal : Option Fault) (entries : List (String × Node))
    {path : Path} (hPath : path ≠ []) :
    ∃ left, remove (.directory refusal entries) path = .directory refusal left ∧
      left.map Prod.fst = (entries.map Prod.fst).filter fun name => [name] != path := by
  obtain ⟨gone, rest, rfl⟩ := List.exists_cons_of_ne_nil hPath
  by_cases hRest : rest = []
  · -- the path ends at an entry, which goes
    subst hRest
    refine ⟨entries.filter fun entry => entry.1 != gone, by rw [remove], ?_⟩
    rw [List.filter_map]
    congr 2
    funext entry
    simp [bne, Function.comp]
  · obtain ⟨left, hLeft, hNames, -, -⟩ := exists_remove_cons refusal entries gone hRest
    refine ⟨left, hLeft, ?_⟩
    rw [hNames, List.filter_eq_self.mpr]
    intro name _
    simp [Ne.symm hRest]

/-! ## Paths -/

/-- On the way to what is removed a path leads to what it led to, less what is removed there. -/
theorem lookup_remove_append (path : Path) {rest : Path} (hRest : rest ≠ []) :
    (tree.remove (path ++ rest)).lookup path =
      (tree.lookup path).map fun node => node.remove rest := by
  induction path generalizing tree with
  | nil =>
    rw [List.nil_append, lookup, lookup]
    rfl
  | cons name path ih =>
    cases tree with
    | file content =>
      rw [remove_file, lookup]
      rfl
    | directory refusal entries =>
      have hLong : path ++ rest ≠ [] := by simp [hRest]
      -- the removal goes on below the name, and so does the path
      obtain ⟨left, hLeft, -, hHere, -⟩ := exists_remove_cons refusal entries name hLong
      rw [List.cons_append, hLeft, lookup, lookup, hHere]
      cases entries.lookup name with
      | none => rfl
      | some child => exact ih child

/-- Away from what is removed a path leads to what it led to. -/
theorem lookup_remove_of_apart {removed path : Path} (hBelow : ¬ removed <+: path)
    (hAbove : ¬ path <+: removed) : (tree.remove removed).lookup path = tree.lookup path := by
  induction path generalizing tree removed with
  | nil => exact absurd List.nil_prefix hAbove
  | cons name path ih =>
    cases tree with
    | file content => rw [remove_file]
    | directory refusal entries =>
      rcases removed with _ | ⟨gone, rest⟩
      · exact absurd List.nil_prefix hBelow
      rw [List.cons_prefix_cons] at hBelow hAbove
      by_cases hRest : rest = []
      · -- an entry of another name goes
        subst hRest
        have hNe : name ≠ gone := fun hSame => hBelow ⟨hSame.symm, List.nil_prefix⟩
        rw [remove, lookup, lookup, lookup_filter_ne hNe]
      · -- an entry stays, and something is removed from it
        obtain ⟨left, hLeft, -, hHere, hOthers⟩ :=
          exists_remove_cons refusal entries gone hRest
        rw [hLeft, lookup, lookup]
        by_cases hSame : name = gone
        · subst hSame
          rw [hHere]
          cases entries.lookup name with
          | none => rfl
          | some child =>
            exact ih child (fun h => hBelow ⟨rfl, h⟩) fun h => hAbove ⟨rfl, h⟩
        · rw [hOthers name hSame]

/-! ## Reading and listing -/

/-- **What is not at the removed path or below it is read as before.** -/
theorem readBytes_remove {removed path : Path} (h : ¬ removed <+: path) :
    (tree.remove removed).readBytes path = tree.readBytes path := by
  rw [readBytes, readBytes]
  by_cases hAbove : path <+: removed
  · obtain ⟨rest, rfl⟩ := hAbove
    have hRest : rest ≠ [] := by
      rintro rfl
      exact h (by simp)
    rw [lookup_remove_append tree path hRest]
    -- a file stays as it is, and a directory stays a directory
    cases tree.lookup path with
    | error fault => rfl
    | ok node =>
      cases node with
      | file content => simp only [Except.map, remove_file]
      | directory refusal entries =>
        obtain ⟨left, hLeft, -⟩ := exists_remove_directory refusal entries hRest
        simp only [Except.map, hLeft]
  · rw [lookup_remove_of_apart tree h hAbove]

/-- What was removed is not there any more, unless nothing could be there in the first place. -/
theorem readBytes_remove_self {path : Path} (hPath : path ≠ []) :
    (tree.remove path).readBytes path = .error .notFound ∨
      (tree.remove path).readBytes path = tree.readBytes path := by
  obtain ⟨front, name, rfl⟩ : ∃ front name, path = front ++ [name] :=
    ⟨_, _, (List.dropLast_append_getLast hPath).symm⟩
  rw [readBytes_append, readBytes_append tree, lookup_remove_append tree front (by simp)]
  cases tree.lookup front with
  | error fault => exact .inr rfl
  | ok node =>
    cases node with
    | file content =>
      right
      -- nothing is in a file, so nothing is removed from it
      show readBytes (remove (.file content) [name]) [name] = readBytes (.file content) [name]
      rw [remove_file]
    | directory refusal entries =>
      left
      show readBytes (remove (.directory refusal entries) [name]) [name] = _
      have hGone : (entries.filter fun entry => entry.1 != name).lookup name = none := by
        rw [List.lookup_eq_none_iff]
        intro entry hEntry
        have hOther := (List.mem_filter.mp hEntry).2
        rw [bne_comm]
        exact hOther
      rw [remove, readBytes, lookup, hGone]

/-- **The names in a directory are listed as before, but for the removed one.** -/
theorem names_remove {removed path : Path} (h : ¬ removed <+: path) :
    (tree.remove removed).names path =
      (tree.names path).map fun names => names.filter fun name => path ++ [name] != removed := by
  rw [names_eq_bind, names_eq_bind tree]
  by_cases hAbove : path <+: removed
  · obtain ⟨rest, rfl⟩ := hAbove
    have hRest : rest ≠ [] := by
      rintro rfl
      exact h (by simp)
    -- what is removed lies below the directory, perhaps in it
    have hEnd : ∀ name, (path ++ [name] != path ++ rest) = ([name] != rest) := by
      intro name
      rw [bne, bne]
      simp
    rw [lookup_remove_append tree path hRest]
    simp only [hEnd]
    cases tree.lookup path with
    | error fault => rfl
    | ok node =>
      cases node with
      | file content =>
        show names (remove _ rest) [] = _
        rw [remove_file]
        rfl
      | directory refusal entries =>
        obtain ⟨left, hLeft, hNames⟩ := exists_remove_directory refusal entries hRest
        show names (remove _ rest) [] = _
        rw [hLeft]
        cases refusal with
        | some fault => rfl
        | none => exact congrArg Except.ok hNames
  · -- nothing that is removed is in the directory
    have hAll : ∀ name, (path ++ [name] != removed) = true := by
      intro name
      rw [bne_iff_ne]
      rintro rfl
      exact hAbove (List.prefix_append ..)
    rw [lookup_remove_of_apart tree h hAbove]
    simp only [hAll, List.filter_true]
    cases (tree.lookup path >>= fun node => node.names []) <;> rfl

end HardwareReport.FileTree.Node
