import HardwareReport.Linux.Attribute
import HardwareReport.Proofs.Files.Removal
import HardwareReport.Proofs.Text.ByteOrder

/-!
# Linux — listings

The names in a directory are listed in their order, which is that of their bytes. A name that is
removed from the directory is missing from the list, and the others stay as they are.
-/

namespace HardwareReport.Linux

open FileTree

/-! ## Directories -/

/-- Where the kernel shows the connectors of displays. -/
def connectorDirectory : Path := ["sys", "class", "drm"]

/-- Where the kernel shows the monitoring chips with their fans. -/
def chipDirectory : Path := ["sys", "class", "hwmon"]

/-- Where the kernel lists the sound cards. -/
def soundDirectory : Path := ["proc", "asound"]

/-- The directory of a sound card. -/
def cardDirectory (index : UInt32) : Path :=
  soundDirectory ++ ["card" ++ toString index.toNat]

/-! ## Order -/

/-- The names that are listed in order are those in the directory. -/
theorem of_sortedNames_eq_ok {tree : Node} {root : Path} {names : List String}
    (h : sortedNames tree root = .ok names) :
    names.Perm ((tree.names root).toOption.getD []) ∧ names.Pairwise (· ≤ ·) := by
  rw [sortedNames] at h
  cases hNames : tree.names root with
  | error fault =>
    rw [hNames] at h
    -- a directory that is missing counts as empty, another failure is one
    cases hMissing : fault.isNotFound with
    | true =>
      simp only [hMissing, if_true] at h
      obtain rfl := Except.ok.inj h
      exact ⟨.nil, .nil⟩
    | false =>
      simp only [hMissing] at h
      exact absurd h (by simp)
  | ok listed =>
    rw [hNames] at h
    obtain rfl := Except.ok.inj h
    exact ⟨List.mergeSort_perm .., Text.pairwise_mergeSort (fun name => name) listed⟩

theorem filter_mergeSort (names : List String) (keep : String → Bool) :
    (names.mergeSort fun a b => a ≤ b).filter keep =
      (names.filter keep).mergeSort fun a b => a ≤ b := by
  have hSame : ((names.mergeSort fun a b => a ≤ b).filter keep).Perm
      ((names.filter keep).mergeSort fun a b => a ≤ b) :=
    ((List.mergeSort_perm ..).filter keep).trans (List.mergeSort_perm ..).symm
  have hOrder := (Text.pairwise_mergeSort (fun name => name) names).filter keep
  exact hSame.eq_of_pairwise (fun a b _ _ hab hba => String.le_antisymm hab hba) hOrder
    (Text.pairwise_mergeSort (fun name => name) (names.filter keep))

/-! ## Removals -/

variable (tree : Node) {removed path : Path}

/-- **A removed name is missing from the list of its directory**, and no other name from any. -/
theorem sortedNames_remove (h : ¬ removed <+: path) :
    sortedNames (tree.remove removed) path =
      (sortedNames tree path).map fun names =>
        names.filter fun name => path ++ [name] != removed := by
  rw [sortedNames, sortedNames, Node.names_remove tree h]
  cases tree.names path with
  | ok names => exact congrArg Except.ok (filter_mergeSort names _).symm
  | error fault =>
    simp only [Except.map]
    split <;> rfl

/-- Nothing changes in the lists of other directories. -/
theorem sortedNames_remove_eq (h : ∀ name, ¬ removed <+: path ++ [name]) :
    sortedNames (tree.remove removed) path = sortedNames tree path := by
  have hPath : ¬ removed <+: path := fun hPrefix =>
    h "" (hPrefix.trans (List.prefix_append path [""]))
  have hKept : ∀ name, (path ++ [name] != removed) = true := by
    intro name
    rw [bne_iff_ne]
    rintro rfl
    exact h name (List.prefix_refl _)
  rw [sortedNames_remove tree hPath]
  simp only [hKept, List.filter_true]
  cases sortedNames tree path <;> rfl

end HardwareReport.Linux
