import HardwareReport.Proofs.Answer
import Mathlib.Data.List.Nodup

/-!
# Enumerations — named entries in another order

A directory has files and directories under names, and so has a key of the registry keys. The system
may yield them in any order. Two lists of entries are told apart by nothing but their order if they
have the same names and what is under a name in one is related to what is under it in the other.

* `SameEntries` — two such lists;
* `SameEntries.lookup` — what is looked up in both is related;
* `SameEntries.of_perm` — entries that were put in another order.
-/

namespace HardwareReport

variable {α : Type}

/-- Two lists have entries of the same names, each name once, and what is under a name in one of
them is related to what is under it in the other. -/
structure SameEntries (related : α → α → Prop) (entries others : List (String × α)) : Prop where
  distinct : (entries.map Prod.fst).Nodup
  names : (entries.map Prod.fst).Perm (others.map Prod.fst)
  inside : ∀ name a b, (name, a) ∈ entries → (name, b) ∈ others → related a b

theorem mem_of_lookup_eq_some {entries : List (String × α)} {name : String} {a : α}
    (h : entries.lookup name = some a) : (name, a) ∈ entries := by
  obtain ⟨before, after, rfl, -⟩ := List.lookup_eq_some_iff.mp h
  simp

/-- Where no name stands twice, what stands under a name is found. -/
theorem lookup_eq_some_of_mem {entries : List (String × α)}
    (hDistinct : (entries.map Prod.fst).Nodup) {name : String} {a : α}
    (h : (name, a) ∈ entries) : entries.lookup name = some a := by
  cases hFound : entries.lookup name with
  | none =>
    rw [List.lookup_eq_none_iff] at hFound
    have hOther := hFound _ h
    simp at hOther
  | some b =>
    have hSame := List.inj_on_of_nodup_map hDistinct (mem_of_lookup_eq_some hFound) h rfl
    rw [(Prod.mk.inj hSame).2]

theorem lookup_eq_none_iff_notMem {entries : List (String × α)} {name : String} :
    entries.lookup name = none ↔ name ∉ entries.map Prod.fst := by
  rw [List.lookup_eq_none_iff]
  simp only [bne_iff_ne, List.mem_map, not_exists, not_and]
  exact forall₂_congr fun _ _ => ne_comm

namespace SameEntries

variable {related : α → α → Prop} {entries others : List (String × α)}

/-- A name leads to nothing in both lists, or to things that are related. -/
theorem lookup (h : SameEntries related entries others) (name : String) :
    Option.Rel related (entries.lookup name) (others.lookup name) := by
  cases hEntry : entries.lookup name with
  | none =>
    rw [lookup_eq_none_iff_notMem, h.names.mem_iff] at hEntry
    rw [lookup_eq_none_iff_notMem.mpr hEntry]
    exact .none
  | some a =>
    have hMem := mem_of_lookup_eq_some hEntry
    cases hOther : others.lookup name with
    | none =>
      rw [lookup_eq_none_iff_notMem, ← h.names.mem_iff] at hOther
      exact absurd (List.mem_map_of_mem hMem) hOther
    | some b => exact .some (h.inside name a b hMem (mem_of_lookup_eq_some hOther))

/-- Entries may be put in another order. -/
theorem of_perm (hDistinct : (entries.map Prod.fst).Nodup) (hPerm : entries.Perm others)
    (hInside : ∀ entry ∈ entries, related entry.2 entry.2) :
    SameEntries related entries others := by
  refine ⟨hDistinct, hPerm.map Prod.fst, fun name a b ha hb => ?_⟩
  have hSame := List.inj_on_of_nodup_map hDistinct ha (hPerm.mem_iff.mpr hb) rfl
  rw [← (Prod.mk.inj hSame).2]
  exact hInside _ ha

theorem single {a b : α} (h : related a b) (name : String) :
    SameEntries related [(name, a)] [(name, b)] where
  distinct := List.nodup_singleton name
  names := .refl _
  inside := by
    intro _ _ _ ha hb
    obtain ⟨-, rfl⟩ := Prod.mk.inj (List.mem_singleton.mp ha)
    obtain ⟨-, rfl⟩ := Prod.mk.inj (List.mem_singleton.mp hb)
    exact h

end SameEntries

end HardwareReport
