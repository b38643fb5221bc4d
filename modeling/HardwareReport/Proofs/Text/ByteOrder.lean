import Mathlib.Data.List.Lex
import Mathlib.Data.List.Nodup

/-!
# Text — order

Texts are compared by their characters. That is the same as comparing the bytes that stand for
them in UTF-8: the first byte of a character tells how many follow it, longer characters come after
shorter ones, and the bits of a character go to its bytes from the highest to the lowest.

* `Text.bytes` — the bytes of a text;
* `Text.bytes_lt_bytes_iff` — the order of texts is that of their bytes;
* `Text.pairwise_mergeSort`, `Text.pairwise_lt` — things put in the order of a text that each has;
* `Text.mergeSort_eq_of_perm` — that order does not depend on the order in which they come.
-/

namespace HardwareReport.Text

/-- The bytes that stand for a text in UTF-8. -/
def bytes (text : String) : List UInt8 :=
  text.toByteArray.data.toList

theorem bytes_eq_flatMap (text : String) :
    bytes text = text.toList.flatMap String.utf8EncodeChar := by
  rw [bytes, ← String.utf8Encode_toList, List.utf8Encode, List.data_toByteArray]

/-- Whatever comes after them, the bytes of two characters compare as these do. -/
theorem utf8EncodeChar_append_lt {c d : Char} (h : c < d) (s t : List UInt8) :
    String.utf8EncodeChar c ++ s < String.utf8EncodeChar d ++ t := by
  have hLess : c.val.toNat < d.val.toNat := h
  have hLast : d.val.toNat < 1114112 := by
    rcases d.valid with hLow | hHigh <;> omega
  -- the higher bits one group of six after the other
  have hTwo : ∀ n : Nat, n / 4096 = n / 64 / 64 := by
    intro n
    omega
  have hThree : ∀ n : Nat, n / 262144 = n / 64 / 64 / 64 := by
    intro n
    omega
  simp only [String.utf8EncodeChar, hTwo, hThree]
  generalize c.val.toNat = m at hLess ⊢
  generalize d.val.toNat = n at hLess hLast ⊢
  clear hTwo hThree
  -- one case for each pair of lengths
  split_ifs <;>
    simp only [List.cons_append, List.nil_append, List.cons_lt_cons_iff, UInt8.lt_iff_toNat_lt,
      ← UInt8.toNat_inj, UInt8.toNat_ofNat'] <;>
    omega

theorem flatMap_utf8EncodeChar_lt {s t : List Char} (h : s < t) :
    s.flatMap String.utf8EncodeChar < t.flatMap String.utf8EncodeChar := by
  induction h with
  | @nil d t =>
    obtain ⟨byte, rest, hBytes⟩ :=
      List.exists_cons_of_ne_nil (String.utf8EncodeChar_ne_nil (c := d))
    rw [List.flatMap_nil, List.flatMap_cons, hBytes]
    exact List.Lex.nil
  | cons h ih => exact List.append_left_lt ih
  | rel h => exact utf8EncodeChar_append_lt h _ _

/-- **The order of texts is that of their bytes.** -/
theorem bytes_lt_bytes_iff {a b : String} : bytes a < bytes b ↔ a < b := by
  rw [bytes_eq_flatMap, bytes_eq_flatMap, String.lt_iff]
  refine ⟨fun hBytes => ?_, flatMap_utf8EncodeChar_lt⟩
  by_contra hNot
  rcases List.le_iff_lt_or_eq.mp (List.not_lt.mp hNot) with hMore | hSame
  · exact List.lt_asymm hBytes (flatMap_utf8EncodeChar_lt hMore)
  · rw [hSame] at hBytes
    exact List.lt_irrefl _ hBytes

section Keys

variable {α : Type} (key : α → String)

theorem pairwise_mergeSort (list : List α) :
    (list.mergeSort fun a b => decide (key a ≤ key b)).Pairwise fun a b => key a ≤ key b := by
  have hOrdered : (list.mergeSort fun a b => decide (key a ≤ key b)).Pairwise
      fun a b => decide (key a ≤ key b) = true := by
    refine List.pairwise_mergeSort ?_ ?_ list
    · intro a b c hab hbc
      rw [decide_eq_true_eq] at hab hbc ⊢
      exact String.le_trans hab hbc
    · intro a b
      rw [Bool.or_eq_true, decide_eq_true_eq, decide_eq_true_eq]
      exact String.le_total (key a) (key b)
  exact hOrdered.imp decide_eq_true_eq.mp

/-- Things with different texts in order are strictly in order. -/
theorem pairwise_lt {list : List α} (hOrder : list.Pairwise fun a b => key a ≤ key b)
    (hDistinct : (list.map key).Nodup) : list.Pairwise fun a b => key a < key b := by
  refine (hOrder.and (List.pairwise_map.mp hDistinct)).imp fun {a b} h => ?_
  by_contra hNot
  exact h.2 (String.le_antisymm h.1 (String.not_lt.mp hNot))

/-- Texts none of which is another are put in their order. -/
theorem pairwise_lt_mergeSort {texts : List String} (h : texts.Nodup) :
    (texts.mergeSort fun a b => decide (a ≤ b)).Pairwise (· < ·) := by
  refine pairwise_lt (fun text => text) (pairwise_mergeSort (fun text => text) texts) ?_
  rw [List.map_id']
  exact (List.mergeSort_perm ..).nodup_iff.mpr h

/-- Things that their texts tell apart are put in one order, whatever order they come in. -/
theorem mergeSort_eq_of_perm {list other : List α} (h : list.Perm other)
    (hApart : ∀ ⦃a⦄, a ∈ list → ∀ ⦃b⦄, b ∈ list → key a = key b → a = b) :
    (list.mergeSort fun a b => decide (key a ≤ key b)) =
      other.mergeSort fun a b => decide (key a ≤ key b) := by
  have hSame : (list.mergeSort fun a b => decide (key a ≤ key b)).Perm
      (other.mergeSort fun a b => decide (key a ≤ key b)) :=
    (List.mergeSort_perm ..).trans (h.trans (List.mergeSort_perm ..).symm)
  refine hSame.eq_of_pairwise (fun a b ha hb hab hba => ?_) (pairwise_mergeSort key list)
    (pairwise_mergeSort key other)
  rw [List.mem_mergeSort] at ha hb
  exact hApart ha (h.mem_iff.mpr hb) (String.le_antisymm hab hba)

end Keys

end HardwareReport.Text
