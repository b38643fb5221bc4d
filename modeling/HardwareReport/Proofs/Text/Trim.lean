import HardwareReport.Text.Blank
import Mathlib.Data.List.TakeWhile

/-!
# Text — what trimming leaves

A trimmed text is told by the two ends that trimming takes away and by what it may not begin or end
with.

* `Trims` — a text without the members of a class at its ends, which is what trimming leaves and
  nothing else (`exists_trims`, `Trims.trimEnds_eq`);
* `trimEnd_dropWhile` — the two ends are trimmed in any order, be it with two classes.
-/

namespace HardwareReport.Text

variable {p : Char → Bool} {s before body after : List Char}

/-- A text is another one between members of a class, with which that neither begins nor ends. -/
structure Trims (p : Char → Bool) (s before body after : List Char) : Prop where
  parts : s = before ++ (body ++ after)
  front : ∀ c ∈ before, p c = true
  back : ∀ c ∈ after, p c = true
  starts : ∀ c ∈ body.head?, p c = false
  ends : ∀ c ∈ body.getLast?, p c = false

/-- Ends of a class around a text that neither begins nor ends with it are trimmed. -/
theorem Trims.trimEnds_eq (h : Trims p s before body after) : trimEnds p s = body := by
  have hBack : ∀ c ∈ after.reverse, p c = true := fun c hc => h.back c (List.mem_reverse.mp hc)
  rw [trimEnds, trimEnd, h.parts]
  cases hBody : body with
  | nil =>
    -- then all of the text is taken away from its start
    have hAll : ∀ c ∈ before ++ ([] ++ after), p c = true := fun c hc =>
      (List.mem_append.mp hc).elim (h.front c) (h.back c)
    rw [List.dropWhile_eq_nil_iff.mpr hAll]
    rfl
  | cons first rest =>
    have hStart : ∀ c ∈ (body ++ after).head?, p c = false := by
      rw [hBody]
      exact fun c hc => h.starts c (hBody ▸ hc)
    have hEnd : ∀ c ∈ body.reverse.head?, p c = false := by
      rw [List.head?_reverse]
      exact h.ends
    rw [← hBody, dropWhile_append_of_stop h.front hStart, List.reverse_append,
      dropWhile_append_of_stop hBack hEnd, List.reverse_reverse]

theorem head?_dropWhile_eq_false : ∀ c ∈ (s.dropWhile p).head?, p c = false := by
  intro c hc
  have hNot := List.head?_dropWhile_not p s
  rw [Option.mem_def.mp hc] at hNot
  exact hNot

/-- What trimming leaves neither begins nor ends with a member of the class. -/
theorem exists_trims (p : Char → Bool) (s : List Char) :
    ∃ before after, Trims p s before (trimEnds p s) after := by
  have hFront : ∀ c ∈ s.takeWhile p, p c = true := fun c hc => List.mem_takeWhile_imp hc
  have hBack : ∀ c ∈ ((s.dropWhile p).reverse.takeWhile p).reverse, p c = true := fun c hc =>
    List.mem_takeWhile_imp (List.mem_reverse.mp hc)
  have hRest : trimEnds p s ++ ((s.dropWhile p).reverse.takeWhile p).reverse = s.dropWhile p := by
    rw [trimEnds, trimEnd, ← List.reverse_append, List.takeWhile_append_dropWhile,
      List.reverse_reverse]
  refine ⟨_, _, ?_, hFront, hBack, ?_, ?_⟩
  · show s = s.takeWhile p ++ (trimEnds p s ++ ((s.dropWhile p).reverse.takeWhile p).reverse)
    rw [hRest, List.takeWhile_append_dropWhile]
  · -- the first character left is the first of the text without its start
    intro c hc
    refine head?_dropWhile_eq_false c ?_ (s := s)
    rw [← hRest, List.head?_append, Option.mem_def.mp hc]
    rfl
  · intro c hc
    rw [trimEnds, trimEnd, List.getLast?_reverse] at hc
    exact head?_dropWhile_eq_false c hc

/-! ## One end and the other -/

/-- The end of a text is trimmed before what stands in front of it. -/
theorem trimEnd_cons (p : Char → Bool) (c : Char) (s : List Char) :
    trimEnd p (c :: s) = if (trimEnd p s).isEmpty && p c then [] else c :: trimEnd p s := by
  rw [trimEnd, List.reverse_cons, List.dropWhile_append, trimEnd, List.isEmpty_reverse]
  cases hNone : (s.reverse.dropWhile p).isEmpty with
  | false => simp
  | true =>
    rw [List.isEmpty_iff.mp hNone]
    cases hc : p c <;> simp [hc]

/-- What is taken away at one end does not meet what is taken away at the other. -/
theorem trimEnd_dropWhile (p q : Char → Bool) (s : List Char) :
    trimEnd q (s.dropWhile p) = (trimEnd q s).dropWhile p := by
  induction s with
  | nil => rfl
  | cons c rest ih =>
    rw [trimEnd_cons]
    by_cases hc : p c = true
    · -- the first character goes at the start, unless everything goes at the end
      rw [List.dropWhile_cons_of_pos hc, ih]
      split
      · next hNone => rw [List.isEmpty_iff.mp (Bool.and_eq_true_iff.mp hNone).1, List.dropWhile_nil]
      · rw [List.dropWhile_cons_of_pos hc]
    · -- nothing goes at the start
      rw [List.dropWhile_cons_of_neg hc, trimEnd_cons]
      split
      · rfl
      · rw [List.dropWhile_cons_of_neg hc]

end HardwareReport.Text
