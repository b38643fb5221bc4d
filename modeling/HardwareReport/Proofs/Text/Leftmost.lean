import HardwareReport.Text.Split

/-!
# Text — the leftmost place

A search from the left tries to read something at every place of a text, and stops at the first
place where that succeeds. What it finds is told by the places alone: it is read at the leftmost
place where anything can be read, however many characters the attempts before have looked at.

* `IsFirstPlace` — a place of a text at which something begins, with no such place before it;
* `SearchesFromLeft` — a search that tries one place after the other.

## Results

* `SearchesFromLeft.eq_some_iff` — what a search finds;
* `SearchesFromLeft.isSome_iff` — when it finds anything.
-/

namespace HardwareReport.Text

/-- Something begins between two parts of a text, and it begins at no place before. -/
structure IsFirstPlace (begins : List Char → Prop) (before rest : List Char) : Prop where
  here : begins rest
  first : ∀ front back, before ++ rest = front ++ back → begins back →
    before.length ≤ front.length

section FirstPlace

variable {begins : List Char → Prop} {before rest : List Char}

/-- No place is before the start of a text. -/
theorem isFirstPlace_nil_iff : IsFirstPlace begins [] rest ↔ begins rest :=
  ⟨fun h => h.here, fun h => ⟨h, fun front _ _ _ => Nat.zero_le front.length⟩⟩

/-- The first place is after a character if nothing begins at it and the place is first in the rest.
-/
theorem isFirstPlace_cons_iff {c : Char} :
    IsFirstPlace begins (c :: before) rest ↔
      ¬ begins (c :: (before ++ rest)) ∧ IsFirstPlace begins before rest := by
  constructor
  · intro h
    constructor
    · intro hStart
      have hLength := h.first [] _ rfl hStart
      exact absurd hLength (by simp)
    · refine ⟨h.here, fun front back hParts hBegins => ?_⟩
      have hLength := h.first (c :: front) back (congrArg (c :: ·) hParts) hBegins
      simpa using hLength
  · rintro ⟨hStart, h⟩
    refine ⟨h.here, fun front back hParts hBegins => ?_⟩
    -- an earlier place is the first character or one in the rest
    cases front with
    | nil =>
      obtain rfl : c :: (before ++ rest) = back := hParts
      exact absurd hBegins hStart
    | cons d front =>
      have hLength := h.first front back (List.cons.inj hParts).2 hBegins
      simpa using hLength

end FirstPlace

/-- A search that tries a text as a whole, and then what follows its first character. -/
structure SearchesFromLeft {α : Type} (search readAt : List Char → Option α) : Prop where
  nil : search [] = readAt []
  cons : ∀ c rest, search (c :: rest) = (readAt (c :: rest)).or (search rest)

namespace SearchesFromLeft

variable {α : Type} {search readAt : List Char → Option α} (h : SearchesFromLeft search readAt)
include h

/-- **A search from the left finds what is read at the leftmost place where anything is read.** -/
theorem eq_some_iff {s : List Char} {found : α} :
    search s = some found ↔
      ∃ before rest, s = before ++ rest ∧ readAt rest = some found ∧
        IsFirstPlace (fun back => (readAt back).isSome) before rest := by
  induction s with
  | nil =>
    rw [h.nil]
    constructor
    · intro hRead
      exact ⟨[], [], rfl, hRead, isFirstPlace_nil_iff.mpr (Option.isSome_of_eq_some hRead)⟩
    · rintro ⟨before, rest, hParts, hRead, -⟩
      rw [(List.append_eq_nil_iff.mp hParts.symm).2] at hRead
      exact hRead
  | cons c tail ih =>
    rw [h.cons]
    cases hHere : readAt (c :: tail) with
    | some other =>
      -- something begins here, so no place further back is the first
      have hBegins : (readAt (c :: tail)).isSome := Option.isSome_of_eq_some hHere
      rw [Option.some_or]
      constructor
      · intro hFound
        exact ⟨[], c :: tail, rfl, hHere.trans hFound, isFirstPlace_nil_iff.mpr hBegins⟩
      · rintro ⟨before, rest, hParts, hRead, hFirst⟩
        cases before with
        | nil =>
          obtain rfl : c :: tail = rest := hParts
          exact hHere.symm.trans hRead
        | cons d before =>
          rw [hParts] at hBegins
          exact absurd hBegins (isFirstPlace_cons_iff.mp hFirst).1
    | none =>
      -- nothing begins here, so the first place is the one in the tail
      have hNot : ¬ (readAt (c :: tail)).isSome := by simp [hHere]
      rw [Option.none_or, ih]
      constructor
      · rintro ⟨before, rest, rfl, hRead, hFirst⟩
        exact ⟨c :: before, rest, rfl, hRead, isFirstPlace_cons_iff.mpr ⟨hNot, hFirst⟩⟩
      · rintro ⟨before, rest, hParts, hRead, hFirst⟩
        cases before with
        | nil =>
          obtain rfl : c :: tail = rest := hParts
          exact absurd hFirst.here hNot
        | cons d before =>
          exact ⟨before, rest, (List.cons.inj hParts).2, hRead,
            (isFirstPlace_cons_iff.mp hFirst).2⟩

/-- A search from the left finds something if anything is read at some place. -/
theorem isSome_iff {s : List Char} :
    (search s).isSome ↔ ∃ before rest, s = before ++ rest ∧ (readAt rest).isSome := by
  constructor
  · intro hSome
    obtain ⟨found, hFound⟩ := Option.isSome_iff_exists.mp hSome
    obtain ⟨before, rest, hParts, -, hFirst⟩ := h.eq_some_iff.mp hFound
    exact ⟨before, rest, hParts, hFirst.here⟩
  · rintro ⟨before, rest, rfl, hRead⟩
    -- something may be read earlier, so nothing is said of what is found
    induction before with
    | nil =>
      cases rest with
      | nil =>
        rw [List.nil_append, h.nil]
        exact hRead
      | cons c tail =>
        rw [List.nil_append, h.cons, Option.isSome_or, hRead, Bool.true_or]
    | cons c front ih =>
      rw [List.cons_append, h.cons, Option.isSome_or, ih, Bool.or_true]

end SearchesFromLeft

end HardwareReport.Text
