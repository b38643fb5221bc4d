import HardwareReport.Text.CodeRange

/-!
# Text — white space, trimming and words

White space is the Unicode property `White_Space`: it has the no-break space and the ideographic
space in it, and has neither the zero-width space nor the information separators.

* `isBlank` — the class;
* `trimEnds` — a text without the members of a class at its two ends;
* `words` — the longest runs of a text that hold no white space.
-/

namespace HardwareReport.Text

/-! ## The class -/

/-- The code points of the property `White_Space`. -/
def blankRuns : List CodeRange :=
  [⟨0x9, 0xD⟩, ⟨0x20, 0x20⟩, ⟨0x85, 0x85⟩, ⟨0xA0, 0xA0⟩, ⟨0x1680, 0x1680⟩, ⟨0x2000, 0x200A⟩,
   ⟨0x2028, 0x2029⟩, ⟨0x202F, 0x202F⟩, ⟨0x205F, 0x205F⟩, ⟨0x3000, 0x3000⟩]

/-- A white-space character. -/
def isBlank (c : Char) : Bool :=
  blankRuns.any (·.contains c)

/-! ## Trimming -/

/-- `s` without the characters of the class `p` at its end. -/
def trimEnd (p : Char → Bool) (s : List Char) : List Char :=
  (s.reverse.dropWhile p).reverse

/-- `s` without the characters of the class `p` at its two ends. -/
def trimEnds (p : Char → Bool) (s : List Char) : List Char :=
  trimEnd p (s.dropWhile p)

/-- Characters without white space at their two ends, as a text. -/
def trimmed (s : List Char) : String :=
  String.ofList (trimEnds isBlank s)

/-- A text without white space at its two ends. -/
def trim (s : String) : String :=
  trimmed s.toList

theorem dropWhile_concat {p : Char → Bool} {c : Char} (s : List Char) (hEnd : p c = false) :
    (s ++ [c]).dropWhile p = s.dropWhile p ++ [c] := by
  induction s with
  | nil => simp [hEnd]
  | cons d rest ih =>
    rw [List.cons_append, List.dropWhile_cons, List.dropWhile_cons]
    split
    · exact ih
    · rfl

/-- A text that does not end in a member of a class is trimmed at its start only. -/
theorem trimEnds_eq_dropWhile {p : Char → Bool} {s : List Char} {c : Char}
    (hLast : s.getLast? = some c) (hEnd : p c = false) : trimEnds p s = s.dropWhile p := by
  obtain ⟨front, rfl⟩ := List.getLast?_eq_some_iff.mp hLast
  rw [trimEnds, dropWhile_concat front hEnd, trimEnd, List.reverse_append, List.reverse_singleton,
    List.singleton_append, List.dropWhile_cons_of_neg (by simp [hEnd]), List.reverse_cons,
    List.reverse_reverse]

/-- A text that neither begins nor ends with a member of a class is not trimmed. -/
theorem trimEnds_eq_self {p : Char → Bool} {s : List Char} (hStart : ∀ c ∈ s.head?, p c = false)
    (hEnd : ∀ c ∈ s.getLast?, p c = false) : trimEnds p s = s := by
  cases hLast : s.getLast? with
  | none =>
    rw [List.getLast?_eq_none_iff.mp hLast]
    rfl
  | some last =>
    rw [trimEnds_eq_dropWhile hLast (hEnd last hLast)]
    cases s with
    | nil => rfl
    | cons c rest => rw [List.dropWhile_cons_of_neg (by simp [hStart c rfl])]

/-- Trimming begins with what stands in front. -/
theorem trimEnds_cons_of_pos {p : Char → Bool} {c : Char} (s : List Char) (hStart : p c = true) :
    trimEnds p (c :: s) = trimEnds p s := by
  rw [trimEnds, List.dropWhile_cons_of_pos hStart, trimEnds]

/-- What is trimmed may stand at the end or not. -/
theorem trimEnds_concat_of_pos {p : Char → Bool} {c : Char} (s : List Char) (hEnd : p c = true) :
    trimEnds p (s ++ [c]) = trimEnds p s := by
  rw [trimEnds, trimEnds, List.dropWhile_append]
  split
  · next hNil =>
    rw [List.isEmpty_iff.mp hNil, List.dropWhile_cons_of_pos hEnd, List.dropWhile_nil]
  · rw [trimEnd, trimEnd, List.reverse_concat, List.dropWhile_cons_of_pos hEnd]

/-! ## Runs -/

section Run

variable {α : Type} {p : α → Bool} {run rest : List α}

/-- A run of members of a class, be it characters or anything else, ends where something else
follows. -/
theorem takeWhile_append_of_stop (hRun : ∀ c ∈ run, p c = true)
    (hStop : ∀ c ∈ rest.head?, p c = false) : (run ++ rest).takeWhile p = run := by
  rw [List.takeWhile_append_of_pos hRun]
  cases rest with
  | nil => rw [List.takeWhile_nil, List.append_nil]
  | cons c others =>
    have hNot : ¬ p c = true := by simp [hStop c rfl]
    rw [List.takeWhile_cons_of_neg hNot, List.append_nil]

theorem dropWhile_append_of_stop (hRun : ∀ c ∈ run, p c = true)
    (hStop : ∀ c ∈ rest.head?, p c = false) : (run ++ rest).dropWhile p = rest := by
  rw [List.dropWhile_append_of_pos hRun]
  cases rest with
  | nil => rfl
  | cons c others =>
    have hNot : ¬ p c = true := by simp [hStop c rfl]
    rw [List.dropWhile_cons_of_neg hNot]

end Run

/-! ## Words -/

/-- The pieces of a text between the characters of the class `p`, empty ones included. -/
def pieces (p : Char → Bool) : List Char → List (List Char)
  | [] => [[]]
  | c :: rest =>
    if p c then [] :: pieces p rest
    else match pieces p rest with
      | [] => [[c]]
      | piece :: others => (c :: piece) :: others

/-- The words of a text: its longest non-empty runs without white space. -/
def words (s : List Char) : List (List Char) :=
  (pieces isBlank s).filter (!·.isEmpty)

/-- A text has at least one piece. -/
theorem pieces_ne_nil (p : Char → Bool) (s : List Char) : pieces p s ≠ [] := by
  cases s with
  | nil => simp [pieces]
  | cons c rest =>
    simp only [pieces]
    split
    · simp
    · split <;> simp

/-- No piece holds a character of the class it was cut at. -/
theorem eq_false_of_mem_pieces {p : Char → Bool} {s piece : List Char} {c : Char}
    (hPiece : piece ∈ pieces p s) (hMem : c ∈ piece) : p c = false := by
  induction s generalizing piece with
  | nil =>
    simp only [pieces, List.mem_singleton] at hPiece
    simp [hPiece] at hMem
  | cons d rest ih =>
    simp only [pieces] at hPiece
    -- a separator starts a new piece, any other character goes in front of the first
    split at hPiece
    · rcases List.mem_cons.1 hPiece with rfl | hRest
      · simp at hMem
      · exact ih hRest hMem
    · next hSep =>
      split at hPiece
      · next hNil => exact absurd hNil (pieces_ne_nil p rest)
      · next first others hEq =>
        rcases List.mem_cons.1 hPiece with rfl | hOthers
        · rcases List.mem_cons.1 hMem with rfl | hFirst
          · simpa using hSep
          · exact ih (by simp [hEq]) hFirst
        · exact ih (by simp [hEq, hOthers]) hMem

/-- The pieces of two texts with a character between them at which they are cut. -/
theorem pieces_append_cons {p : Char → Bool} {c : Char} (s t : List Char) (hSep : p c = true) :
    pieces p (s ++ c :: t) = pieces p s ++ pieces p t := by
  induction s with
  | nil => simp [pieces, hSep]
  | cons d rest ih =>
    rw [List.cons_append, pieces, pieces, ih]
    cases hPieces : pieces p rest with
    | nil => exact absurd hPieces (pieces_ne_nil p rest)
    | cons piece others => split <;> rfl

/-- The pieces of a text are made of its characters. -/
theorem mem_of_mem_pieces {p : Char → Bool} {s piece : List Char} {c : Char}
    (hPiece : piece ∈ pieces p s) (hMem : c ∈ piece) : c ∈ s := by
  induction s generalizing piece with
  | nil =>
    rw [pieces, List.mem_singleton] at hPiece
    exact hPiece ▸ hMem
  | cons d rest ih =>
    rw [pieces] at hPiece
    -- a separator starts a new piece, any other character goes in front of the first
    split at hPiece
    · rcases List.mem_cons.mp hPiece with rfl | hRest
      · exact absurd hMem (by simp)
      · exact List.mem_cons_of_mem d (ih hRest hMem)
    · cases hPieces : pieces p rest with
      | nil => exact absurd hPieces (pieces_ne_nil p rest)
      | cons first others =>
        rw [hPieces] at hPiece ih
        rcases List.mem_cons.mp hPiece with rfl | hOthers
        · rcases List.mem_cons.mp hMem with rfl | hFirst
          · exact List.mem_cons_self ..
          · exact List.mem_cons_of_mem d (ih (List.mem_cons_self ..) hFirst)
        · exact List.mem_cons_of_mem d (ih (List.mem_cons_of_mem _ hOthers) hMem)

end HardwareReport.Text
