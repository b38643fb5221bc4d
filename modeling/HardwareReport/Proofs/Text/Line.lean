import HardwareReport.Text.Split

/-!
# Text — words of a line and lines of a text

Words are told apart by white space, of which there may be any amount, and lines by line feeds. So a
text with a word or a line in it is read piece by piece: what stands in front of a piece and what
comes after it are read by themselves, if the piece stands for itself.

* `StandsAsLine` — a part of a text is a line of its own.

## Results

* `words_blank_append`, `words_append` — white space and a word at the start of a text;
* `exists_lines_append` — the lines around a line, which has the words that were put in it;
* `filterMap_lines` — what is read of each line by a reader to which line ends do not matter.
-/

namespace HardwareReport.Text

/-! ## Words -/

/-- The words of two texts with white space between them. -/
theorem words_append_cons {c : Char} (s t : List Char) (h : isBlank c = true) :
    words (s ++ c :: t) = words s ++ words t := by
  rw [words, pieces_append_cons s t h, List.filter_append, words, words]

/-- White space at the start of a text does not count. -/
theorem words_blank_append {gap : List Char} (h : ∀ c ∈ gap, isBlank c = true)
    (rest : List Char) : words (gap ++ rest) = words rest := by
  induction gap with
  | nil => rfl
  | cons c others ih =>
    obtain ⟨hBlank, hOthers⟩ := List.forall_mem_cons.mp h
    have hFirst := words_append_cons [] (others ++ rest) hBlank
    rw [List.cons_append]
    exact hFirst.trans (ih hOthers)

theorem pieces_eq_singleton {p : Char → Bool} {s : List Char} (h : ∀ c ∈ s, p c = false) :
    pieces p s = [s] := by
  induction s with
  | nil => rfl
  | cons c rest ih =>
    obtain ⟨hFirst, hRest⟩ := List.forall_mem_cons.mp h
    simp [pieces, hFirst, ih hRest]

/-- A word at the start of a text that goes on with white space. -/
theorem words_append {word rest : List Char} (hSome : word ≠ [])
    (hWord : ∀ c ∈ word, isBlank c = false) (hStop : ∀ c ∈ rest.head?, isBlank c = true) :
    words (word ++ rest) = word :: words rest := by
  have hAlone : words word = [word] := by
    simp [words, pieces_eq_singleton hWord, hSome]
  cases rest with
  | nil =>
    rw [List.append_nil, hAlone]
    rfl
  | cons c others =>
    have hBlank : isBlank c = true := hStop c rfl
    have hOthers : words (c :: others) = words others :=
      words_append_cons [] others hBlank
    rw [words_append_cons word others hBlank, hAlone, hOthers]
    rfl

theorem words_dropReturn (line : List Char) : words (dropReturn line) = words line := by
  rw [dropReturn]
  split
  · next hLast =>
    obtain ⟨front, rfl⟩ := List.getLast?_eq_some_iff.mp hLast
    have hReturn := words_append_cons front [] (by decide : isBlank '\r' = true)
    rw [List.dropLast_concat, hReturn]
    exact (List.append_nil _).symm
  · rfl

/-! ## Lines -/

theorem linesOfPieces_append {others : List (List Char)} (hOthers : others ≠ [])
    (pieces : List (List Char)) :
    linesOfPieces (pieces ++ others) = pieces.map dropReturn ++ linesOfPieces others := by
  induction pieces with
  | nil => rfl
  | cons piece rest ih =>
    obtain ⟨next, later, hNext⟩ := List.exists_cons_of_ne_nil
      (List.append_ne_nil_of_right_ne_nil rest hOthers)
    rw [List.cons_append, List.map_cons, List.cons_append, ← ih, hNext]
    rfl

/-- The lines of two texts with a line feed between them. -/
theorem lines_append_cons (s t : List Char) :
    lines (s ++ '\n' :: t) = (pieces (· == '\n') s).map dropReturn ++ lines t := by
  rw [lines, pieces_append_cons s t (by decide), linesOfPieces_append (pieces_ne_nil _ t)]
  rfl

/-- Whole lines at the start of a text are read by themselves. -/
theorem lines_append {before : List Char} (hBefore : ∀ c ∈ before.getLast?, c = '\n')
    (rest : List Char) : lines (before ++ rest) = lines before ++ lines rest := by
  cases hLast : before.getLast? with
  | none =>
    rw [List.getLast?_eq_none_iff.mp hLast]
    rfl
  | some c =>
    obtain ⟨front, rfl⟩ := List.getLast?_eq_some_iff.mp hLast
    obtain rfl := hBefore c hLast
    have hNone : lines [] = [] := rfl
    rw [List.append_assoc, List.singleton_append, lines_append_cons, lines_append_cons, hNone,
      List.append_nil]

/-- A part of a text is a line of its own: line feeds stand before it and after it, or it is at the
start or at the end, and there is none in it. -/
structure StandsAsLine (before line after : List Char) : Prop where
  starts : ∀ c ∈ before.getLast?, c = '\n'
  whole : '\n' ∉ line
  ends : ∀ c ∈ after.head?, c = '\n'

/-- A line of its own is read between the lines before it and those after it, with its words. -/
theorem exists_lines_append {before line after : List Char} (h : StandsAsLine before line after)
    (hSome : line ≠ []) :
    ∃ shown later, lines (before ++ (line ++ after)) = lines before ++ shown :: later ∧
      words shown = words line := by
  have hPiece : pieces (· == '\n') line = [line] := pieces_eq_singleton fun c hc => by
    rw [beq_eq_false_iff_ne]
    rintro rfl
    exact h.whole hc
  rw [lines_append h.starts]
  -- the line is the last or has an end
  cases hAfter : after with
  | nil =>
    have hAlone : lines line = [line] := by
      simp [lines, hPiece, linesOfPieces, hSome]
    refine ⟨line, [], ?_, rfl⟩
    rw [List.append_nil, hAlone]
  | cons c rest =>
    obtain rfl : c = '\n' := h.ends c (by rw [hAfter]; rfl)
    refine ⟨dropReturn line, lines rest, ?_, words_dropReturn line⟩
    rw [lines_append_cons, hPiece]
    rfl

/-! ## Readers of lines -/

/-- Lines that each end with a line feed are the pieces of a text, and nothing is the last piece. -/
theorem pieces_flatMap_concat {lines : List (List Char)} (h : ∀ line ∈ lines, '\n' ∉ line) :
    pieces (· == '\n') (lines.flatMap fun line => line ++ ['\n']) = lines ++ [[]] := by
  induction lines with
  | nil => rfl
  | cons line rest ih =>
    obtain ⟨hLine, hRest⟩ := List.forall_mem_cons.mp h
    have hAlone : pieces (· == '\n') line = [line] := pieces_eq_singleton fun c hc => by
      rw [beq_eq_false_iff_ne]
      rintro rfl
      exact hLine hc
    rw [List.flatMap_cons, List.append_assoc, List.singleton_append,
      pieces_append_cons line _ (by decide), hAlone, ih hRest]
    rfl

section Reader

variable {α : Type} {read : List Char → Option α} (hNil : read [] = none)
  (hReturn : ∀ line, read (line ++ ['\r']) = read line)
include hNil hReturn

/-- The empty piece at the end, which is no line, and a carriage return are nothing to such a
reader. -/
theorem filterMap_linesOfPieces (pieces : List (List Char)) :
    (linesOfPieces pieces).filterMap read = pieces.filterMap read := by
  have hDrop : ∀ line, read (dropReturn line) = read line := by
    intro line
    unfold dropReturn
    split
    · next hLast =>
      obtain ⟨front, rfl⟩ := List.getLast?_eq_some_iff.mp hLast
      rw [List.dropLast_concat, hReturn]
    · rfl
  induction pieces with
  | nil => rfl
  | cons line others ih =>
    cases others with
    | nil =>
      -- the last piece is a line only if something is in it
      rw [linesOfPieces]
      split
      · next hEmpty => simp [List.isEmpty_iff.mp hEmpty, hNil]
      · rfl
    | cons next rest =>
      rw [linesOfPieces, List.filterMap_cons, List.filterMap_cons, hDrop, ih]
      exact fun hNone => absurd hNone (List.cons_ne_nil next rest)

/-- **How lines end does not matter to such a reader**, nor whether the last one does. -/
theorem filterMap_lines (s : List Char) :
    (lines s).filterMap read = (pieces (· == '\n') s).filterMap read :=
  filterMap_linesOfPieces hNil hReturn _

theorem filterMap_lines_append_cons (first later : List Char) :
    (lines (first ++ '\n' :: later)).filterMap read =
      (lines first).filterMap read ++ (lines later).filterMap read := by
  rw [filterMap_lines hNil hReturn, filterMap_lines hNil hReturn, filterMap_lines hNil hReturn,
    pieces_append_cons first later (by decide), List.filterMap_append]

end Reader

end HardwareReport.Text
