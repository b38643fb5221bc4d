import HardwareReport.Text.Blank

/-!
# Text — searching and splitting

Operations on the characters of a text that find a separator or a keyword.

* `splitOnce?` — the parts before and after the first occurrence of a separator;
* `splitLast?` — the parts before and after the last occurrence of a character;
* `contains` — whether one text occurs in another;
* `lines` — the lines of a text.
-/

namespace HardwareReport.Text

/-! ## Separators -/

/-- The parts of a text before and after the first occurrence of `sep`. -/
def splitOnce? (sep : List Char) : List Char → Option (List Char × List Char)
  | [] => if sep.isEmpty then some ([], []) else none
  | c :: rest =>
    if sep.isPrefixOf (c :: rest) then some ([], (c :: rest).drop sep.length)
    else (splitOnce? sep rest).map fun parts => (c :: parts.1, parts.2)

/-- The parts of a text before and after the last occurrence of the character `sep`. -/
def splitLast? (sep : Char) (s : List Char) : Option (List Char × List Char) :=
  (splitOnce? [sep] s.reverse).map fun parts => (parts.2.reverse, parts.1.reverse)

/-- Whether `needle` occurs in a text. -/
def contains (needle : List Char) : List Char → Bool
  | [] => needle.isEmpty
  | c :: rest => needle.isPrefixOf (c :: rest) || contains needle rest

/-- What follows `start` in a text that begins with it. -/
def dropStart? (start s : List Char) : Option (List Char) :=
  if start.isPrefixOf s then some (s.drop start.length) else none

/-! ## Lines -/

/-- A line without the carriage return that a line feed was preceded by. -/
def dropReturn (line : List Char) : List Char :=
  if line.getLast? = some '\r' then line.dropLast else line

/-- The pieces between line feeds as lines: a piece that a line feed ends loses a carriage return
before it, and the last piece is a line only if something is in it. -/
def linesOfPieces : List (List Char) → List (List Char)
  | [] => []
  | [last] => if last.isEmpty then [] else [last]
  | line :: others => dropReturn line :: linesOfPieces others

/-- The lines of a text. A line ends with a line feed, or with a carriage return and a line feed;
the last line needs no end. -/
def lines (s : List Char) : List (List Char) :=
  linesOfPieces (pieces (· == '\n') s)

/-! ## Small laws -/

/-- Splitting loses nothing but the separator. -/
theorem splitOnce?_append {sep s before after : List Char}
    (hSplit : splitOnce? sep s = some (before, after)) : before ++ sep ++ after = s := by
  induction s generalizing before with
  | nil =>
    simp only [splitOnce?] at hSplit
    split at hSplit
    · next hEmpty =>
      obtain ⟨rfl, rfl⟩ := Prod.mk.inj (Option.some.inj hSplit)
      simp [List.isEmpty_iff.1 hEmpty]
    · simp at hSplit
  | cons c rest ih =>
    simp only [splitOnce?] at hSplit
    split at hSplit
    · next hStart =>
      obtain ⟨rfl, rfl⟩ := Prod.mk.inj (Option.some.inj hSplit)
      obtain ⟨tail, hTail⟩ := List.isPrefixOf_iff_prefix.1 hStart
      rw [← hTail]
      simp
    · obtain ⟨⟨front, back⟩, hParts, hEq⟩ := Option.map_eq_some_iff.1 hSplit
      obtain ⟨rfl, rfl⟩ := Prod.mk.inj hEq
      simpa using ih hParts

/-- The parts around the first occurrence of a separator are told by where they meet: the separator
does not end earlier. -/
theorem splitOnce?_eq_some_iff {sep s before after : List Char} (hSep : sep ≠ []) :
    splitOnce? sep s = some (before, after) ↔
      s = before ++ sep ++ after ∧ ¬ sep <:+: before ++ sep.dropLast := by
  have hShorter : sep.dropLast.length < sep.length := by
    have hPositive := List.length_pos_iff.mpr hSep
    rw [List.length_dropLast]
    omega
  induction s generalizing before with
  | nil => simp [splitOnce?, hSep]
  | cons c rest ih =>
    by_cases hStart : sep <+: c :: rest
    · rw [splitOnce?, if_pos (List.isPrefixOf_iff_prefix.mpr hStart)]
      constructor
      · intro h
        obtain ⟨rfl, rfl⟩ := Prod.mk.inj (Option.some.inj h)
        refine ⟨(List.prefix_iff_eq_append.mp hStart).symm, fun hInfix => ?_⟩
        have hLength := hInfix.length_le
        rw [List.nil_append] at hLength
        omega
      · rintro ⟨hParts, hNot⟩
        cases before with
        | nil => rw [hParts, List.nil_append, List.drop_left]
        | cons first front =>
          -- the separator at the start would be an earlier one
          refine absurd (List.IsPrefix.isInfix ?_) hNot
          have hWhole : first :: front ++ sep.dropLast <+: c :: rest := by
            rw [hParts]
            exact ((List.prefix_append_right_inj _).mpr (List.dropLast_prefix sep)).trans
              (List.prefix_append _ after)
          refine List.prefix_of_prefix_length_le hStart hWhole ?_
          rw [List.length_append, List.length_cons, List.length_dropLast]
          omega
    · rw [splitOnce?, if_neg fun h => hStart (List.isPrefixOf_iff_prefix.mp h),
        Option.map_eq_some_iff]
      constructor
      · rintro ⟨⟨front, back⟩, hRest, hParts⟩
        obtain ⟨rfl, rfl⟩ := Prod.mk.inj hParts
        obtain ⟨rfl, hNot⟩ := ih.mp hRest
        refine ⟨rfl, fun hInfix => ?_⟩
        rw [List.cons_append, List.infix_cons_iff] at hInfix
        refine hInfix.elim (fun hPrefix => hStart (hPrefix.trans ?_)) hNot
        rw [List.cons_prefix_cons, List.append_assoc, List.prefix_append_right_inj]
        exact ⟨rfl, (List.dropLast_prefix sep).trans (List.prefix_append sep _)⟩
      · rintro ⟨hParts, hNot⟩
        cases before with
        | nil => exact absurd ⟨after, hParts.symm⟩ hStart
        | cons first front =>
          obtain ⟨rfl, hRest⟩ := List.cons.inj hParts
          rw [List.cons_append, List.infix_cons_iff, not_or] at hNot
          exact ⟨(front, after), ih.mpr ⟨hRest, hNot.2⟩, rfl⟩

/-- The parts around the first occurrence of a character are told by where they meet: there is no
such character in the first part. -/
theorem splitOnce?_singleton_eq_some_iff {sep : Char} {s before after : List Char} :
    splitOnce? [sep] s = some (before, after) ↔ sep ∉ before ∧ s = before ++ sep :: after := by
  have hOccurs : [sep] <:+: before ↔ sep ∈ before := by
    refine ⟨fun h => h.subset (List.mem_singleton_self sep), fun h => ?_⟩
    obtain ⟨front, back, rfl⟩ := List.append_of_mem h
    exact ⟨front, back, by rw [List.append_assoc, List.singleton_append]⟩
  rw [splitOnce?_eq_some_iff (List.cons_ne_nil sep []), List.dropLast_singleton, List.append_nil,
    List.append_assoc, List.singleton_append, hOccurs, and_comm]

theorem splitOnce?_eq_none_iff {sep s : List Char} : splitOnce? sep s = none ↔ ¬ sep <:+: s := by
  induction s with
  | nil => cases sep <;> simp [splitOnce?]
  | cons c rest ih =>
    rw [splitOnce?, List.infix_cons_iff, ← List.isPrefixOf_iff_prefix, not_or, ← ih]
    by_cases hStart : sep.isPrefixOf (c :: rest) = true <;> simp [hStart]

/-- A character that is not in the separator changes nothing when it is added at the end. -/
theorem splitOnce?_concat {sep : List Char} (hSep : sep ≠ []) {c : Char} (hNot : c ∉ sep)
    (s : List Char) :
    splitOnce? sep (s ++ [c]) =
      (splitOnce? sep s).map fun parts => (parts.1, parts.2 ++ [c]) := by
  cases hSplit : splitOnce? sep s with
  | none =>
    rw [splitOnce?_eq_none_iff] at hSplit
    rw [Option.map_none, splitOnce?_eq_none_iff, List.infix_concat_iff, List.suffix_concat_iff]
    -- a separator that reaches to the end would end in the character
    rintro ((hNil | ⟨front, rfl, -⟩) | hInfix)
    · exact hSep hNil
    · exact hNot (by simp)
    · exact hSplit hInfix
  | some parts =>
    obtain ⟨before, after⟩ := parts
    obtain ⟨rfl, hFirst⟩ := (splitOnce?_eq_some_iff hSep).mp hSplit
    exact (splitOnce?_eq_some_iff hSep).mpr ⟨List.append_assoc .., hFirst⟩

/-- What follows any occurrence of a separator stands at the end of what follows the first one. -/
theorem suffix_of_splitOnce? {sep s before after : List Char}
    (hSplit : splitOnce? sep s = some (before, after)) {front back : List Char}
    (hParts : s = front ++ sep ++ back) : back <:+ after := by
  induction s generalizing before front with
  | nil =>
    have hBack : back = [] := (List.append_eq_nil_iff.mp hParts.symm).2
    rw [hBack]
    exact List.nil_suffix
  | cons c rest ih =>
    rw [splitOnce?] at hSplit
    split at hSplit
    · -- the first occurrence is at the start, so no other one is followed by more
      obtain ⟨-, rfl⟩ := Prod.mk.inj (Option.some.inj hSplit)
      refine List.suffix_of_suffix_length_le ⟨_, hParts.symm⟩ (List.drop_suffix _ _) ?_
      rw [hParts, List.length_drop]
      simp only [List.length_append]
      omega
    · next hStart =>
      obtain ⟨⟨others, last⟩, hRest, hEq⟩ := Option.map_eq_some_iff.mp hSplit
      obtain ⟨-, rfl⟩ := Prod.mk.inj hEq
      cases front with
      | nil => exact absurd (List.isPrefixOf_iff_prefix.mpr ⟨back, hParts.symm⟩) hStart
      | cons first front => exact ih hRest (List.cons.inj hParts).2

/-- The parts around the last occurrence of a character are told by where they meet. -/
theorem splitLast?_eq_some_iff {sep : Char} {s before after : List Char} :
    splitLast? sep s = some (before, after) ↔ sep ∉ after ∧ s = before ++ sep :: after := by
  have hFlip : splitLast? sep s = some (before, after) ↔
      splitOnce? [sep] s.reverse = some (after.reverse, before.reverse) := by
    rw [splitLast?, Option.map_eq_some_iff]
    constructor
    · rintro ⟨parts, hSplit, hParts⟩
      obtain ⟨rfl, rfl⟩ := Prod.mk.inj hParts
      simpa using hSplit
    · intro hSplit
      exact ⟨_, hSplit, by simp⟩
  rw [hFlip, splitOnce?_singleton_eq_some_iff, List.mem_reverse, ← List.reverse_inj]
  simp

/-- What follows a start is found after it. -/
theorem dropStart?_append (start s : List Char) : dropStart? start (start ++ s) = some s := by
  rw [dropStart?, if_pos (List.isPrefixOf_iff_prefix.mpr (List.prefix_append start s)),
    List.drop_left]

theorem dropStart?_eq_some_iff {start s rest : List Char} :
    dropStart? start s = some rest ↔ s = start ++ rest := by
  constructor
  · intro h
    rw [dropStart?] at h
    split at h
    · next hStart =>
      obtain rfl := Option.some.inj h
      exact (List.prefix_iff_eq_append.mp (List.isPrefixOf_iff_prefix.mp hStart)).symm
    · exact absurd h (by simp)
  · rintro rfl
    exact dropStart?_append start rest

theorem dropStart?_eq_none {start s : List Char} (h : ¬ start <+: s) :
    dropStart? start s = none := by
  rw [dropStart?, if_neg fun hStart => h (List.isPrefixOf_iff_prefix.mp hStart)]

/-- A text that begins another does not reach to a character that it does not hold. -/
theorem prefix_of_prefix_append_cons {start s after : List Char} {c : Char}
    (hStart : start <+: s ++ c :: after) (hNot : c ∉ start) : start <+: s := by
  induction start generalizing s with
  | nil => exact List.nil_prefix
  | cons first rest ih =>
    rw [List.mem_cons, not_or] at hNot
    cases s with
    | nil => exact absurd (List.cons_prefix_cons.mp hStart).1.symm hNot.1
    | cons d others =>
      obtain ⟨rfl, hRest⟩ := List.cons_prefix_cons.mp hStart
      exact List.cons_prefix_cons.mpr ⟨rfl, ih hRest hNot.2⟩

/-- A text contains exactly the texts that are infixes of it. -/
theorem contains_iff_isInfix {needle s : List Char} :
    contains needle s = true ↔ needle <:+: s := by
  induction s with
  | nil => simp [contains, List.isEmpty_iff]
  | cons c rest ih => simp [contains, List.infix_cons_iff, ih]

end HardwareReport.Text
