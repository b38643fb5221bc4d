import HardwareReport.Processor.Identifier

/-!
# Processor — reading identifiers back

An identifier is written with the three numbers of a processor between keywords, and read by looking
for these keywords from the left. The numbers are read back as they were written if they are words,
whatever other characters they are made of: a number may be `Family`, and may hold commas anywhere
but at the end of the stepping, where one would be taken for the comma in front of a vendor.

What stands before the first keyword does not matter as long as the keyword is not in it
(`partsIn?_append`).

* `IsWord`, `Parts.Legible` — the numbers that can be read back;
* `Parts.text` — the part of an identifier that gives the numbers.

Main result: `partsIn?_identifier` — the numbers of an identifier with any first words.
-/

namespace HardwareReport.Identifier

/-! ## Legible numbers -/

/-- A text that is one word. -/
structure IsWord (s : String) : Prop where
  ne_nil : s.toList ≠ []
  isBlank_eq_false : ∀ c ∈ s.toList, Text.isBlank c = false

/-- Numbers that can be read back: words, of which the last does not end in a comma. -/
structure Parts.Legible (parts : Parts) : Prop where
  family : IsWord parts.family
  model : IsWord parts.model
  stepping : IsWord parts.stepping
  stepping_end : parts.stepping.toList.getLast? ≠ some ','

instance (s : String) : Decidable (IsWord s) :=
  decidable_of_iff (s.toList ≠ [] ∧ s.toList.any Text.isBlank = false)
    ⟨fun h => ⟨h.1, by simpa using h.2⟩, fun h => ⟨h.1, by simpa using h.2⟩⟩

instance (parts : Parts) : Decidable parts.Legible :=
  decidable_of_iff ((IsWord parts.family ∧ IsWord parts.model ∧ IsWord parts.stepping) ∧
      parts.stepping.toList.getLast? ≠ some ',')
    ⟨fun h => ⟨h.1.1, h.1.2.1, h.1.2.2, h.2⟩,
      fun h => ⟨⟨h.family, h.model, h.stepping⟩, h.stepping_end⟩⟩

/-- The part of an identifier that gives the numbers. -/
def Parts.text (parts : Parts) : String :=
  "Family " ++ (parts.family ++ (" Model " ++ (parts.model ++ (" Stepping " ++ parts.stepping))))

theorem Parts.toList_text (parts : Parts) :
    parts.text.toList = "Family ".toList ++ (parts.family.toList ++ (" Model ".toList ++
      (parts.model.toList ++ (" Stepping ".toList ++ parts.stepping.toList)))) := by
  rw [Parts.text, String.toList_append, String.toList_append, String.toList_append,
    String.toList_append, String.toList_append]

/-! ## Words -/

/-- A word reaches as far as no white space comes. -/
theorem wordAt?_append {s : String} (h : IsWord s) {rest : List Char}
    (hRest : ∀ c ∈ rest.head?, Text.isBlank c = true) :
    wordAt? (s.toList ++ rest) = some (s.toList, rest) := by
  have hWord : ∀ c ∈ s.toList, isWordChar c = true := by
    intro c hc
    rw [isWordChar, h.isBlank_eq_false c hc, Bool.not_false]
  have hStop : ∀ c ∈ rest.head?, isWordChar c = false := by
    intro c hc
    rw [isWordChar, hRest c hc, Bool.not_true]
  rw [wordAt?, Text.takeWhile_append_of_stop hWord hStop,
    Text.dropWhile_append_of_stop hWord hStop, if_neg]
  rw [List.isEmpty_iff]
  exact h.ne_nil

theorem dropComma_of_getLast?_ne {word : List Char} (h : word.getLast? ≠ some ',') :
    dropComma word = word := by
  rw [dropComma, if_neg fun hComma => h hComma.1]

/-! ## The numbers of an identifier -/

theorem isBlank_head?_append (keyword : String) (hHead : keyword.toList.head? = some ' ')
    (rest : List Char) : ∀ c ∈ (keyword.toList ++ rest).head?, Text.isBlank c = true := by
  intro c hc
  rw [List.head?_append, hHead, Option.some_or, Option.mem_some_iff] at hc
  rw [← hc]
  decide

/-- The numbers are read where they begin. -/
theorem partsAt?_text {parts : Parts} (h : parts.Legible) :
    partsAt? parts.text.toList = some parts := by
  have hFamily := wordAt?_append h.family (isBlank_head?_append " Model " (by decide)
    (parts.model.toList ++ (" Stepping ".toList ++ parts.stepping.toList)))
  have hModel := wordAt?_append h.model (isBlank_head?_append " Stepping " (by decide)
    parts.stepping.toList)
  have hStepping : wordAt? (parts.stepping.toList ++ []) = some (parts.stepping.toList, []) :=
    wordAt?_append h.stepping (by simp)
  rw [List.append_nil] at hStepping
  rw [parts.toList_text]
  simp only [partsAt?, Text.dropStart?_append, Option.bind_eq_bind, Option.bind_some, hFamily,
    hModel, hStepping, dropComma_of_getLast?_ne h.stepping_end, String.ofList_toList,
    Option.pure_def]

theorem partsAt?_eq_none {s : List Char} (h : ¬ "Family ".toList <+: s) : partsAt? s = none := by
  rw [partsAt?, Text.dropStart?_eq_none h]
  rfl

theorem partsIn?_eq_of_partsAt? {s : List Char} {parts : Parts} (h : partsAt? s = some parts) :
    partsIn? s = some parts := by
  cases s with
  | nil => exact absurd h (by rw [partsAt?_eq_none (by decide)]; simp)
  | cons c rest => rw [partsIn?, h]

/-- Where no numbers begin, they are looked for after the first character. -/
theorem partsIn?_cons {c : Char} {rest : List Char} (h : ¬ "Family ".toList <+: c :: rest) :
    partsIn? (c :: rest) = partsIn? rest := by
  rw [partsIn?, partsAt?_eq_none h]

/-- White space in front of a text does not matter. -/
theorem partsIn?_dropWhile (s : List Char) : partsIn? (s.dropWhile Text.isBlank) = partsIn? s := by
  induction s with
  | nil => rfl
  | cons c rest ih =>
    cases hBlank : Text.isBlank c with
    | false => rw [List.dropWhile_cons_of_neg (by simp [hBlank])]
    | true =>
      have hNot : ¬ "Family ".toList <+: c :: rest := by
        intro hStart
        rw [← (List.cons_prefix_cons.mp hStart).1] at hBlank
        exact absurd hBlank (by decide)
      rw [List.dropWhile_cons_of_pos hBlank, ih, partsIn?_cons hNot]

/-- First words without the keyword do not matter. -/
theorem partsIn?_append {first : List Char}
    (hFirst : Text.contains "Family".toList first = false) (rest : List Char) :
    partsIn? (first ++ ' ' :: rest) = partsIn? rest := by
  induction first with
  | nil =>
    rw [List.nil_append]
    exact partsIn?_cons fun hStart => absurd (List.cons_prefix_cons.mp hStart).1 (by decide)
  | cons c others ih =>
    rw [Text.contains, Bool.or_eq_false_iff] at hFirst
    rw [List.cons_append, partsIn?_cons, ih hFirst.2]
    intro hStart
    -- the keyword would have to end before the blank
    have hKeyword : "Family".toList <+: c :: others :=
      Text.prefix_of_prefix_append_cons ((List.prefix_append _ [' ']).trans hStart) (by decide)
    rw [List.isPrefixOf_iff_prefix.mpr hKeyword] at hFirst
    exact absurd hFirst.1 (by simp)

/-- **The numbers of an identifier are read back as they are,** whatever its first words. -/
theorem partsIn?_identifier {parts : Parts} (h : parts.Legible) {first : List Char}
    (hFirst : Text.contains "Family".toList first = false) :
    partsIn? (first ++ ' ' :: parts.text.toList) = some parts := by
  rw [partsIn?_append hFirst]
  exact partsIn?_eq_of_partsAt? (partsAt?_text h)

/-! ## Identifiers as they are written -/

theorem contains_architecture (vendor : String) (cpu64 : Option Bool) :
    Text.contains "Family".toList (architecture vendor cpu64).toList = false := by
  unfold architecture
  split <;> decide

theorem toList_write (vendor : String) (cpu64 : Option Bool) (parts : Parts) :
    (write vendor cpu64 parts).toList =
      (architecture vendor cpu64).toList ++ ' ' :: parts.text.toList := by
  have hKeyword : " Family ".toList = ' ' :: "Family ".toList := by decide
  rw [parts.toList_text]
  simp only [write, String.toList_append, hKeyword, List.append_assoc, List.cons_append]

/-- What is written is read back. -/
theorem parts?_write {parts : Parts} (h : parts.Legible) (vendor : String)
    (cpu64 : Option Bool) : parts? (write vendor cpu64 parts) = some parts := by
  rw [parts?, toList_write]
  exact partsIn?_identifier h (contains_architecture vendor cpu64)

end HardwareReport.Identifier
