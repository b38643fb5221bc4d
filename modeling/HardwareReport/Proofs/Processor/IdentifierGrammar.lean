import HardwareReport.Proofs.Processor.Identifier
import HardwareReport.Proofs.Text.Leftmost

/-!
# Processor — which texts hold an identifier

The three numbers of an identifier stand after keywords, and any text may stand before the first of
these and after the last number. The family and the model end where the next keyword begins, so they
are what they are. The stepping has nothing to end it but white space or the end of the text, and
loses a comma at its end, unless it is the comma alone.

Keywords may occur several times, also within each other's numbers, and the numbers are read at the
leftmost place where all keywords follow each other.

* `Occurrence` — a place in a text with the numbers that stand there;
* `Strips` — a stepping is a run of characters without a comma at its end.

Main results: `partsAt?_eq_some_iff` — the numbers that are read at a place; `parts?_grammar` —
which texts have numbers, and which numbers they are.
-/

namespace HardwareReport.Identifier

variable {s rest : List Char} {parts : Parts}

/-! ## Numbers at a place -/

/-- A word is the longest run without white space that a text begins with. -/
theorem wordAt?_eq_some_iff {word : String} :
    wordAt? s = some (word.toList, rest) ↔
      s = word.toList ++ rest ∧ IsWord word ∧ ∀ c ∈ rest.head?, Text.isBlank c = true := by
  constructor
  · intro h
    rw [wordAt?] at h
    split at h
    · exact absurd h (by simp)
    · next hSome =>
      obtain ⟨hWord, rfl⟩ := Prod.mk.inj (Option.some.inj h)
      refine ⟨?_, ⟨?_, fun c hc => ?_⟩, fun c hc => ?_⟩
      · rw [← hWord, List.takeWhile_append_dropWhile]
      · rw [← hWord]
        exact fun hNil => hSome (List.isEmpty_iff.mpr hNil)
      · rw [← hWord] at hc
        have hChar := List.all_eq_true.mp List.all_takeWhile c hc
        simpa [isWordChar] using hChar
      · -- a word ends where its characters do
        have hStop := List.head?_dropWhile_not isWordChar s
        rw [Option.mem_def.mp hc] at hStop
        simpa [isWordChar] using hStop
  · rintro ⟨rfl, hWord, hStop⟩
    exact wordAt?_append hWord hStop

theorem dropComma_concat {front : List Char} (h : front ≠ []) :
    dropComma (front ++ [',']) = front := by
  have hLength : 1 < (front ++ [',']).length := by
    have hSome := List.length_pos_iff.mpr h
    rw [List.length_append, List.length_singleton]
    omega
  rw [dropComma, if_pos ⟨List.getLast?_concat, hLength⟩, List.dropLast_concat]

theorem dropComma_eq_self {word : List Char} (h : ∀ front, front ≠ [] → word ≠ front ++ [',']) :
    dropComma word = word := by
  rw [dropComma, if_neg]
  rintro ⟨hLast, hLength⟩
  obtain ⟨front, rfl⟩ := List.getLast?_eq_some_iff.mp hLast
  refine h front (fun hNil => ?_) rfl
  rw [hNil] at hLength
  exact absurd hLength (by simp)

/-- A stepping is a run of characters without one comma at its end, if anything is left without
it. -/
def Strips (run stepping : String) : Prop :=
  (stepping ≠ "" ∧ run = stepping ++ ",") ∨
    (stepping = run ∧ ∀ front, front ≠ "" → run ≠ front ++ ",")

/-- One comma at the end of a run is dropped, if there is one. -/
theorem strips_iff {run stepping : String} :
    Strips run stepping ↔ .ofList (dropComma run.toList) = stepping := by
  have hComma : ",".toList = [','] := by decide
  by_cases hEnd : ∃ front, front ≠ "" ∧ run = front ++ ","
  · obtain ⟨front, hSome, rfl⟩ := hEnd
    have hDrop : dropComma (front ++ ",").toList = front.toList := by
      rw [String.toList_append, hComma]
      exact dropComma_concat (by simpa using hSome)
    rw [hDrop, String.ofList_toList]
    constructor
    · rintro (⟨-, hRun⟩ | ⟨-, hNone⟩)
      · rw [← String.toList_inj, String.toList_append, String.toList_append] at hRun
        exact String.toList_inj.mp (List.append_cancel_right hRun)
      · exact absurd rfl (hNone front hSome)
    · rintro rfl
      exact .inl ⟨hSome, rfl⟩
  · rw [not_exists] at hEnd
    -- without a comma to drop, the run is the stepping
    have hDrop : dropComma run.toList = run.toList := by
      refine dropComma_eq_self fun front hSome hRun => hEnd (.ofList front) ⟨?_, ?_⟩
      · simpa using hSome
      · rw [← String.toList_inj, hRun, String.toList_append, String.toList_ofList, hComma]
    rw [hDrop, String.ofList_toList]
    constructor
    · rintro (⟨hSome, hRun⟩ | ⟨rfl, -⟩)
      · exact absurd ⟨hSome, hRun⟩ (hEnd stepping)
      · rfl
    · rintro rfl
      exact .inr ⟨rfl, fun front hSome hRun => hEnd front ⟨hSome, hRun⟩⟩

/-- The keywords with two numbers between them. -/
def keyed (family model : String) : String :=
  "Family " ++ (family ++ (" Model " ++ (model ++ " Stepping ")))

theorem toList_keyed_append (family model : String) (rest : List Char) :
    (keyed family model).toList ++ rest =
      "Family ".toList ++ (family.toList ++ (" Model ".toList ++ (model.toList ++
        (" Stepping ".toList ++ rest)))) := by
  rw [keyed, String.toList_append, String.toList_append, String.toList_append,
    String.toList_append, List.append_assoc, List.append_assoc, List.append_assoc,
    List.append_assoc]

/-- A text with a keyword and a word at its start is read on after the word. -/
theorem bind_dropStart?_wordAt?_eq_some_iff {α : Type} {keyword : List Char} {found : α}
    {readOn : List Char × List Char → Option α} :
    ((Text.dropStart? keyword s).bind fun back => (wordAt? back).bind readOn) = some found ↔
      ∃ (word : String) (after : List Char),
        s = keyword ++ (word.toList ++ after) ∧ IsWord word ∧
        (∀ c ∈ after.head?, Text.isBlank c = true) ∧
        readOn (word.toList, after) = some found := by
  constructor
  · intro h
    obtain ⟨back, hKeyword, h⟩ := Option.bind_eq_some_iff.mp h
    obtain ⟨⟨run, after⟩, hWord, hOn⟩ := Option.bind_eq_some_iff.mp h
    -- words are texts in a grammar and characters in the reader
    rw [← String.toList_ofList (l := run)] at hWord hOn
    obtain ⟨hBack, hIsWord, hEnds⟩ := wordAt?_eq_some_iff.mp hWord
    exact ⟨.ofList run, after, by rw [← hBack, Text.dropStart?_eq_some_iff.mp hKeyword],
      hIsWord, hEnds, hOn⟩
  · rintro ⟨word, after, hText, hIsWord, hEnds, hOn⟩
    rw [hText, Text.dropStart?_append, Option.bind_some, wordAt?_append hIsWord hEnds,
      Option.bind_some, hOn]

/-- **The numbers that are read at a place** stand between and after the keywords. -/
theorem partsAt?_eq_some_iff : partsAt? s = some parts ↔
    ∃ (run : String) (after : List Char),
      s = (keyed parts.family parts.model).toList ++ (run.toList ++ after) ∧
      IsWord parts.family ∧ IsWord parts.model ∧ IsWord run ∧
      (∀ c ∈ after.head?, Text.isBlank c = true) ∧ Strips run parts.stepping := by
  rw [partsAt?]
  simp only [Option.bind_eq_bind, Option.pure_def, bind_dropStart?_wordAt?_eq_some_iff,
    Option.some.injEq, String.ofList_toList]
  constructor
  · rintro ⟨family, afterFamily, hFamilyText, hFamily, -, model, afterModel, hModelText, hModel, -,
      run, after, hRunText, hRun, hEnds, hParts⟩
    have hStrips : Strips run (.ofList (dropComma run.toList)) := strips_iff.mpr rfl
    subst hParts
    refine ⟨run, after, ?_, hFamily, hModel, hRun, hEnds, hStrips⟩
    rw [toList_keyed_append, hFamilyText, hModelText, hRunText]
  · rintro ⟨run, after, hText, hFamily, hModel, hRun, hEnds, hStrips⟩
    rw [toList_keyed_append] at hText
    -- the next keyword begins with the white space that ends a number
    refine ⟨parts.family, _, hText, hFamily, isBlank_head?_append " Model " (by decide) _,
      parts.model, _, rfl, hModel, isBlank_head?_append " Stepping " (by decide) _,
      run, after, rfl, hRun, hEnds, ?_⟩
    rw [strips_iff.mp hStrips]

/-! ## The leftmost numbers -/

/-- A place in a text where keywords and numbers stand: what is before them, the family, the model,
the characters up to the next white space, and what is after these. -/
structure Occurrence where
  before : List Char
  family : String
  model : String
  run : String
  after : List Char

/-- Keywords and numbers stand in a text at a place. -/
structure Occurrence.IsIn (o : Occurrence) (identifier : String) : Prop where
  text : identifier.toList =
    o.before ++ ((keyed o.family o.model).toList ++ (o.run.toList ++ o.after))
  family : IsWord o.family
  model : IsWord o.model
  run : IsWord o.run
  -- the last number goes on up to white space or the end
  ends : ∀ c ∈ o.after.head?, Text.isBlank c = true

/-- Keywords and numbers stand in a text at a place and at none before it. -/
structure Occurrence.IsLeftmostIn (o : Occurrence) (identifier : String) : Prop
    extends o.IsIn identifier where
  first : ∀ other : Occurrence, other.IsIn identifier → o.before.length ≤ other.before.length

theorem searchesFromLeft_partsIn? : Text.SearchesFromLeft partsIn? partsAt? where
  nil := (partsAt?_eq_none (by decide)).symm
  cons c rest := by
    rw [partsIn?]
    cases partsAt? (c :: rest) <;> rfl

/-- Numbers are read where keywords and numbers stand. -/
theorem isSome_partsAt?_iff {identifier : String} {before rest : List Char}
    (hText : identifier.toList = before ++ rest) :
    (partsAt? rest).isSome ↔ ∃ o : Occurrence, o.before = before ∧ o.IsIn identifier := by
  rw [Option.isSome_iff_exists]
  constructor
  · rintro ⟨parts, hRead⟩
    obtain ⟨run, after, rfl, hFamily, hModel, hRun, hEnds, -⟩ := partsAt?_eq_some_iff.mp hRead
    exact ⟨⟨before, parts.family, parts.model, run, after⟩, rfl, hText, hFamily, hModel, hRun,
      hEnds⟩
  · rintro ⟨o, rfl, h⟩
    have hRest : rest = (keyed o.family o.model).toList ++ (o.run.toList ++ o.after) :=
      List.append_cancel_left (hText.symm.trans h.text)
    exact ⟨⟨o.family, o.model, .ofList (dropComma o.run.toList)⟩, partsAt?_eq_some_iff.mpr
      ⟨o.run, o.after, hRest, h.family, h.model, h.run, h.ends, strips_iff.mpr rfl⟩⟩

/-- **The numbers that are read are the leftmost ones.** -/
theorem parts?_eq_some_iff {identifier : String} :
    parts? identifier = some parts ↔
      ∃ o : Occurrence, o.IsLeftmostIn identifier ∧ parts.family = o.family ∧
        parts.model = o.model ∧ Strips o.run parts.stepping := by
  rw [parts?, searchesFromLeft_partsIn?.eq_some_iff]
  constructor
  · rintro ⟨before, rest, hText, hRead, hFirst⟩
    obtain ⟨run, after, rfl, hFamily, hModel, hRun, hEnds, hStrips⟩ :=
      partsAt?_eq_some_iff.mp hRead
    refine ⟨⟨before, parts.family, parts.model, run, after⟩,
      ⟨⟨hText, hFamily, hModel, hRun, hEnds⟩, fun other hOther => ?_⟩, rfl, rfl, hStrips⟩
    exact hFirst.first other.before _ (hText.symm.trans hOther.text)
      ((isSome_partsAt?_iff hOther.text).mpr ⟨other, rfl, hOther⟩)
  · rintro ⟨o, h, hFamily, hModel, hStrips⟩
    -- an occurrence is read where it begins, and none begins before it
    have hRead : partsAt? ((keyed o.family o.model).toList ++ (o.run.toList ++ o.after)) =
        some parts :=
      partsAt?_eq_some_iff.mpr ⟨o.run, o.after, by rw [hFamily, hModel], hFamily ▸ h.family,
        hModel ▸ h.model, h.run, h.ends, hStrips⟩
    refine ⟨o.before, _, h.text, hRead, Option.isSome_of_eq_some hRead,
      fun front back hParts hBegins => ?_⟩
    obtain ⟨other, rfl, hOther⟩ := (isSome_partsAt?_iff (h.text.trans hParts)).mp hBegins
    exact h.first other hOther

/-- Any character that is no white space begins the last number. -/
theorem exists_isIn_iff {identifier : String} :
    (∃ o : Occurrence, o.IsIn identifier) ↔
      ∃ (before : List Char) (family model : String) (c : Char) (after : List Char),
        identifier.toList = before ++ ((keyed family model).toList ++ c :: after) ∧
        IsWord family ∧ IsWord model ∧ Text.isBlank c = false := by
  constructor
  · rintro ⟨o, h⟩
    obtain ⟨c, others, hRun⟩ := List.exists_cons_of_ne_nil h.run.ne_nil
    refine ⟨o.before, o.family, o.model, c, others ++ o.after, ?_, h.family, h.model,
      h.run.isBlank_eq_false c (hRun ▸ List.mem_cons_self)⟩
    rw [h.text, hRun, List.cons_append]
  · rintro ⟨before, family, model, c, after, hText, hFamily, hModel, hChar⟩
    -- the run from this character on is a word, however far it goes
    have hRead : wordAt? (c :: after) =
        some ((c :: after).takeWhile isWordChar, (c :: after).dropWhile isWordChar) := by
      rw [wordAt?, if_neg]
      simp [isWordChar, hChar]
    rw [← String.toList_ofList (l := (c :: after).takeWhile isWordChar)] at hRead
    obtain ⟨hRest, hRun, hEnds⟩ := wordAt?_eq_some_iff.mp hRead
    rw [hRest] at hText
    exact ⟨⟨before, family, model, _, _⟩, hText, hFamily, hModel, hRun, hEnds⟩

/-- **The texts that give numbers, and the numbers that they give.** A text gives numbers if the
keywords stand in it with words between them and a character that is no white space after them. The
numbers come from the leftmost such place: the two words, and the longest run of characters without
white space that stands there, without one comma at its end if anything is left without it. -/
theorem parts?_grammar (identifier : String) :
    ((parts? identifier).isSome ↔
      ∃ (before : List Char) (family model : String) (c : Char) (after : List Char),
        identifier.toList = before ++ ((keyed family model).toList ++ c :: after) ∧
        IsWord family ∧ IsWord model ∧ Text.isBlank c = false) ∧
    ∀ parts, parts? identifier = some parts ↔
      ∃ o : Occurrence, o.IsLeftmostIn identifier ∧ parts.family = o.family ∧
        parts.model = o.model ∧ Strips o.run parts.stepping := by
  refine ⟨?_, fun parts => parts?_eq_some_iff⟩
  -- numbers are read exactly if something is read at some place
  rw [← exists_isIn_iff, parts?, searchesFromLeft_partsIn?.isSome_iff]
  constructor
  · rintro ⟨before, rest, hText, hSome⟩
    obtain ⟨o, -, hIn⟩ := (isSome_partsAt?_iff hText).mp hSome
    exact ⟨o, hIn⟩
  · rintro ⟨o, hIn⟩
    exact ⟨o.before, _, hIn.text, (isSome_partsAt?_iff hIn.text).mpr ⟨o, rfl, hIn⟩⟩

-- a keyword in front of the first one, and a comma within a number
example : parts? "Family Family 6 Model 1,5 Stepping 10, AuthenticAMD" =
    some ⟨"6", "1,5", "10"⟩ := by decide

end HardwareReport.Identifier
