import HardwareReport.Processor.Frequency
import HardwareReport.Proofs.Text.Leftmost

/-!
# Processor — the frequency at the end of a name

A frequency is digits, with a point and more digits or without, at most one space and a unit. The
search for one tries every place from the left, and at a place it finds the frequency whose text
begins there, if there is one: the text determines it.

A name tells its frequency after a mark. The search starts after the first mark and not after the
last one, so a frequency that follows an earlier mark is taken in place of the one at the end.

* `Occurrence.text` — how a frequency is written;
* `HasFrequency` — there is a frequency somewhere in a text;
* `Advertises` — there is one somewhere after a mark.

Main results: `occurrenceAt?_eq_some_iff`, `find?_eq_none_iff` and `find?_append_mark` — what is
found in a text; `ofName_advertised` — which frequency of a name is reported.
-/

namespace HardwareReport.Frequency

/-! ## Written frequencies -/

/-- How a unit is written. -/
def Scale.symbol : Scale → List Char
  | .hertz => ['H', 'z']
  | .kilo => ['k', 'H', 'z']
  | .mega => ['M', 'H', 'z']
  | .giga => ['G', 'H', 'z']
  | .tera => ['T', 'H', 'z']

/-- A unit as it follows a number, after a space or at once. -/
def Scale.text (scale : Scale) (spaced : Bool) : List Char :=
  (if spaced then [' '] else []) ++ scale.symbol

/-- Decimals with the point in front. Where there are none there is no point. -/
def pointed : List Char → List Char
  | [] => []
  | c :: rest => '.' :: c :: rest

/-- How a frequency is written. -/
def Occurrence.text (o : Occurrence) (spaced : Bool) : List Char :=
  o.whole ++ (pointed o.decimals ++ o.scale.text spaced)

/-- A frequency is written in digits of a class, with one before the point at least. -/
structure Occurrence.HasDigits (isDigit : Char → Bool) (o : Occurrence) : Prop where
  whole_ne_nil : o.whole ≠ []
  whole : ∀ c ∈ o.whole, isDigit c = true
  decimals : ∀ c ∈ o.decimals, isDigit c = true

instance (isDigit : Char → Bool) (o : Occurrence) : Decidable (o.HasDigits isDigit) :=
  decidable_of_iff (o.whole ≠ [] ∧ o.whole.all isDigit = true ∧ o.decimals.all isDigit = true)
    ⟨fun h => ⟨h.1, List.all_eq_true.mp h.2.1, List.all_eq_true.mp h.2.2⟩,
      fun h => ⟨h.whole_ne_nil, List.all_eq_true.mpr h.whole, List.all_eq_true.mpr h.decimals⟩⟩

theorem Occurrence.HasDigits.mono {p q : Char → Bool} (hClass : ∀ c, p c = true → q c = true)
    {o : Occurrence} (h : o.HasDigits p) : o.HasDigits q where
  whole_ne_nil := h.whole_ne_nil
  whole c hc := hClass c (h.whole c hc)
  decimals c hc := hClass c (h.decimals c hc)

/-- A character that is no digit, no point and in no unit is nowhere in the text of a frequency. -/
theorem not_mem_text {o : Occurrence} (h : o.HasDigits Text.isDecimalDigit) (spaced : Bool)
    {c : Char} (hDigit : Text.isDecimalDigit c = false) (hPoint : c ≠ '.')
    (hUnit : ∀ scale : Scale, c ∉ scale.text spaced) : c ∉ o.text spaced := by
  have hDecimals : c ∉ pointed o.decimals := by
    cases hCases : o.decimals with
    | nil => simp [pointed]
    | cons first rest =>
      rw [pointed, List.mem_cons, ← hCases]
      rintro (rfl | hMem)
      · exact hPoint rfl
      · simp [h.decimals c hMem] at hDigit
  -- the digits before the point, the decimals and the unit
  rw [Occurrence.text, List.mem_append, List.mem_append]
  rintro (hWhole | hMem | hMem)
  · simp [h.whole c hWhole] at hDigit
  · exact hDecimals hMem
  · exact hUnit _ hMem

/-! ## What is found at a place -/

theorem scaleAt?_eq_some_iff {s : List Char} {scale : Scale} :
    scaleAt? s = some scale ↔ scale.symbol <+: s := by
  constructor
  · intro h
    unfold scaleAt? at h
    split at h <;> cases h <;> exact ⟨_, rfl⟩
  · rintro ⟨rest, rfl⟩
    cases scale <;> rfl

/-- The point and the decimals are taken off a text, and nothing else. -/
theorem decimalsAt_spec (s : List Char) :
    pointed (decimalsAt s).1 ++ (decimalsAt s).2 = s ∧
      ∀ c ∈ (decimalsAt s).1, Text.isDecimalDigit c = true := by
  unfold decimalsAt
  split
  · next rest =>
    split
    · simp [pointed]
    · next hSome =>
      -- a point counts only with a digit after it
      obtain ⟨first, others, hDigits⟩ : ∃ first others,
          rest.takeWhile Text.isDecimalDigit = first :: others := by
        cases hRun : rest.takeWhile Text.isDecimalDigit with
        | nil => simp [hRun] at hSome
        | cons first others => exact ⟨first, others, rfl⟩
      refine ⟨?_, fun c hc => List.all_eq_true.mp List.all_takeWhile c hc⟩
      have hRest := List.takeWhile_append_dropWhile (p := Text.isDecimalDigit) (l := rest)
      rw [hDigits] at hRest ⊢
      rw [pointed, List.cons_append, hRest]
  · simp [pointed]

/-- At most one space is taken off a text. -/
theorem exists_dropSpace (s : List Char) :
    ∃ spaced : Bool, (if spaced then [' '] else []) ++ dropSpace s = s := by
  unfold dropSpace
  split
  · exact ⟨true, rfl⟩
  · exact ⟨false, rfl⟩

theorem dropSpace_text (scale : Scale) (spaced : Bool) (rest : List Char) :
    dropSpace (scale.text spaced ++ rest) = scale.symbol ++ rest := by
  cases spaced <;> cases scale <;> rfl

/-- No digit and no point stands where a unit does. -/
theorem head?_text (scale : Scale) (spaced : Bool) (rest : List Char) :
    ∀ c ∈ (scale.text spaced ++ rest).head?, Text.isDecimalDigit c = false ∧ c ≠ '.' := by
  cases spaced <;> cases scale <;> simp [Scale.text, Scale.symbol] <;> decide

/-- The digits after a point are read to their end. -/
theorem decimalsAt_text {decimals : List Char}
    (hDigits : ∀ c ∈ decimals, Text.isDecimalDigit c = true) {rest : List Char}
    (hStop : ∀ c ∈ rest.head?, Text.isDecimalDigit c = false ∧ c ≠ '.') :
    decimalsAt (pointed decimals ++ rest) = (decimals, rest) := by
  cases decimals with
  | nil =>
    rw [pointed, List.nil_append]
    unfold decimalsAt
    split
    · -- nothing can be taken for a point
      exact absurd rfl (hStop '.' rfl).2
    · rfl
  | cons first others =>
    have hEnd : ∀ c ∈ rest.head?, Text.isDecimalDigit c = false := fun c hc => (hStop c hc).1
    have hTake := Text.takeWhile_append_of_stop hDigits hEnd
    have hDrop := Text.dropWhile_append_of_stop hDigits hEnd
    rw [pointed, List.cons_append]
    simp only [decimalsAt, hTake, hDrop, List.isEmpty_cons, Bool.false_eq_true, if_false]

/-- **At a place that frequency is found whose text begins there.** -/
theorem occurrenceAt?_eq_some_iff {s : List Char} {o : Occurrence} :
    occurrenceAt? s = some o ↔
      o.HasDigits Text.isDecimalDigit ∧ ∃ spaced, o.text spaced <+: s := by
  constructor
  · intro h
    obtain ⟨hDecimals, hDigits⟩ := decimalsAt_spec (s.dropWhile Text.isDecimalDigit)
    simp only [occurrenceAt?] at h
    generalize decimalsAt (s.dropWhile Text.isDecimalDigit) = parts at h hDecimals hDigits
    split at h
    · exact absurd h (by simp)
    · next hSome =>
      obtain ⟨scale, hScale, rfl⟩ := Option.map_eq_some_iff.mp h
      obtain ⟨rest, hSymbol⟩ := scaleAt?_eq_some_iff.mp hScale
      obtain ⟨spaced, hSpace⟩ := exists_dropSpace parts.2
      -- what was taken off the text part by part gives the text again
      have hText : s.takeWhile Text.isDecimalDigit ++
          (pointed parts.1 ++ scale.text spaced) ++ rest = s := by
        rw [Scale.text, List.append_assoc, List.append_assoc, List.append_assoc, hSymbol, hSpace,
          hDecimals, List.takeWhile_append_dropWhile]
      exact ⟨⟨fun hNil => hSome (List.isEmpty_iff.mpr hNil),
        fun c hc => List.all_eq_true.mp List.all_takeWhile c hc, hDigits⟩, spaced, rest, hText⟩
  · rintro ⟨hDigits, spaced, rest, rfl⟩
    have hUnit := head?_text o.scale spaced rest
    -- digits are followed by the point or by the unit
    have hStop : ∀ c ∈ (pointed o.decimals ++ (o.scale.text spaced ++ rest)).head?,
        Text.isDecimalDigit c = false := by
      cases o.decimals with
      | nil => exact fun c hc => (hUnit c hc).1
      | cons first others =>
        intro c hc
        obtain rfl := Option.some.inj hc
        decide
    have hTake := Text.takeWhile_append_of_stop hDigits.whole hStop
    have hDrop := Text.dropWhile_append_of_stop hDigits.whole hStop
    have hScale : scaleAt? (o.scale.symbol ++ rest) = some o.scale :=
      scaleAt?_eq_some_iff.mpr (List.prefix_append _ _)
    simp only [Occurrence.text, List.append_assoc, occurrenceAt?, hTake, hDrop,
      decimalsAt_text hDigits.decimals hUnit, dropSpace_text, hScale, Option.map_some,
      List.isEmpty_iff, hDigits.whole_ne_nil, if_false]

theorem occurrenceAt?_cons_of_not_digit {c : Char} (s : List Char)
    (h : Text.isDecimalDigit c = false) : occurrenceAt? (c :: s) = none := by
  simp [occurrenceAt?, h]

/-- What follows a mark is not reached from a place in front of it. -/
theorem occurrenceAt?_append_mark (s rest : List Char) :
    occurrenceAt? (s ++ '@' :: rest) = occurrenceAt? s := by
  refine Option.ext fun o => ?_
  rw [occurrenceAt?_eq_some_iff, occurrenceAt?_eq_some_iff]
  refine and_congr_right fun hDigits => exists_congr fun spaced => ⟨fun h => ?_, fun h => ?_⟩
  · refine Text.prefix_of_prefix_append_cons h
      (not_mem_text hDigits spaced (by decide) (by decide) ?_)
    intro scale
    cases spaced <;> cases scale <;> decide
  · exact h.trans (List.prefix_append s _)

/-! ## What is found in a text -/

/-- There is a frequency somewhere in a text. -/
def HasFrequency (s : List Char) : Prop :=
  ∃ (o : Occurrence) (spaced : Bool), o.HasDigits Text.isDecimalDigit ∧ o.text spaced <:+: s

theorem HasFrequency.of_infix {s t : List Char} (h : HasFrequency s) (hInfix : s <:+: t) :
    HasFrequency t := by
  obtain ⟨o, spaced, hDigits, hText⟩ := h
  exact ⟨o, spaced, hDigits, hText.trans hInfix⟩

theorem searchesFromLeft_find? : Text.SearchesFromLeft find? occurrenceAt? where
  nil := rfl
  cons c rest := by
    rw [find?]
    cases occurrenceAt? (c :: rest) <;> rfl

/-- A place where a frequency is read is one where the text of a frequency begins. -/
theorem isSome_occurrenceAt?_iff {s : List Char} : (occurrenceAt? s).isSome ↔
    ∃ (o : Occurrence) (spaced : Bool) (after : List Char),
      o.HasDigits Text.isDecimalDigit ∧ s = o.text spaced ++ after := by
  rw [Option.isSome_iff_exists]
  constructor
  · rintro ⟨o, hRead⟩
    obtain ⟨hDigits, spaced, after, hText⟩ := occurrenceAt?_eq_some_iff.mp hRead
    exact ⟨o, spaced, after, hDigits, hText.symm⟩
  · rintro ⟨o, spaced, after, hDigits, rfl⟩
    exact ⟨o, occurrenceAt?_eq_some_iff.mpr ⟨hDigits, spaced, List.prefix_append _ after⟩⟩

/-- A frequency is found unless there is none. -/
theorem find?_eq_none_iff {s : List Char} : find? s = none ↔ ¬ HasFrequency s := by
  rw [← Option.not_isSome_iff_eq_none, searchesFromLeft_find?.isSome_iff]
  refine not_congr ⟨?_, ?_⟩
  · rintro ⟨before, rest, rfl, hSome⟩
    obtain ⟨o, spaced, after, hDigits, rfl⟩ := isSome_occurrenceAt?_iff.mp hSome
    exact ⟨o, spaced, hDigits, before, after, List.append_assoc before _ after⟩
  · rintro ⟨o, spaced, hDigits, before, after, rfl⟩
    exact ⟨before, o.text spaced ++ after, List.append_assoc before _ after,
      isSome_occurrenceAt?_iff.mpr ⟨o, spaced, after, hDigits, rfl⟩⟩

theorem find?_cons_of_not_digit {c : Char} (s : List Char) (h : Text.isDecimalDigit c = false) :
    find? (c :: s) = find? s := by
  rw [find?, occurrenceAt?_cons_of_not_digit s h]

/-- What stands in front of a mark is searched first, and by itself. -/
theorem find?_append_mark (s rest : List Char) :
    find? (s ++ '@' :: rest) = (find? s).or (find? rest) := by
  induction s with
  | nil => exact find?_cons_of_not_digit rest (by decide)
  | cons c s ih =>
    rw [List.cons_append, find?, find?, ← List.cons_append, occurrenceAt?_append_mark, ih]
    cases occurrenceAt? (c :: s) <;> rfl

/-- A frequency is found in its own text. -/
theorem find?_text {o : Occurrence} (h : o.HasDigits Text.isDecimalDigit) (spaced : Bool) :
    find? (o.text spaced) = some o := by
  have hHere : occurrenceAt? (o.text spaced) = some o :=
    occurrenceAt?_eq_some_iff.mpr ⟨h, spaced, List.prefix_refl _⟩
  cases hText : o.text spaced with
  | nil => exact absurd (List.append_eq_nil_iff.mp hText).1 h.whole_ne_nil
  | cons c rest => rw [find?, ← hText, hHere]

/-! ## Values -/

theorem exists_digitsValue? {digits : List Char} (h : ∀ c ∈ digits, c.isDigit = true) :
    ∃ value, digitsValue? digits = some value := by
  suffices hFrom : ∀ first, ∃ value, digits.foldlM
      (fun value c => (Text.digitValue? c).map (value * 10 + ·)) first = some value from hFrom 0
  induction digits with
  | nil => exact fun first => ⟨first, rfl⟩
  | cons c rest ih =>
    intro first
    obtain ⟨hDigit, hRest⟩ := List.forall_mem_cons.mp h
    rw [List.foldlM_cons, Text.digitValue?, if_pos hDigit]
    exact ih hRest _

/-- A frequency in ASCII digits has a value. -/
theorem exists_value? {o : Occurrence} (h : o.HasDigits Char.isDigit) :
    ∃ hertz, o.value? = some hertz := by
  have hAll : ∀ c ∈ o.whole ++ o.decimals, c.isDigit = true := fun c hc =>
    (List.mem_append.mp hc).elim (h.whole c) (h.decimals c)
  obtain ⟨value, hValue⟩ := exists_digitsValue? hAll
  rw [Occurrence.value?, hValue]
  exact ⟨_, rfl⟩

theorem ofText_congr {s t : List Char} (h : find? s = find? t) : ofText s = ofText t := by
  rw [ofText, ofText, h]

/-! ## Names -/

/-- The mark in front of a frequency. -/
def mark : List Char := ['@', ' ']

/-- There is a frequency somewhere after a mark in a text. -/
def Advertises (s : List Char) : Prop :=
  ∃ front back, s = front ++ mark ++ back ∧ HasFrequency back

theorem lastLine_eq_self {s : List Char} (h : '\n' ∉ s) : lastLine s = s := by
  rw [lastLine]
  split
  · next parts hSplit =>
    obtain ⟨-, rfl⟩ := Text.splitLast?_eq_some_iff.mp hSplit
    simp at h
  · rfl

/-- A text advertises a frequency if there is one after the first mark. -/
theorem advertises_iff {s : List Char} :
    Advertises s ↔ ∃ parts, Text.splitOnce? mark s = some parts ∧ HasFrequency parts.2 := by
  constructor
  · rintro ⟨front, back, hParts, hBack⟩
    cases hSplit : Text.splitOnce? mark s with
    | none => exact absurd ⟨front, back, hParts.symm⟩ (Text.splitOnce?_eq_none_iff.mp hSplit)
    | some parts =>
      exact ⟨parts, rfl, hBack.of_infix (Text.suffix_of_splitOnce? hSplit hParts).isInfix⟩
  · rintro ⟨parts, hSplit, hAfter⟩
    exact ⟨parts.1, parts.2, (Text.splitOnce?_append hSplit).symm, hAfter⟩

/-- A mark that is put at the end of a text is the first one if there is none in the text. -/
theorem splitOnce?_append_mark (s rest : List Char) :
    Text.splitOnce? mark (s ++ mark ++ rest) =
      some (match Text.splitOnce? mark s with
        | some parts => (parts.1, parts.2 ++ mark ++ rest)
        | none => (s, rest)) := by
  have hMark : mark ≠ [] := by decide
  cases hSplit : Text.splitOnce? mark s with
  | some parts =>
    -- the first mark stays where it is, and more follows it
    obtain ⟨hParts, hFirst⟩ := (Text.splitOnce?_eq_some_iff hMark).mp hSplit
    refine (Text.splitOnce?_eq_some_iff hMark).mpr ⟨?_, hFirst⟩
    rw [hParts]
    simp only [List.append_assoc]
  | none =>
    refine (Text.splitOnce?_eq_some_iff hMark).mpr ⟨rfl, fun hInfix => ?_⟩
    rw [show s ++ mark.dropLast = s ++ ['@'] from rfl, List.infix_concat_iff] at hInfix
    refine hInfix.elim (fun hSuffix => ?_) (Text.splitOnce?_eq_none_iff.mp hSplit)
    -- a mark ends with the space, which is not there yet
    exact absurd (hSuffix.getLast hMark) (by simp [mark])

theorem ofName_eq_of_splitOnce? {name : String} (hLine : '\n' ∉ name.toList)
    {parts : List Char × List Char} (hSplit : Text.splitOnce? mark name.toList = some parts) :
    ofName name = ofText parts.2 := by
  have hAfter : afterMark? name.toList = some parts.2 := by
    rw [afterMark?, lastLine_eq_self hLine, show ['@', ' '] = mark from rfl, hSplit,
      Option.map_some]
  rw [ofName, hAfter]

/-- **A name reports the frequency at its end**, unless there is one after an earlier mark in it:
then it reports what it would report without its end. -/
theorem ofName_advertised {front : String} (hLine : '\n' ∉ front.toList) {o : Occurrence}
    (hDigits : o.HasDigits Char.isDigit) (spaced : Bool) :
    (∃ hertz : Nat, o.value? = some hertz ∧ ofText (o.text spaced) = hertz) ∧
    (¬ Advertises front.toList →
      ofName (front ++ "@ " ++ String.ofList (o.text spaced)) = ofText (o.text spaced)) ∧
    (Advertises front.toList →
      ofName (front ++ "@ " ++ String.ofList (o.text spaced)) = ofName front) := by
  have hAnyScript := hDigits.mono fun _ => Text.isDecimalDigit_of_isDigit
  have hFound := find?_text hAnyScript spaced
  have hName : (front ++ "@ " ++ String.ofList (o.text spaced)).toList =
      front.toList ++ mark ++ o.text spaced := by
    simp only [String.toList_append, String.toList_ofList]
    rfl
  have hNameLine : '\n' ∉ (front ++ "@ " ++ String.ofList (o.text spaced)).toList := by
    have hText : '\n' ∉ o.text spaced :=
      not_mem_text hAnyScript spaced (by decide) (by decide) fun scale => by
        cases spaced <;> cases scale <;> decide
    rw [hName, List.mem_append, List.mem_append]
    rintro ((hMem | hMem) | hMem)
    · exact hLine hMem
    · exact absurd hMem (by decide)
    · exact hText hMem
  have hSplit := splitOnce?_append_mark front.toList (o.text spaced)
  rw [← hName] at hSplit
  have hOfName := ofName_eq_of_splitOnce? hNameLine hSplit
  -- what follows an earlier mark is searched first, then what follows the last one
  have hBoth : ∀ back, find? (back ++ mark ++ o.text spaced) = (find? back).or (some o) := by
    intro back
    rw [List.append_assoc, show mark ++ o.text spaced = '@' :: ' ' :: o.text spaced from rfl,
      find?_append_mark, find?_cons_of_not_digit _ (by decide), hFound]
  refine ⟨?_, fun hNot => ?_, fun hEarlier => ?_⟩
  -- the value of the frequency at the end
  · obtain ⟨hertz, hValue⟩ := exists_value? hDigits
    refine ⟨hertz, hValue, ?_⟩
    rw [ofText, hFound, Option.bind_some, hValue]
  · rw [hOfName]
    cases hFirst : Text.splitOnce? mark front.toList with
    | none => rfl
    | some parts =>
      have hNone : find? parts.2 = none :=
        find?_eq_none_iff.mpr fun h => hNot (advertises_iff.mpr ⟨parts, hFirst, h⟩)
      refine ofText_congr ?_
      rw [hBoth, hNone, Option.none_or, hFound]
  · obtain ⟨parts, hFirst, hFrequency⟩ := advertises_iff.mp hEarlier
    rw [hOfName, ofName_eq_of_splitOnce? hLine hFirst, hFirst]
    refine ofText_congr ?_
    obtain ⟨earlier, hFind⟩ := Option.ne_none_iff_exists'.mp
      fun hNone => find?_eq_none_iff.mp hNone hFrequency
    rw [hBoth, hFind, Option.some_or]

/-- Two gigahertz. -/
def twoGiga : Occurrence := ⟨['2'], [], .giga⟩

theorem twoGiga_hasDigits : twoGiga.HasDigits Char.isDigit := by
  decide

/-- A name before whose frequency nothing is advertised, and one with another before it. -/
theorem ofName_advertised_twoGiga :
    '\n' ∉ "CPU T7300 ".toList ∧ '\n' ∉ "CPU @ 1GHz ".toList ∧ twoGiga.HasDigits Char.isDigit ∧
    ¬ Advertises "CPU T7300 ".toList ∧ Advertises "CPU @ 1GHz ".toList ∧
    ofName "CPU T7300 @ 2 GHz" = ofText "2 GHz".toList ∧
    ofName "CPU @ 1GHz @ 2GHz" = ofName "CPU @ 1GHz " := by
  have hPlain : '\n' ∉ "CPU T7300 ".toList := by decide
  have hTwice : '\n' ∉ "CPU @ 1GHz ".toList := by decide
  -- without the mark nothing is advertised
  have hNot : ¬ Advertises "CPU T7300 ".toList := by
    rw [advertises_iff]
    rintro ⟨parts, hSplit, -⟩
    have hNone : Text.splitOnce? mark "CPU T7300 ".toList = none := by decide
    rw [hNone] at hSplit
    exact absurd hSplit (by simp)
  have hEarlier : Advertises "CPU @ 1GHz ".toList :=
    ⟨"CPU ".toList, "1GHz ".toList, by decide, ⟨['1'], [], .giga⟩, false, by decide, [], [' '],
      by decide⟩
  exact ⟨hPlain, hTwice, twoGiga_hasDigits, hNot, hEarlier,
    (ofName_advertised hPlain twoGiga_hasDigits true).2.1 hNot,
    (ofName_advertised hTwice twoGiga_hasDigits false).2.2 hEarlier⟩

/-- The frequency after the first of two marks is reported and not the one at the end. -/
theorem ofName_earlierMark :
    '\n' ∉ "A @ 1GHz ".toList ∧ twoGiga.HasDigits Char.isDigit ∧
    ofName ("A @ 1GHz " ++ "@ " ++ String.ofList (twoGiga.text false)) = 1000000000 ∧
    ofText (twoGiga.text false) = 2000000000 :=
  ⟨by decide, twoGiga_hasDigits, by decide +kernel, by decide +kernel⟩

end HardwareReport.Frequency
