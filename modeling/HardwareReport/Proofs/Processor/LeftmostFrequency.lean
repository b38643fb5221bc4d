import HardwareReport.Proofs.Processor.Frequency

/-!
# Processor — the leftmost frequency

A text may hold several frequencies, and numbers that are none for want of a unit. The one that
begins first counts, and it counts alone: the value of a text is that of its leftmost frequency.

Digits of other scripts make a frequency too, but have no value. If the leftmost frequency has one
of them the text has no value, even if a later part of that very frequency would have one.

* `Occurrence.IsLeftmost` — a frequency in a text that begins before all others.

Main results: `find?_eq_some_iff` — the leftmost frequency is found; `ofText_leftmost` — the value
of a text.
-/

namespace HardwareReport.Frequency

variable {s : List Char} {o : Occurrence} {spaced : Bool} {before after : List Char}

/-! ## The leftmost frequency -/

/-- A frequency stands in a text between two parts of it, and no frequency begins before. -/
structure Occurrence.IsLeftmost (o : Occurrence) (spaced : Bool) (s before after : List Char) :
    Prop where
  hasDigits : o.HasDigits Text.isDecimalDigit
  text : s = before ++ (o.text spaced ++ after)
  first : ∀ (other : Occurrence) (otherSpaced : Bool) (front back : List Char),
    other.HasDigits Text.isDecimalDigit → s = front ++ (other.text otherSpaced ++ back) →
      before.length ≤ front.length

/-- To be leftmost is to be read at the first place where a frequency is read. -/
theorem isLeftmost_iff : o.IsLeftmost spaced s before after ↔
    o.HasDigits Text.isDecimalDigit ∧ s = before ++ (o.text spaced ++ after) ∧
      Text.IsFirstPlace (fun back => (occurrenceAt? back).isSome) before
        (o.text spaced ++ after) := by
  constructor
  · intro h
    refine ⟨h.hasDigits, h.text, isSome_occurrenceAt?_iff.mpr ⟨o, spaced, after, h.hasDigits, rfl⟩,
      fun front back hParts hBegins => ?_⟩
    obtain ⟨other, otherSpaced, rest, hDigits, rfl⟩ := isSome_occurrenceAt?_iff.mp hBegins
    exact h.first other otherSpaced front rest hDigits (h.text.trans hParts)
  · rintro ⟨hDigits, hText, hFirst⟩
    refine ⟨hDigits, hText, fun other otherSpaced front back hOther hParts => ?_⟩
    exact hFirst.first front _ (hText.symm.trans hParts)
      (isSome_occurrenceAt?_iff.mpr ⟨other, otherSpaced, back, hOther, rfl⟩)

/-- **The frequency that is found is the leftmost one.** -/
theorem find?_eq_some_iff :
    find? s = some o ↔ ∃ spaced before after, o.IsLeftmost spaced s before after := by
  rw [searchesFromLeft_find?.eq_some_iff]
  simp only [isLeftmost_iff]
  constructor
  · rintro ⟨before, rest, hParts, hRead, hFirst⟩
    obtain ⟨hDigits, spaced, after, rfl⟩ := occurrenceAt?_eq_some_iff.mp hRead
    exact ⟨spaced, before, after, hDigits, hParts, hFirst⟩
  · rintro ⟨spaced, before, after, hDigits, hParts, hFirst⟩
    refine ⟨before, _, hParts, ?_, hFirst⟩
    exact occurrenceAt?_eq_some_iff.mpr ⟨hDigits, spaced, List.prefix_append _ after⟩

/-! ## Values -/

/-- Digits of which one is not a plain one have no value. -/
theorem digitsValue?_eq_none {digits : List Char} {c : Char} (hMem : c ∈ digits)
    (hDigit : c.isDigit = false) : digitsValue? digits = none := by
  suffices hFrom : ∀ first, digits.foldlM
      (fun value c => (Text.digitValue? c).map (value * 10 + ·)) first = none from hFrom 0
  induction digits with
  | nil => exact absurd hMem List.not_mem_nil
  | cons d rest ih =>
    intro first
    rw [List.foldlM_cons]
    cases hFirst : d.isDigit with
    | false => simp [Text.digitValue?, hFirst]
    | true =>
      -- the digit without a value comes later
      have hRest : c ∈ rest := by
        rcases List.mem_cons.mp hMem with rfl | hRest
        · exact absurd hDigit (by simp [hFirst])
        · exact hRest
      rw [Text.digitValue?, if_pos hFirst]
      exact ih hRest _

/-- A frequency with a digit of another script has no value. -/
theorem value?_eq_none {c : Char} (hMem : c ∈ o.whole ++ o.decimals) (hDigit : c.isDigit = false) :
    o.value? = none := by
  rw [Occurrence.value?, digitsValue?_eq_none hMem hDigit, Option.map_none]

theorem ofText_eq_of_value?_eq_none (hFound : find? s = some o) (hValue : o.value? = none) :
    ofText s = -1 := by
  rw [ofText, hFound, Option.bind_some, hValue]

theorem ofText_eq_of_value?_eq_some {hertz : Nat} (hFound : find? s = some o)
    (hValue : o.value? = some hertz) : ofText s = hertz := by
  rw [ofText, hFound, Option.bind_some, hValue]

theorem ofText_eq_neg_one (h : ¬ HasFrequency s) : ofText s = -1 := by
  rw [ofText, find?_eq_none_iff.mpr h, Option.bind_none]

/-! ## The value of a text -/

/-- **The value of a text is that of its leftmost frequency.** A text without a frequency has none.
A text with one has a leftmost one. If that has a digit that is not ASCII, the text has no value,
and otherwise it has the value that this frequency has by itself. So texts with the same leftmost
frequency have the same value, whatever else is in them. -/
theorem ofText_leftmost (s : List Char) :
    (¬ HasFrequency s → ofText s = -1) ∧
    (HasFrequency s → ∃ (o : Occurrence) (spaced : Bool) (before after : List Char),
      o.IsLeftmost spaced s before after) ∧
    ∀ (o : Occurrence) (spaced : Bool) (before after : List Char),
      o.IsLeftmost spaced s before after →
        ((∃ c ∈ o.whole ++ o.decimals, c.isDigit = false) → ofText s = -1) ∧
        ((∀ c ∈ o.whole ++ o.decimals, c.isDigit = true) →
          ofText s = ofText (o.text spaced) ∧ ∃ hertz : Nat, ofText s = hertz) ∧
        ∀ t front back, o.IsLeftmost spaced t front back → ofText t = ofText s := by
  refine ⟨ofText_eq_neg_one, fun hSome => ?_, fun o spaced before after hLeftmost => ?_⟩
  · obtain ⟨o, hFound⟩ := Option.ne_none_iff_exists'.mp fun hNone =>
      find?_eq_none_iff.mp hNone hSome
    exact ⟨o, find?_eq_some_iff.mp hFound⟩
  · have hFound : find? s = some o := find?_eq_some_iff.mpr ⟨spaced, before, after, hLeftmost⟩
    -- the occurrence is found in the text and by itself
    have hAlone : find? (o.text spaced) = some o := find?_text hLeftmost.hasDigits spaced
    refine ⟨?_, fun hAscii => ⟨?_, ?_⟩, fun t front back hOther => ?_⟩
    · rintro ⟨c, hMem, hDigit⟩
      exact ofText_eq_of_value?_eq_none hFound (value?_eq_none hMem hDigit)
    · exact ofText_congr (hFound.trans hAlone.symm)
    · have hDigits : o.HasDigits Char.isDigit :=
        ⟨hLeftmost.hasDigits.whole_ne_nil, fun c hc => hAscii c (List.mem_append_left _ hc),
          fun c hc => hAscii c (List.mem_append_right _ hc)⟩
      obtain ⟨hertz, hValue⟩ := exists_value? hDigits
      exact ⟨hertz, ofText_eq_of_value?_eq_some hFound hValue⟩
    · have hOtherFound : find? t = some o := find?_eq_some_iff.mpr ⟨spaced, front, back, hOther⟩
      exact ofText_congr (hOtherFound.trans hFound.symm)

/-- A frequency glued to an earlier number, and another one after it. -/
def crowdedText : List Char := "1.2.5 GHz 3kHz".toList

theorem isLeftmost_crowdedText : Occurrence.IsLeftmost ⟨['2'], ['5'], .giga⟩ true crowdedText
    ['1', '.'] " 3kHz".toList := by
  rw [isLeftmost_iff, Text.isFirstPlace_cons_iff, Text.isFirstPlace_cons_iff,
    Text.isFirstPlace_nil_iff]
  exact ⟨by decide, by decide, by decide, by decide, by decide⟩

/-- A text with two frequencies, of which the first counts. -/
theorem ofText_leftmost_crowdedText :
    Occurrence.IsLeftmost ⟨['2'], ['5'], .giga⟩ true crowdedText ['1', '.'] " 3kHz".toList ∧
    ofText crowdedText = ofText "2.5 GHz".toList := by
  have hAscii : ∀ c ∈ ['2'] ++ ['5'], c.isDigit = true := List.all_eq_true.mp (by decide)
  exact ⟨isLeftmost_crowdedText,
    (((ofText_leftmost crowdedText).2.2 _ _ _ _ isLeftmost_crowdedText).2.1 hAscii).1⟩

end HardwareReport.Frequency
