import HardwareReport.Sensors
import Mathlib.Data.List.Basic
import Mathlib.Data.Nat.Find
import Mathlib.Data.Prod.Lex

/-!
# Sensors — which one stands for the processor

The search goes through the hints and, for each of them, through the sensors. That comes to choosing
among the sensors that show a temperature and have a hint: the most specific hint of each label is
its rank, and the least pair of rank and position is taken. A sensor with a good hint that shows
nothing stands in no one's way.

* `HasRank` — the place that the most specific hint of a label has among the hints;
* `IsCandidate` — a position of a list with a sensor of a rank that shows a temperature;
* `IsChosen` — the candidate with the least rank, and the first of those.

Main result: `ofProcessor?_least`.
-/

namespace HardwareReport

/-- A search finds something at the first place that has anything. -/
theorem findSome?_eq_some_iff_getElem? {α β : Type} {f : α → Option β} {list : List α} {b : β} :
    list.findSome? f = some b ↔
      ∃ (i : Nat) (a : α), list[i]? = some a ∧ f a = some b ∧
        ∀ j < i, ∀ c, list[j]? = some c → f c = none := by
  rw [List.findSome?_eq_some_iff]
  constructor
  · rintro ⟨before, a, after, rfl, hFound, hNone⟩
    refine ⟨before.length, a, by simp, hFound, fun j hj c hc => ?_⟩
    rw [List.getElem?_append_left hj] at hc
    exact hNone c (List.mem_of_getElem? hc)
  · rintro ⟨i, a, hAt, hFound, hNone⟩
    obtain ⟨hi, rfl⟩ := List.getElem?_eq_some_iff.mp hAt
    -- the list is cut at the place
    refine ⟨list.take i, list[i], list.drop (i + 1), ?_, hFound, fun c hc => ?_⟩
    · rw [List.getElem_cons_drop, List.take_append_drop]
    · obtain ⟨j, hj, rfl⟩ := List.mem_take_iff_getElem.mp hc
      exact hNone j (by omega) _ (List.getElem?_eq_getElem (by omega))

namespace Temperature

/-! ## Ranks -/

/-- The lower-case form of the label contains a hint. -/
def IsHinted (hint : String) (reading : Temperature) : Prop :=
  hint.toList <:+: Text.lower reading.label.toList

/-- The most specific hint of a label has a place among the hints. -/
structure HasRank (reading : Temperature) (rank : Nat) : Prop where
  here : ∃ hint, processorHints[rank]? = some hint ∧ IsHinted hint reading
  first : ∀ better < rank, ∀ hint, processorHints[better]? = some hint → ¬ IsHinted hint reading

/-- A position of a list has a sensor with a rank and a temperature to show. -/
def IsCandidate (readings : List Temperature) (rank position : Nat) (celsius : Float32) : Prop :=
  ∃ reading, readings[position]? = some reading ∧ reading.celsius = some celsius ∧
    reading.HasRank rank

/-- A temperature is shown by the candidate with the least rank, and by the first one of these. -/
def IsChosen (readings : List Temperature) (celsius : Float32) : Prop :=
  ∃ rank position, IsCandidate readings rank position celsius ∧
    ∀ rank' position' celsius', IsCandidate readings rank' position' celsius' →
      toLex (rank, position) ≤ toLex (rank', position')

/-- A sensor says something about the processor. -/
def Counts (reading : Temperature) : Prop :=
  reading.celsius.isSome ∧ ∃ hint ∈ processorHints, IsHinted hint reading

variable {readings : List Temperature} {reading : Temperature} {hint : String} {celsius : Float32}

theorem hasHint_iff : hasHint hint reading = true ↔ IsHinted hint reading :=
  Text.contains_iff_isInfix

/-- A label with a hint has a most specific one. -/
theorem exists_hasRank (hMem : hint ∈ processorHints) (hHint : IsHinted hint reading) :
    ∃ rank, reading.HasRank rank := by
  obtain ⟨place, hPlace⟩ := List.mem_iff_getElem?.mp hMem
  have hSome : ∃ rank, ∃ hint, processorHints[rank]? = some hint ∧ IsHinted hint reading :=
    ⟨place, hint, hPlace, hHint⟩
  classical
  refine ⟨Nat.find hSome, Nat.find_spec hSome, fun better hBetter other hOther hHinted => ?_⟩
  exact Nat.find_min hSome hBetter ⟨other, hOther, hHinted⟩

theorem exists_isCandidate_iff :
    (∃ rank position celsius, IsCandidate readings rank position celsius) ↔
      ∃ reading ∈ readings, reading.Counts := by
  constructor
  · rintro ⟨rank, position, celsius, reading, hAt, hCelsius, ⟨hint, hHint, hHinted⟩, -⟩
    exact ⟨reading, List.mem_of_getElem? hAt, Option.isSome_of_eq_some hCelsius, hint,
      List.mem_of_getElem? hHint, hHinted⟩
  · rintro ⟨reading, hMem, hShown, hint, hHint, hHinted⟩
    obtain ⟨position, hAt⟩ := List.mem_iff_getElem?.mp hMem
    obtain ⟨celsius, hCelsius⟩ := Option.isSome_iff_exists.mp hShown
    obtain ⟨rank, hRank⟩ := exists_hasRank hHint hHinted
    exact ⟨rank, position, celsius, reading, hAt, hCelsius, hRank⟩

/-! ## The search -/

/-- What the search for one hint finds. -/
def found? (readings : List Temperature) (hint : String) : Option Float32 :=
  (readings.filter (hasHint hint)).findSome? (·.celsius)

theorem ofProcessor?_eq : ofProcessor? readings = processorHints.findSome? (found? readings) :=
  rfl

theorem found?_eq_none_iff :
    found? readings hint = none ↔
      ∀ reading ∈ readings, IsHinted hint reading → reading.celsius = none := by
  simp only [found?, List.findSome?_eq_none_iff, List.mem_filter, hasHint_iff, and_imp]

theorem found?_eq_some_iff :
    found? readings hint = some celsius ↔
      ∃ (position : Nat) (reading : Temperature), readings[position]? = some reading ∧
        IsHinted hint reading ∧ reading.celsius = some celsius ∧
        ∀ earlier < position, ∀ other, readings[earlier]? = some other →
          IsHinted hint other → other.celsius = none := by
  have hInside : found? readings hint =
      readings.findSome? fun reading => if hasHint hint reading then reading.celsius else none := by
    rw [found?, ← List.head?_filterMap, ← List.head?_filterMap, List.filterMap_filter]
  rw [hInside, findSome?_eq_some_iff_getElem?]
  simp only [← hasHint_iff, ite_eq_right_iff, Option.ite_none_right_eq_some, and_assoc]

/-- What the search finds is shown by the least candidate. -/
theorem isChosen_of_eq_some (h : ofProcessor? readings = some celsius) :
    IsChosen readings celsius := by
  rw [ofProcessor?_eq, findSome?_eq_some_iff_getElem?] at h
  obtain ⟨rank, hint, hHint, hFound, hNone⟩ := h
  obtain ⟨position, reading, hAt, hHinted, hCelsius, hEarlier⟩ := found?_eq_some_iff.mp hFound
  -- no sensor that shows anything has a better hint, as the search for that would have found it
  have hBetter : ∀ better < rank, ∀ other, processorHints[better]? = some other →
      ∀ sensor ∈ readings, IsHinted other sensor → sensor.celsius = none :=
    fun better hLess other hOther => found?_eq_none_iff.mp (hNone better hLess other hOther)
  have hRank : reading.HasRank rank := by
    refine ⟨⟨hint, hHint, hHinted⟩, fun better hLess other hOther hOtherHinted => ?_⟩
    have hShowsNot := hBetter better hLess other hOther reading (List.mem_of_getElem? hAt)
      hOtherHinted
    exact absurd (hCelsius.symm.trans hShowsNot) (Option.some_ne_none celsius)
  refine ⟨rank, position, ⟨reading, hAt, hCelsius, hRank⟩, ?_⟩
  rintro rank' position' celsius' ⟨sensor, hSensor, hShown, ⟨other, hOther, hOtherHinted⟩, -⟩
  rw [Prod.Lex.toLex_le_toLex]
  rcases lt_trichotomy rank rank' with hLess | rfl | hMore
  · exact .inl hLess
  · obtain rfl : hint = other := Option.some.inj (hHint.symm.trans hOther)
    refine .inr ⟨rfl, not_lt.mp fun hLess => ?_⟩
    have hShowsNot := hEarlier position' hLess sensor hSensor hOtherHinted
    exact absurd (hShown.symm.trans hShowsNot) (Option.some_ne_none celsius')
  · have hShowsNot := hBetter rank' hMore other hOther sensor (List.mem_of_getElem? hSensor)
      hOtherHinted
    exact absurd (hShown.symm.trans hShowsNot) (Option.some_ne_none celsius')

/-- There is one least candidate at most. -/
theorem IsChosen.unique {celsius' : Float32} (h : IsChosen readings celsius)
    (h' : IsChosen readings celsius') : celsius = celsius' := by
  obtain ⟨rank, position, hCandidate, hLeast⟩ := h
  obtain ⟨rank', position', hCandidate', hLeast'⟩ := h'
  have hSame := le_antisymm (hLeast rank' position' celsius' hCandidate')
    (hLeast' rank position celsius hCandidate)
  obtain ⟨-, rfl⟩ := Prod.mk.inj (toLex.injective hSame)
  obtain ⟨reading, hAt, hCelsius, -⟩ := hCandidate
  obtain ⟨reading', hAt', hCelsius', -⟩ := hCandidate'
  obtain rfl : reading = reading' := Option.some.inj (hAt.symm.trans hAt')
  exact Option.some.inj (hCelsius.symm.trans hCelsius')

theorem isSome_ofProcessor?_iff :
    (ofProcessor? readings).isSome = true ↔ ∃ reading ∈ readings, reading.Counts := by
  constructor
  · intro h
    obtain ⟨celsius, hFound⟩ := Option.isSome_iff_exists.mp h
    obtain ⟨rank, position, hCandidate, -⟩ := isChosen_of_eq_some hFound
    exact exists_isCandidate_iff.mp ⟨rank, position, celsius, hCandidate⟩
  · rintro ⟨reading, hMem, hShown, hint, hHint, hHinted⟩
    rw [ofProcessor?_eq, List.isSome_findSome?, List.any_eq_true]
    refine ⟨hint, hHint, Option.isSome_iff_ne_none.mpr fun hNone => ?_⟩
    rw [found?_eq_none_iff.mp hNone reading hMem hHinted] at hShown
    exact absurd hShown Bool.false_ne_true

theorem ofProcessor?_eq_some_iff :
    ofProcessor? readings = some celsius ↔ IsChosen readings celsius := by
  refine ⟨isChosen_of_eq_some, fun h => ?_⟩
  obtain ⟨rank, position, hCandidate, -⟩ := id h
  have hSome := isSome_ofProcessor?_iff.mpr
    (exists_isCandidate_iff.mp ⟨rank, position, celsius, hCandidate⟩)
  obtain ⟨celsius', hFound⟩ := Option.isSome_iff_exists.mp hSome
  rw [hFound, (isChosen_of_eq_some hFound).unique h]

/-- What the search finds depends on the searches for the hints alone. -/
theorem ofProcessor?_congr {others : List Temperature}
    (h : ∀ hint ∈ processorHints, found? readings hint = found? others hint) :
    ofProcessor? readings = ofProcessor? others := by
  rw [ofProcessor?_eq, ofProcessor?_eq, ← List.head?_filterMap, ← List.head?_filterMap,
    List.filterMap_congr h]

/-- Sensors that say nothing about the processor are passed over. -/
theorem ofProcessor?_append {before inserted after : List Temperature}
    (hIdle : ∀ reading ∈ inserted, ¬ reading.Counts) :
    ofProcessor? (before ++ inserted ++ after) = ofProcessor? (before ++ after) := by
  refine ofProcessor?_congr fun hint hHint => ?_
  have hNone : found? inserted hint = none := by
    refine found?_eq_none_iff.mpr fun reading hMem hHinted => ?_
    by_contra hShown
    exact hIdle reading hMem ⟨Option.isSome_iff_ne_none.mpr hShown, hint, hHint, hHinted⟩
  rw [found?] at hNone
  simp only [found?, List.filter_append, List.findSome?_append, hNone, Option.or_none]

/-- **The sensor that stands for the processor.** There is one exactly if some sensor that shows a
temperature has a hint in its label. It is then the one with the most specific hint, and of several
such the first. So it makes no difference to the temperature of the processor whether, and where,
a list has sensors that show nothing or have no hint. -/
theorem ofProcessor?_least (readings : List Temperature) :
    ((ofProcessor? readings).isSome = true ↔ ∃ reading ∈ readings, reading.Counts) ∧
    (∀ celsius, ofProcessor? readings = some celsius ↔ IsChosen readings celsius) ∧
    ∀ before inserted after, readings = before ++ inserted ++ after →
      (∀ reading ∈ inserted, ¬ reading.Counts) →
        ofProcessor? readings = ofProcessor? (before ++ after) := by
  refine ⟨isSome_ofProcessor?_iff, fun celsius => ofProcessor?_eq_some_iff, ?_⟩
  rintro before inserted after rfl hIdle
  exact ofProcessor?_append hIdle

/-- A sensor with a good hint that shows nothing, and one without a hint, between two others. -/
def idleSensors : List Temperature :=
  [⟨"k10temp Tctl", none, none⟩, ⟨"nvme Composite", some 40, none⟩]

theorem not_counts_idleSensors : ∀ reading ∈ idleSensors, ¬ reading.Counts := by
  have hNoHint : ∀ hint ∈ processorHints, ¬ IsHinted hint ⟨"nvme Composite", some 40, none⟩ := by
    simp only [← hasHint_iff]
    decide
  rintro reading hMem ⟨hShown, hint, hHint, hHinted⟩
  rcases List.mem_pair.mp hMem with rfl | rfl
  · exact absurd hShown Bool.false_ne_true
  · exact hNoHint hint hHint hHinted

/-- Sensors that do not count, between two that do. -/
theorem ofProcessor?_least_idleSensors :
    (∀ reading ∈ idleSensors, ¬ reading.Counts) ∧
    ofProcessor? ([⟨"CPU", some 48, none⟩] ++ idleSensors ++
        [⟨"coretemp Core 0", some 51, none⟩]) =
      ofProcessor? [⟨"CPU", some 48, none⟩, ⟨"coretemp Core 0", some 51, none⟩] ∧
    ofProcessor? [⟨"CPU", some 48, none⟩, ⟨"coretemp Core 0", some 51, none⟩] = some 51 :=
  ⟨not_counts_idleSensors, (ofProcessor?_least _).2.2 _ _ _ rfl not_counts_idleSensors, by
    decide +kernel⟩

end Temperature

end HardwareReport
