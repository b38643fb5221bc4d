import HardwareReport.Linux.Processor
import HardwareReport.Proofs.Text.Line
import HardwareReport.Proofs.Text.Numeral
import Mathlib.Data.List.Forall2

/-!
# Linux — the line with the counters

The kernel's file has a line about all processors, which begins with the word `cpu`, and more lines
that do not matter, among them one for each processor. Of the words on that line the four after the
first one are numerals of 64-bit counters, and what comes after those does not matter either.

So the file is read by two things only: whether there is such a line, and the first words after
`cpu` on the first one (`ticks_eq_of_firstFields`). Everything about the outcome is said of these.

* `HasFields`, `FirstFields` — the words after `cpu` on a line, and on the first such line of a
  file;
* `Printed` — counters as they are printed on a line.

Main result: `ticks_grammar` — which files are read, and what is read from them.
-/

namespace HardwareReport.Linux.Stat

open Text (IsNumeral StandsAsLine)

variable {text : String} {line : List Char} {fields : List (List Char)} {ticks : Ticks}

/-! ## Fields -/

/-- A line is about all processors, and has fields after its first word. -/
def HasFields (line : List Char) (fields : List (List Char)) : Prop :=
  Text.words line = "cpu".toList :: fields

/-- The first line about all processors has these fields. -/
def FirstFields (text : String) (fields : List (List Char)) : Prop :=
  ∃ earlier line later, Text.lines text.toList = earlier ++ line :: later ∧
    HasFields line fields ∧ ∀ other ∈ earlier, ∀ others, ¬ HasFields other others

theorem isAggregate_iff : isAggregate line = true ↔ ∃ fields, HasFields line fields := by
  rw [isAggregate, beq_iff_eq, List.head?_eq_some_iff]
  rfl

theorem not_isAggregate_iff :
    (!isAggregate line) = true ↔ ∀ fields, ¬ HasFields line fields := by
  rw [Bool.not_eq_true', ← Bool.not_eq_true, isAggregate_iff, not_exists]

theorem find?_isAggregate (h : FirstFields text fields) :
    ∃ line, (Text.lines text.toList).find? isAggregate = some line ∧ HasFields line fields := by
  obtain ⟨earlier, line, later, hLines, hFields, hEarlier⟩ := h
  refine ⟨line, ?_, hFields⟩
  rw [List.find?_eq_some_iff_append]
  exact ⟨isAggregate_iff.mpr ⟨fields, hFields⟩, earlier, later, hLines,
    fun other hOther => not_isAggregate_iff.mpr (hEarlier other hOther)⟩

theorem firstFields_of_find? (h : (Text.lines text.toList).find? isAggregate = some line) :
    ∃ fields, HasFields line fields ∧ FirstFields text fields := by
  obtain ⟨hLine, earlier, later, hLines, hEarlier⟩ := List.find?_eq_some_iff_append.mp h
  obtain ⟨fields, hFields⟩ := isAggregate_iff.mp hLine
  exact ⟨fields, hFields, earlier, line, later, hLines, hFields,
    fun other hOther => not_isAggregate_iff.mp (hEarlier other hOther)⟩

/-! ## Counters from fields -/

/-- As many counters are read as are asked for, from numerals at the start of the fields. -/
theorem counters_eq_ok_iff {count : Nat} {values : List UInt64} :
    counters count fields = .ok values ↔
      values.length = count ∧ ∃ used further, fields = used ++ further ∧
        List.Forall₂ (fun field value => IsNumeral field value.toNat) used values := by
  induction count generalizing fields values with
  | zero =>
    rw [counters]
    constructor
    · intro h
      obtain rfl := Except.ok.inj h
      exact ⟨rfl, [], fields, rfl, .nil⟩
    · rintro ⟨hLength, -⟩
      rw [List.eq_nil_of_length_eq_zero hLength]
  | succ count ih =>
    cases fields with
    | nil =>
      refine iff_of_false (by simp [counters]) ?_
      rintro ⟨hLength, used, further, hFields, hNumerals⟩
      obtain ⟨rfl, -⟩ := List.append_eq_nil_iff.mp hFields.symm
      cases hNumerals
      exact absurd hLength (by simp)
    | cons field rest =>
      -- one field gives one counter
      have hStep : counters (count + 1) (field :: rest) = .ok values ↔
          ∃ value others, Text.readUInt64 field = .ok value ∧ counters count rest = .ok others ∧
            values = value :: others := by
        rw [counters]
        cases Text.readUInt64 field with
        | error fault => simp
        | ok value =>
          rw [Answer.map_eq_ok_iff]
          simp [eq_comm]
      rw [hStep]
      constructor
      · rintro ⟨value, others, hField, hRest, rfl⟩
        obtain ⟨hLength, used, further, rfl, hNumerals⟩ := ih.mp hRest
        exact ⟨by rw [List.length_cons, hLength], field :: used, further, rfl,
          .cons (Text.readUInt64_eq_ok_iff.mp hField) hNumerals⟩
      · rintro ⟨hLength, used, further, hFields, hNumerals⟩
        cases hNumerals with
        | nil => exact absurd hLength (by simp)
        | @cons first value used others hFirst hNumerals =>
          obtain ⟨rfl, rfl⟩ := List.cons.inj hFields
          rw [List.length_cons, Nat.add_right_cancel_iff] at hLength
          exact ⟨value, others, Text.readUInt64_eq_ok_iff.mpr hFirst,
            ih.mpr ⟨hLength, used, further, rfl, hNumerals⟩, rfl⟩

/-- Only as many fields are looked at as counters are asked for. -/
theorem counters_take (count : Nat) (fields : List (List Char)) :
    counters count (fields.take count) = counters count fields := by
  induction count generalizing fields with
  | zero => rfl
  | succ count ih =>
    cases fields with
    | nil => rfl
    | cons field rest => rw [List.take_succ_cons, counters, counters, ih]

theorem exists_malformed_of_counters {count : Nat} {error : HardwareError}
    (h : counters count fields = .error error) : ∃ reason, error = malformed reason := by
  induction count generalizing fields with
  | zero => exact absurd h (by simp [counters])
  | succ count ih =>
    cases fields with
    | nil => exact ⟨_, (Except.error.inj h).symm⟩
    | cons field rest =>
      rw [counters] at h
      split at h
      · exact ih (Answer.map_eq_error_iff.mp h)
      · exact ⟨_, (Except.error.inj h).symm⟩

/-! ## A line -/

theorem lineTicks_congr {other : List Char} {others : List (List Char)}
    (hLine : HasFields line fields) (hOther : HasFields other others)
    (hFour : fields.take 4 = others.take 4) : lineTicks line = lineTicks other := by
  have hCounters : counters 4 fields = counters 4 others := by
    rw [← counters_take, hFour, counters_take]
  rw [lineTicks, lineTicks, hLine, hOther, List.drop_one, List.drop_one, List.tail_cons,
    List.tail_cons, hCounters]

theorem lineTicks_eq_ok_iff (h : HasFields line fields) :
    lineTicks line = .ok ticks ↔ counters 4 fields = .ok ticks.toList := by
  rw [lineTicks, h, List.drop_one, List.tail_cons]
  cases hCounters : counters 4 fields with
  | error error => simp
  | ok values =>
    -- four counters are asked for, so there are four
    obtain ⟨hLength, -⟩ := counters_eq_ok_iff.mp hCounters
    rcases values with _ | ⟨user, _ | ⟨nice, _ | ⟨system, _ | ⟨idle, _ | ⟨fifth, rest⟩⟩⟩⟩⟩
    case cons.cons.cons.cons.nil =>
      obtain ⟨u, n, s, i⟩ := ticks
      simp [Ticks.toList]
    all_goals simp at hLength

theorem exists_malformed_of_lineTicks {error : HardwareError} (h : lineTicks line = .error error) :
    ∃ reason, error = malformed reason := by
  rw [lineTicks] at h
  split at h
  · exact absurd h (by simp)
  · exact ⟨_, (Except.error.inj h).symm⟩
  · next hCounters =>
    obtain rfl := Except.error.inj h
    exact exists_malformed_of_counters hCounters

/-! ## A file -/

theorem ticks_eq_lineTicks (h : (Text.lines text.toList).find? isAggregate = some line) :
    Stat.ticks text = lineTicks line := by
  rw [Stat.ticks, h]

/-- Files whose first lines about all processors begin alike are read alike. -/
theorem ticks_eq_of_firstFields {other : String} {others : List (List Char)}
    (hText : FirstFields text fields) (hOther : FirstFields other others)
    (hFour : fields.take 4 = others.take 4) : Stat.ticks text = Stat.ticks other := by
  obtain ⟨line, hFound, hLine⟩ := find?_isAggregate hText
  obtain ⟨otherLine, hOtherFound, hOtherLine⟩ := find?_isAggregate hOther
  rw [ticks_eq_lineTicks hFound, ticks_eq_lineTicks hOtherFound]
  exact lineTicks_congr hLine hOtherLine hFour

/-- A sample is told by the fields of the first line that has any. -/
theorem ticks_eq_ok_iff : Stat.ticks text = .ok ticks ↔
    ∃ fields, FirstFields text fields ∧ counters 4 fields = .ok ticks.toList := by
  constructor
  · intro h
    cases hFound : (Text.lines text.toList).find? isAggregate with
    | none =>
      rw [Stat.ticks, hFound] at h
      exact absurd h (by simp)
    | some line =>
      obtain ⟨fields, hLine, hFirst⟩ := firstFields_of_find? hFound
      rw [ticks_eq_lineTicks hFound, lineTicks_eq_ok_iff hLine] at h
      exact ⟨fields, hFirst, h⟩
  · rintro ⟨fields, hFirst, hCounters⟩
    obtain ⟨line, hFound, hLine⟩ := find?_isAggregate hFirst
    rw [ticks_eq_lineTicks hFound, lineTicks_eq_ok_iff hLine]
    exact hCounters

/-- A file that gives no counters is malformed. -/
theorem exists_malformed_of_ticks (h : ∀ ticks, Stat.ticks text ≠ .ok ticks) :
    ∃ reason, Stat.ticks text = .error (malformed reason) := by
  cases hTicks : Stat.ticks text with
  | ok ticks => exact absurd hTicks (h ticks)
  | error error =>
    rw [Stat.ticks] at hTicks
    split at hTicks
    · obtain ⟨reason, rfl⟩ := exists_malformed_of_lineTicks hTicks
      exact ⟨reason, rfl⟩
    · exact ⟨_, hTicks.symm⟩

/-- Four counters are read from four numerals, whatever comes after them. -/
theorem counters_four_iff : counters 4 fields = .ok ticks.toList ↔
    ∃ user nice system idle further, fields = user :: nice :: system :: idle :: further ∧
      IsNumeral user ticks.user.toNat ∧ IsNumeral nice ticks.nice.toNat ∧
      IsNumeral system ticks.system.toNat ∧ IsNumeral idle ticks.idle.toNat := by
  have hFour : ticks.toList.length = 4 := rfl
  rw [counters_eq_ok_iff, and_iff_right hFour]
  constructor
  · rintro ⟨used, further, rfl, hNumerals⟩
    -- the words go with the counters one by one
    obtain ⟨user, _, hUser, hThree, rfl⟩ := List.forall₂_cons_right_iff.mp hNumerals
    obtain ⟨nice, _, hNice, hTwo, rfl⟩ := List.forall₂_cons_right_iff.mp hThree
    obtain ⟨system, _, hSystem, hOne, rfl⟩ := List.forall₂_cons_right_iff.mp hTwo
    obtain ⟨idle, _, hIdle, hNone, rfl⟩ := List.forall₂_cons_right_iff.mp hOne
    obtain rfl := List.forall₂_nil_right_iff.mp hNone
    exact ⟨user, nice, system, idle, further, rfl, hUser, hNice, hSystem, hIdle⟩
  · rintro ⟨user, nice, system, idle, further, rfl, hUser, hNice, hSystem, hIdle⟩
    exact ⟨[user, nice, system, idle], further, rfl,
      .cons hUser (.cons hNice (.cons hSystem (.cons hIdle .nil)))⟩

/-! ## Printed counters -/

/-- White space that separates words. -/
structure IsGap (gap : List Char) : Prop where
  ne_nil : gap ≠ []
  isBlank : ∀ c ∈ gap, Text.isBlank c = true

/-- Counters in decimal digits, each after a gap, and whatever comes after them. -/
def spread : List (List Char × UInt64) → List Char → List Char
  | [], further => further
  | (gap, counter) :: rest, further =>
    gap ++ (Nat.toDigits 10 counter.toNat ++ spread rest further)

/-- Counters are printed on a line: the word `cpu`, the counters in decimal digits, and whatever
comes after them, all with white space between them. -/
def Printed (ticks : Ticks) (line : List Char) : Prop :=
  ∃ lead gapped further, line = lead ++ ("cpu".toList ++ spread gapped further) ∧
    gapped.map Prod.snd = ticks.toList ∧ (∀ c ∈ lead, Text.isBlank c = true) ∧
    (∀ field ∈ gapped, IsGap field.1) ∧ ∀ c ∈ further.head?, Text.isBlank c = true

section Spread

variable {gapped : List (List Char × UInt64)} {further : List Char}
  (hGaps : ∀ field ∈ gapped, IsGap field.1) (hStop : ∀ c ∈ further.head?, Text.isBlank c = true)
include hGaps hStop

theorem isBlank_head?_spread : ∀ c ∈ (spread gapped further).head?, Text.isBlank c = true := by
  cases gapped with
  | nil => exact hStop
  | cons field rest =>
    obtain ⟨gap, counter⟩ := field
    have hGap := hGaps _ List.mem_cons_self
    obtain ⟨first, others, rfl⟩ := List.exists_cons_of_ne_nil hGap.ne_nil
    intro c hc
    obtain rfl : first = c := Option.some.inj hc
    exact hGap.isBlank first List.mem_cons_self

theorem words_spread : Text.words (spread gapped further) =
    gapped.map (fun field => Nat.toDigits 10 field.2.toNat) ++ Text.words further := by
  induction gapped with
  | nil => rfl
  | cons field rest ih =>
    obtain ⟨gap, counter⟩ := field
    obtain ⟨hGap, hRest⟩ := List.forall_mem_cons.mp hGaps
    have hDigits : ∀ c ∈ Nat.toDigits 10 counter.toNat, Text.isBlank c = false := fun c hc =>
      Text.isBlank_eq_false_of_isDigit (Nat.isDigit_of_mem_toDigits (by decide) (by decide) hc)
    rw [spread, Text.words_blank_append hGap.isBlank,
      Text.words_append Nat.toDigits_ne_nil hDigits (isBlank_head?_spread hRest hStop), ih hRest]
    rfl

end Spread

/-- The fields of a line that counters are printed on begin with the counters. -/
theorem Printed.exists_hasFields (h : Printed ticks line) :
    ∃ further, HasFields line (ticks.toList.map (fun counter => Nat.toDigits 10 counter.toNat) ++
      further) := by
  obtain ⟨lead, gapped, further, rfl, hTicks, hLead, hGaps, hStop⟩ := h
  refine ⟨Text.words further, ?_⟩
  have hAny : "cpu".toList.any Text.isBlank = false := by decide
  have hCpu : ∀ c ∈ "cpu".toList, Text.isBlank c = false := fun c hc =>
    Bool.eq_false_iff.mpr (List.any_eq_false.mp hAny c hc)
  rw [HasFields, Text.words_blank_append hLead,
    Text.words_append (by decide) hCpu (isBlank_head?_spread hGaps hStop),
    words_spread hGaps hStop, ← hTicks, List.map_map]
  rfl

theorem Printed.ne_nil (h : Printed ticks line) : line ≠ [] := by
  rintro rfl
  obtain ⟨further, hFields⟩ := h.exists_hasFields
  exact absurd hFields (by simp [HasFields, Text.words, Text.pieces])

/-- Printed counters are read back, whatever stands around their line. -/
theorem ticks_of_printed {before after : List Char} (hPrinted : Printed ticks line)
    (hLine : StandsAsLine before line after)
    (hBefore : ∀ other ∈ Text.lines before, ∀ others, ¬ HasFields other others) :
    Stat.ticks (String.ofList (before ++ (line ++ after))) = .ok ticks := by
  obtain ⟨further, hFields⟩ := hPrinted.exists_hasFields
  obtain ⟨shown, later, hLines, hWords⟩ := Text.exists_lines_append hLine hPrinted.ne_nil
  rw [ticks_eq_ok_iff]
  refine ⟨_, ⟨Text.lines before, shown, later, ?_, hWords.trans hFields, hBefore⟩, ?_⟩
  · rw [String.toList_ofList, hLines]
  · rw [counters_four_iff]
    exact ⟨_, _, _, _, further, rfl, Text.isNumeral_toDigits _, Text.isNumeral_toDigits _,
      Text.isNumeral_toDigits _, Text.isNumeral_toDigits _⟩

/-! ## The grammar -/

/-- **Which files give counters.** Those are read whose first line with `cpu` as its first word has
numerals of four 64-bit counters as its next words, and these are the counters. Every other file is
malformed. Whatever else is in a file does not matter: files are read alike if the first such lines
of both have the same four words after `cpu`, or the same fewer. So counters printed on such a line
are read back, with anything around it but an earlier line of the kind. -/
theorem ticks_grammar (text : String) :
    (∀ ticks : Ticks, Stat.ticks text = .ok ticks ↔
      ∃ user nice system idle further,
        FirstFields text (user :: nice :: system :: idle :: further) ∧
        IsNumeral user ticks.user.toNat ∧ IsNumeral nice ticks.nice.toNat ∧
        IsNumeral system ticks.system.toNat ∧ IsNumeral idle ticks.idle.toNat) ∧
    ((∀ ticks, Stat.ticks text ≠ .ok ticks) →
      ∃ reason, Stat.ticks text = .error (.malformedData "/proc/stat" reason)) ∧
    (∀ other fields others, FirstFields text fields → FirstFields other others →
      fields.take 4 = others.take 4 → Stat.ticks text = Stat.ticks other) ∧
    ∀ ticks before line after, text = String.ofList (before ++ (line ++ after)) →
      StandsAsLine before line after → Printed ticks line →
      (∀ other ∈ Text.lines before, ∀ others, ¬ HasFields other others) →
      Stat.ticks text = .ok ticks := by
  refine ⟨fun ticks => ?_, exists_malformed_of_ticks, ?_, ?_⟩
  · rw [ticks_eq_ok_iff]
    simp only [counters_four_iff]
    constructor
    · rintro ⟨_, hFirst, user, nice, system, idle, further, rfl, hNumerals⟩
      exact ⟨user, nice, system, idle, further, hFirst, hNumerals⟩
    · rintro ⟨user, nice, system, idle, further, hFirst, hNumerals⟩
      exact ⟨_, hFirst, user, nice, system, idle, further, rfl, hNumerals⟩
  · exact fun other fields others => ticks_eq_of_firstFields
  · rintro ticks before line after rfl hLine hPrinted hBefore
    exact ticks_of_printed hPrinted hLine hBefore

/-- Counters up to the greatest, among which one is at its end. -/
def fullTicks : Ticks := ⟨1, 0, 18446744073709551615, 4⟩

/-- A line with these counters and a word that is no numeral after them. -/
def fullLine : List Char := " cpu\t1 0  18446744073709551615 4 x".toList

theorem printed_fullLine : Printed fullTicks fullLine := by
  have hTab : IsGap ['\t'] := ⟨by decide, List.all_eq_true.mp (by decide)⟩
  have hSpace : IsGap [' '] := ⟨by decide, List.all_eq_true.mp (by decide)⟩
  have hSpaces : IsGap [' ', ' '] := ⟨by decide, List.all_eq_true.mp (by decide)⟩
  refine ⟨[' '], [(['\t'], 1), ([' '], 0), ([' ', ' '], 18446744073709551615), ([' '], 4)],
    [' ', 'x'], by decide +kernel, rfl, hSpace.isBlank, ?_, ?_⟩
  · simp [hTab, hSpace, hSpaces]
  · intro c hc
    obtain rfl := Option.some.inj hc
    decide

/-- A line of counters after one of a single processor and before one that is not looked at. -/
theorem ticks_grammar_fullLine :
    StandsAsLine "cpu0 1\n".toList fullLine "\ncpu 9 9 9 9".toList ∧
    Printed fullTicks fullLine ∧
    (∀ other ∈ Text.lines "cpu0 1\n".toList, ∀ others, ¬ HasFields other others) ∧
    Stat.ticks (String.ofList ("cpu0 1\n".toList ++ (fullLine ++ "\ncpu 9 9 9 9".toList))) =
      .ok fullTicks := by
  have hLine : StandsAsLine "cpu0 1\n".toList fullLine "\ncpu 9 9 9 9".toList := by
    refine ⟨?_, by decide, ?_⟩
    all_goals
      intro c hc
      exact (Option.some.inj hc).symm
  have hBefore : ∀ other ∈ Text.lines "cpu0 1\n".toList, ∀ others, ¬ HasFields other others := by
    have hLines : Text.lines "cpu0 1\n".toList = ["cpu0 1".toList] := by decide
    rw [hLines]
    intro other hOther
    rw [List.mem_singleton.mp hOther]
    exact not_isAggregate_iff.mp (by decide)
  exact ⟨hLine, printed_fullLine, hBefore,
    (ticks_grammar _).2.2.2 fullTicks _ _ _ rfl hLine printed_fullLine hBefore⟩

end HardwareReport.Linux.Stat
