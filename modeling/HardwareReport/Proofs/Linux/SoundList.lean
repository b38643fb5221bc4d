import HardwareReport.Linux.Sound
import HardwareReport.Proofs.Text.Line
import HardwareReport.Proofs.Text.Numeral

/-!
# Linux — the list of sound cards

The kernel's list has a line for each card, which may be followed by lines with details. A card is
read by cutting its line at separators, each time at the first one, and the parts of a line may hold
separators as well: a name may have the dash in it that comes between driver and name, and names may
have the bracket with which an id ends. The parts are still found, because what stands in front of a
separator's place has none.

* `IsDetail` — a line that does not begin with the number of a card;
* `CardEntry` — a card as it stands on the list;
* `CardEntry.line`, `cardList` — how it is written.

Main result: `asoundCards_cardList` — the cards on a list are those that were written on it.
-/

namespace HardwareReport.Linux

/-! ## The list -/

/-- What a line begins with: everything up to a space, after white space in front. -/
def firstWord (line : List Char) : List Char :=
  (line.dropWhile Text.isBlank).takeWhile (· != ' ')

/-- A line that does not begin with the number of a card. -/
structure IsDetail (line : List Char) : Prop where
  whole : '\n' ∉ line
  noNumber : ∀ index : UInt32, ¬ Text.IsNumeral (firstWord line) index.toNat

/-- A card as it stands on the list, with the lines that tell more about it. -/
structure CardEntry where
  card : AsoundCard
  /-- How many spaces stand in front of the number. -/
  indent : Nat
  number : List Char
  id : List Char
  details : List (List Char)
  number_isNumeral : Text.IsNumeral number card.index.toNat
  id_whole : '\n' ∉ id
  id_open : ¬ [']', ':'] <:+: id
  driver_ne_nil : card.driver.toList ≠ []
  driver_word : ∀ c ∈ card.driver.toList, Text.isBlank c = false
  driver_ne_dash : card.driver.toList ≠ ['-']
  name_whole : '\n' ∉ card.name.toList
  name_trimmed : Text.trim card.name = card.name
  details_isDetail : ∀ line ∈ details, IsDetail line

/-- The line of a card, such as ` 0 [PCH ]: HDA-Intel - HDA Intel PCH`. -/
def CardEntry.line (entry : CardEntry) : List Char :=
  List.replicate entry.indent ' ' ++ (entry.number ++ ' ' :: ('[' :: entry.id ++ [']', ':'] ++
    (' ' :: entry.card.driver.toList ++ [' ', '-', ' '] ++ entry.card.name.toList)))

/-- The list of cards. -/
def cardList (entries : List CardEntry) : String :=
  String.ofList ((entries.flatMap fun entry => entry.line :: entry.details).flatMap
    fun line => line ++ ['\n'])

/-! ## Separators -/

/-- The bracket that ends an id is the first one with a colon after it. -/
theorem not_infix_idEnd {id : List Char} (h : ¬ [']', ':'] <:+: id) :
    ¬ [']', ':'] <:+: '[' :: id ++ [']', ':'].dropLast := by
  show ¬ [']', ':'] <:+: '[' :: id ++ [']']
  rw [List.infix_concat_iff, List.infix_cons_iff, List.suffix_concat_iff]
  rintro (⟨hNil | ⟨front, hFront, -⟩⟩ | hStart | hInfix)
  · exact absurd hNil (by decide)
  · -- an id cannot end in the colon that comes after it
    have hLast := congrArg List.getLast? hFront
    rw [List.getLast?_concat] at hLast
    exact absurd hLast (by decide)
  · exact absurd (List.cons_prefix_cons.mp hStart).1 (by decide)
  · exact h hInfix

/-- The dash after a driver is the first one between spaces. -/
theorem not_infix_dash {driver : List Char} (hSome : driver ≠ [])
    (hWord : ∀ c ∈ driver, Text.isBlank c = false) (hDash : driver ≠ ['-']) :
    ¬ [' ', '-', ' '] <:+: ' ' :: driver ++ [' ', '-', ' '].dropLast := by
  show ¬ [' ', '-', ' '] <:+: ' ' :: driver ++ [' ', '-']
  have hNoSpace : ' ' ∉ driver := fun hMem => absurd (hWord ' ' hMem) (by decide)
  obtain ⟨first, rest, rfl⟩ := List.exists_cons_of_ne_nil hSome
  rw [List.mem_cons, not_or] at hNoSpace
  rintro ⟨before, after, hParts⟩
  cases before with
  | nil =>
    -- a dash right after the space would be the whole driver
    obtain ⟨rfl, hRest⟩ : '-' = first ∧ ' ' :: after = rest ++ [' ', '-'] := by simpa using hParts
    cases rest with
    | nil => exact hDash rfl
    | cons next others =>
      obtain rfl : ' ' = next := (List.cons.inj hRest).1
      exact hNoSpace.2 List.mem_cons_self
  | cons c before =>
    -- after the driver there is one space left, and a dash between spaces needs two
    have hTail : before ++ [' ', '-', ' '] ++ after = first :: rest ++ [' ', '-'] :=
      (List.cons.inj hParts).2
    have hCount := congrArg (List.count ' ') hTail
    have hDriver : (first :: rest).count ' ' = 0 :=
      List.count_eq_zero.mpr fun hMem => (List.mem_cons.mp hMem).elim hNoSpace.1 hNoSpace.2
    simp only [List.count_append, hDriver] at hCount
    have hTwo : List.count ' ' [' ', '-', ' '] = 2 := by decide
    have hOne : List.count ' ' [' ', '-'] = 1 := by decide
    omega

/-! ## Lines -/

/-- A line is cut three times, and what is cut off first has to be a number. -/
theorem asoundCard?_eq (line : List Char) :
    asoundCard? line =
      (Text.splitOnce? [' '] (line.dropWhile Text.isBlank)).bind fun parts =>
        (Text.readUInt32 parts.1).toOption.bind fun index =>
          (Text.splitOnce? [']', ':'] parts.2).bind fun described =>
            (Text.splitOnce? [' ', '-', ' '] described.2).map fun names =>
              ⟨index, Text.trimmed names.1, Text.trimmed names.2⟩ := by
  simp only [Option.map_eq_bind]
  rfl

/-- A line gives the card that was written on it. -/
theorem asoundCard?_line (entry : CardEntry) : asoundCard? entry.line = some entry.card := by
  let names := ' ' :: entry.card.driver.toList ++ [' ', '-', ' '] ++ entry.card.name.toList
  have hStart : entry.line.dropWhile Text.isBlank =
      entry.number ++ ' ' :: ('[' :: entry.id ++ [']', ':'] ++ names) := by
    refine Text.dropWhile_append_of_stop ?_ ?_
    · intro c hc
      rw [List.eq_of_mem_replicate hc]
      decide
    · obtain ⟨first, others, hFirst⟩ := List.exists_cons_of_ne_nil entry.number_isNumeral.ne_nil
      have hMem : first ∈ entry.number := by rw [hFirst]; exact List.mem_cons_self
      rw [hFirst]
      intro c hc
      obtain rfl : first = c := Option.some.inj hc
      exact entry.number_isNumeral.isBlank_eq_false first hMem
  -- the line is divided at the first blank, then after the id, then before the name
  have hNumber : Text.splitOnce? [' '] (entry.line.dropWhile Text.isBlank) =
      some (entry.number, '[' :: entry.id ++ [']', ':'] ++ names) :=
    Text.splitOnce?_singleton_eq_some_iff.mpr
      ⟨fun hMem => absurd (entry.number_isNumeral.isBlank_eq_false ' ' hMem) (by decide), hStart⟩
  have hId : Text.splitOnce? [']', ':'] ('[' :: entry.id ++ [']', ':'] ++ names) =
      some ('[' :: entry.id, names) :=
    (Text.splitOnce?_eq_some_iff (by decide)).mpr ⟨rfl, not_infix_idEnd entry.id_open⟩
  have hNames : Text.splitOnce? [' ', '-', ' '] names =
      some (' ' :: entry.card.driver.toList, entry.card.name.toList) :=
    (Text.splitOnce?_eq_some_iff (by decide)).mpr
      ⟨rfl, not_infix_dash entry.driver_ne_nil entry.driver_word entry.driver_ne_dash⟩
  have hIndex : Text.readUInt32 entry.number = .ok entry.card.index :=
    Text.readUInt32_eq_ok_iff.mpr entry.number_isNumeral
  have hDriver : Text.trimmed (' ' :: entry.card.driver.toList) = entry.card.driver := by
    rw [Text.trimmed, Text.trimEnds_cons_of_pos _ (by decide), Text.trimEnds_eq_self,
      String.ofList_toList]
    · exact fun c hc => entry.driver_word c (List.mem_of_mem_head? hc)
    · exact fun c hc => entry.driver_word c (List.mem_of_mem_getLast? hc)
  have hName : Text.trimmed entry.card.name.toList = entry.card.name := entry.name_trimmed
  rw [asoundCard?_eq, hNumber, Option.bind_some, hIndex]
  show (Text.splitOnce? [']', ':'] _).bind _ = _
  rw [hId, Option.bind_some, hNames, Option.map_some, hDriver, hName]

/-- The second line of a card is never taken for the first line of another. -/
theorem asoundCard?_detail {line : List Char} (h : IsDetail line) : asoundCard? line = none := by
  rw [asoundCard?_eq, Option.bind_eq_none_iff]
  rintro ⟨number, rest⟩ hSplit
  obtain ⟨hNoSpace, hLine⟩ := Text.splitOnce?_singleton_eq_some_iff.mp hSplit
  have hFirst : firstWord line = number := by
    rw [firstWord, hLine]
    refine Text.takeWhile_append_of_stop ?_ ?_
    · intro c hc
      rw [bne_iff_ne]
      rintro rfl
      exact hNoSpace hc
    · intro c hc
      obtain rfl : ' ' = c := Option.some.inj hc
      decide
  -- the first word is what is taken for the number
  cases hRead : Text.readUInt32 number with
  | error fault => rfl
  | ok index =>
    rw [← hFirst, Text.readUInt32_eq_ok_iff] at hRead
    exact absurd hRead (h.noNumber index)

/-- A carriage return at the end of a line is trimmed with the name. -/
theorem asoundCard?_concat_return (line : List Char) :
    asoundCard? (line ++ ['\r']) = asoundCard? line := by
  have hTrim : ∀ name, Text.trimmed (name ++ ['\r']) = Text.trimmed name := fun name =>
    congrArg String.ofList (Text.trimEnds_concat_of_pos name (by decide))
  have hReturn : Text.isBlank '\r' = true := by decide
  rw [asoundCard?_eq, asoundCard?_eq, List.dropWhile_append]
  split
  · next hNil =>
    rw [List.isEmpty_iff.mp hNil, List.dropWhile_cons_of_pos hReturn]
    rfl
  · simp only [Text.splitOnce?_concat (List.cons_ne_nil _ _) (by decide : '\r' ∉ [' ']),
      Text.splitOnce?_concat (List.cons_ne_nil _ _) (by decide : '\r' ∉ [']', ':']),
      Text.splitOnce?_concat (List.cons_ne_nil _ _) (by decide : '\r' ∉ [' ', '-', ' ']),
      Option.bind_map, Option.map_map, Function.comp_def, hTrim]

/-! ## Files -/

theorem asoundCards_eq (text : String) :
    asoundCards text = (Text.pieces (· == '\n') text.toList).filterMap asoundCard? := by
  rw [asoundCards, Text.filterMap_lines rfl asoundCard?_concat_return]

/-- The last line needs no end. -/
theorem asoundCards_append_newline (text : String) :
    asoundCards (text ++ "\n") = asoundCards text := by
  have hText : (text ++ "\n").toList = text.toList ++ '\n' :: [] := String.toList_append
  rw [asoundCards, hText, Text.filterMap_lines_append_cons rfl asoundCard?_concat_return,
    asoundCards]
  exact List.append_nil _

/-- No line of a card has a line feed in it. -/
theorem CardEntry.line_whole (entry : CardEntry) : '\n' ∉ entry.line := by
  have hNumber : '\n' ∉ entry.number := fun hMem =>
    absurd (entry.number_isNumeral.isBlank_eq_false _ hMem) (by decide)
  have hDriver : '\n' ∉ entry.card.driver.toList := fun hMem =>
    absurd (entry.driver_word _ hMem) (by decide)
  simp [CardEntry.line, hNumber, entry.id_whole, hDriver, entry.name_whole]

/-- A card and its details give the card. -/
theorem filterMap_lines_entry (entry : CardEntry) :
    (entry.line :: entry.details).filterMap asoundCard? = [entry.card] := by
  rw [List.filterMap_cons_some (asoundCard?_line entry), List.filterMap_eq_nil_iff.mpr]
  exact fun line hLine => asoundCard?_detail (entry.details_isDetail line hLine)

/-- **The cards on a list are those that were written on it**, in their order, whether the last line
of the list is ended or not. -/
theorem asoundCards_cardList (entries : List CardEntry) :
    asoundCards (cardList entries) = entries.map CardEntry.card ∧
      ∀ text, text ++ "\n" = cardList entries →
        asoundCards text = entries.map CardEntry.card := by
  have hWhole : ∀ line ∈ entries.flatMap fun entry => entry.line :: entry.details,
      '\n' ∉ line := by
    intro line hLine
    obtain ⟨entry, -, hMem⟩ := List.mem_flatMap.mp hLine
    rcases List.mem_cons.mp hMem with rfl | hDetail
    · exact entry.line_whole
    · exact (entry.details_isDetail line hDetail).whole
  have hCards : asoundCards (cardList entries) = entries.map CardEntry.card := by
    -- no written line is cut in two, so the list has the lines that were written
    rw [asoundCards_eq, cardList, String.toList_ofList, Text.pieces_flatMap_concat hWhole,
      List.filterMap_append, List.filterMap_flatMap]
    simp only [filterMap_lines_entry]
    show entries.flatMap (fun entry => [entry.card]) ++ [] = _
    rw [List.append_nil, ← List.map_eq_flatMap]
  refine ⟨hCards, fun text hText => ?_⟩
  -- an end to the last line adds an empty one, which is no card
  rw [← asoundCards_append_newline, hText, hCards]

/-- A line that begins with a number and something else. -/
def registerLine : List Char := "  7x irq 3".toList

theorem isDetail_registerLine : IsDetail registerLine where
  whole := by decide
  noNumber := by
    intro index hNumeral
    have hRead : Text.readUInt32 (firstWord registerLine) = .error .invalidDigit := rfl
    rw [← Text.readUInt32_eq_ok_iff, hRead] at hNumeral
    exact absurd hNumeral (by simp)

/-- A card with separators in its id, its driver and its name. -/
def dashEntry : CardEntry where
  card := ⟨7, "-x", "HDMI - 2]: y"⟩
  indent := 1
  number := "07".toList
  id := "a : []".toList
  details := [registerLine]
  number_isNumeral := .plain (by decide) (List.all_eq_true.mp (by decide))
  id_whole := by decide
  id_open := Text.splitOnce?_eq_none_iff.mp (by decide)
  driver_ne_nil := by decide
  driver_word := fun c hc => by
    have hAll : "-x".toList.all (fun c => !Text.isBlank c) = true := by decide
    simpa using List.all_eq_true.mp hAll c hc
  driver_ne_dash := by decide
  name_whole := by decide
  name_trimmed := by decide
  details_isDetail := by simp [isDetail_registerLine]

/-- A card with signs in its names that stand for something in a list, and all the same in its
place. -/
theorem asoundCards_cardList_dashEntry :
    cardList [dashEntry] = " 07 [a : []]: -x - HDMI - 2]: y\n  7x irq 3\n" ∧
    asoundCards (cardList [dashEntry]) = [⟨7, "-x", "HDMI - 2]: y"⟩] :=
  ⟨by decide +kernel, (asoundCards_cardList [dashEntry]).1⟩

end HardwareReport.Linux
