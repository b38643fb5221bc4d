import HardwareReport.Kernel.Variables
import HardwareReport.Proofs.Text.Encoding
import HardwareReport.Proofs.Text.Trim
import Mathlib.Data.List.Basic
import Mathlib.Data.List.TakeWhile

/-!
# Firmware — what pads a value

A reported value is cleaned in three passes over both of its ends: white space goes, then NUL
characters, then white space again. What is taken away from one end is therefore at most one run of
each in that order, however the two kinds alternate further on.

The passes over one end do not meet those over the other (`trimEnd_dropWhile`), so a value is
cleaned by taking away from its start, turning it around and doing the same again.

* `IsPadding` — what three passes take away from a start;
* `peel` — what they leave;
* `Pads` — a value between two paddings;
* `IsBare`, `IsPlain` — a text that needs no cleaning, and one that is padded plainly.

Main result: `trimmed?_laws`.
-/

namespace HardwareReport.Firmware

open Text

variable {s front core back : List Char}

/-! ## One end -/

/-- White space, then NUL characters, then white space, of each as many as there may be. -/
inductive IsPadding : List Char → Prop
  | runs {outer nuls inner : List Char} (hOuter : ∀ c ∈ outer, isBlank c = true)
      (hNuls : ∀ c ∈ nuls, isNul c = true) (hInner : ∀ c ∈ inner, isBlank c = true) :
      IsPadding (outer ++ (nuls ++ inner))

/-- What the three passes leave of a text that they only see the start of. -/
def peel (s : List Char) : List Char :=
  ((s.dropWhile isBlank).dropWhile isNul).dropWhile isBlank

/-- A text that begins with neither white space nor a NUL, if it begins at all. -/
def StartsBare (s : List Char) : Prop :=
  ∀ c ∈ s.head?, isBlank c = false ∧ isNul c = false

theorem isNul_iff {c : Char} : isNul c = true ↔ c = '\x00' :=
  beq_iff_eq

theorem isBlank_eq_false_of_isNul {c : Char} (h : isNul c = true) : isBlank c = false := by
  rw [isNul_iff.mp h]
  decide

theorem isNul_eq_false_of_isBlank {c : Char} (h : isBlank c = true) : isNul c = false :=
  Bool.eq_false_iff.mpr fun hNul => by simp [isBlank_eq_false_of_isNul hNul] at h

theorem StartsBare.not_blank (h : StartsBare s) : ∀ c ∈ s.head?, isBlank c = false :=
  fun c hc => (h c hc).1

theorem StartsBare.not_nul (h : StartsBare s) : ∀ c ∈ s.head?, isNul c = false :=
  fun c hc => (h c hc).2

theorem startsBare_nil : StartsBare [] :=
  fun _ hc => nomatch hc

theorem dropWhile_eq_self {p : Char → Bool} (hStop : ∀ c ∈ s.head?, p c = false) :
    s.dropWhile p = s :=
  dropWhile_append_of_stop (List.forall_mem_nil _) hStop

theorem StartsBare.peel_eq_self (h : StartsBare s) : peel s = s := by
  rw [peel, dropWhile_eq_self h.not_blank, dropWhile_eq_self h.not_nul,
    dropWhile_eq_self h.not_blank]

/-- After padding, as much of the passes is left for the rest as the padding did not take up. -/
theorem IsPadding.peel_append (h : IsPadding front) (rest : List Char) :
    peel (front ++ rest) = peel rest ∨
      peel (front ++ rest) = (rest.dropWhile isNul).dropWhile isBlank ∨
      peel (front ++ rest) = rest.dropWhile isBlank := by
  obtain @⟨outer, nuls, inner, hOuter, hNuls, hInner⟩ := h
  cases nuls with
  | nil =>
    -- the padding is one run of white space, which the first pass takes away
    have hBlank : ∀ c ∈ outer ++ inner, isBlank c = true := fun c hc =>
      (List.mem_append.mp hc).elim (hOuter c) (hInner c)
    left
    rw [List.nil_append, peel, List.dropWhile_append_of_pos hBlank, peel]
  | cons nul others =>
    have hStop : ∀ c ∈ (nul :: others ++ (inner ++ rest)).head?, isBlank c = false := by
      rintro c ⟨⟩
      exact isBlank_eq_false_of_isNul (hNuls nul (List.mem_cons_self ..))
    rw [peel, List.append_assoc, List.append_assoc, dropWhile_append_of_stop hOuter hStop,
      List.dropWhile_append_of_pos hNuls]
    right
    cases inner with
    | nil =>
      -- the second pass goes on into the rest
      exact .inl rfl
    | cons blank others =>
      -- the second pass ends at white space, so that the last one goes on into the rest
      have hNot : ¬ isNul blank = true := by
        simp [isNul_eq_false_of_isBlank (hInner blank (List.mem_cons_self ..))]
      right
      rw [List.cons_append, List.dropWhile_cons_of_neg hNot, ← List.cons_append,
        List.dropWhile_append_of_pos hInner]

theorem peel_suffix (s : List Char) : peel s <:+ s :=
  ((List.dropWhile_suffix _).trans (List.dropWhile_suffix _)).trans (List.dropWhile_suffix _)

/-- The passes stop at the latest where padding ends, if they may not go on. -/
theorem IsPadding.peel_append_eq (h : IsPadding front) (hBare : StartsBare core) :
    peel (front ++ core) = core := by
  rcases h.peel_append core with hPeel | hPeel | hPeel
  · rw [hPeel, hBare.peel_eq_self]
  · rw [hPeel, dropWhile_eq_self hBare.not_nul, dropWhile_eq_self hBare.not_blank]
  · rw [hPeel, dropWhile_eq_self hBare.not_blank]

/-- The passes go at least as far as padding does. -/
theorem IsPadding.peel_append_suffix (h : IsPadding front) (rest : List Char) :
    peel (front ++ rest) <:+ rest := by
  rcases h.peel_append rest with hPeel | hPeel | hPeel
  · exact hPeel ▸ peel_suffix rest
  · exact hPeel ▸ (List.dropWhile_suffix _).trans (List.dropWhile_suffix _)
  · exact hPeel ▸ List.dropWhile_suffix _

/-- What the passes take away is padding. -/
theorem exists_padding_append_peel (s : List Char) :
    ∃ front, IsPadding front ∧ front ++ peel s = s := by
  have hAll (p : Char → Bool) (t : List Char) : ∀ c ∈ t.takeWhile p, p c = true := fun _ hc =>
    List.mem_takeWhile_imp hc
  have hPad := IsPadding.runs (hAll isBlank s) (hAll isNul (s.dropWhile isBlank))
    (hAll isBlank ((s.dropWhile isBlank).dropWhile isNul))
  refine ⟨_, hPad, ?_⟩
  rw [peel, List.append_assoc, List.append_assoc, List.takeWhile_append_dropWhile,
    List.takeWhile_append_dropWhile, List.takeWhile_append_dropWhile]

theorem dropWhile_mono {p : Char → Bool} {t : List Char} (h : t <+: s) :
    t.dropWhile p <+: s.dropWhile p := by
  obtain ⟨rest, rfl⟩ := h
  rw [List.dropWhile_append]
  split
  · next hNil => exact List.isEmpty_iff.mp hNil ▸ List.nil_prefix
  · exact List.prefix_append _ rest

/-- The passes take away the start of padding, too. -/
theorem IsPadding.peel_eq_nil {t : List Char} (h : IsPadding s) (hPrefix : t <+: s) :
    peel t = [] := by
  have hWhole : peel s = [] := by
    rw [← h.peel_append_eq startsBare_nil, List.append_nil]
  have hPeel : peel t <+: peel s := dropWhile_mono (dropWhile_mono (dropWhile_mono hPrefix))
  exact List.prefix_nil.mp (hWhole ▸ hPeel)

/-- A text that the passes leave as it is begins with neither kind. -/
theorem startsBare_of_peel_eq_self (h : peel s = s) : StartsBare s := by
  -- no pass took anything away, as none gives anything back
  have hFirst : s.dropWhile isBlank = s := by
    have hBack : s <:+ s.dropWhile isBlank := by
      have hLast : peel s <:+ (s.dropWhile isBlank).dropWhile isNul := List.dropWhile_suffix _
      have hRest := hLast.trans (List.dropWhile_suffix isNul)
      rwa [h] at hRest
    exact (List.dropWhile_suffix isBlank).sublist.antisymm hBack.sublist
  have hSecond : s.dropWhile isNul = s := by
    have hBack : s <:+ s.dropWhile isNul := by
      have hRest : peel s <:+ (s.dropWhile isBlank).dropWhile isNul := List.dropWhile_suffix _
      rwa [h, hFirst] at hRest
    exact (List.dropWhile_suffix isNul).sublist.antisymm hBack.sublist
  intro c hc
  constructor
  · exact head?_dropWhile_eq_false c (hFirst.symm ▸ hc)
  · exact head?_dropWhile_eq_false c (hSecond.symm ▸ hc)

/-! ## Both ends -/

/-- A text between two paddings. -/
structure Pads (s front core back : List Char) : Prop where
  parts : s = front ++ (core ++ back)
  front : IsPadding front
  back : IsPadding back.reverse

/-- A text that neither begins nor ends with white space or a NUL. -/
structure IsBare (s : List Char) : Prop where
  starts : StartsBare s
  ends : StartsBare s.reverse

theorem isBare_nil : IsBare [] :=
  ⟨startsBare_nil, startsBare_nil⟩

/-- A value is cleaned at its start, turned around and cleaned there again. -/
theorem trimValue_eq (s : List Char) : trimValue s = (peel (peel s).reverse).reverse := by
  -- all passes over the start come first
  simp only [trimValue, trimEnds, ← trimEnd_dropWhile]
  simp only [trimEnd, peel, List.reverse_reverse]

/-- What a value is cleaned of is padding, and what is left begins and ends without white space. -/
theorem exists_pads (s : List Char) : ∃ front back, Pads s front (trimValue s) back := by
  obtain ⟨front, hFront, hStart⟩ := exists_padding_append_peel s
  obtain ⟨back, hBack, hEnd⟩ := exists_padding_append_peel (peel s).reverse
  refine ⟨front, back.reverse, ?_, hFront, by rwa [List.reverse_reverse]⟩
  rw [trimValue_eq, ← List.reverse_append, hEnd, List.reverse_reverse, hStart]

/-- A text without white space and NUL characters at its ends is what is left of it between
paddings. -/
theorem Pads.trimValue_eq (h : Pads s front core back) (hBare : IsBare core) :
    trimValue s = core := by
  rw [Firmware.trimValue_eq, h.parts]
  by_cases hCore : core = []
  · -- the passes over the start may go on into the padding at the end, of which they leave an end
    subst hCore
    have hRest := h.front.peel_append_suffix ([] ++ back)
    rw [h.back.peel_eq_nil (List.reverse_prefix.mpr hRest)]
    rfl
  · have hStart : StartsBare (core ++ back) := by
      intro c hc
      rw [List.head?_append_of_ne_nil _ hCore] at hc
      exact hBare.starts c hc
    rw [h.front.peel_append_eq hStart, List.reverse_append, h.back.peel_append_eq hBare.ends,
      List.reverse_reverse]

/-- Cleaning leaves a text without white space and NUL characters at its ends exactly of what pads
that one. -/
theorem trimValue_eq_iff (hBare : IsBare core) :
    trimValue s = core ↔ ∃ front back, Pads s front core back := by
  constructor
  · rintro rfl
    exact exists_pads s
  · rintro ⟨front, back, h⟩
    exact h.trimValue_eq hBare

/-- The texts that cleaning leaves as they are. -/
theorem trimValue_eq_self_iff : trimValue s = s ↔ IsBare s := by
  constructor
  · intro hSelf
    rw [trimValue_eq] at hSelf
    -- neither end loses anything, as the other one gives nothing back
    have hStart : peel s = s := by
      have hBack : (peel (peel s).reverse).reverse <:+: peel s := by
        rw [← List.reverse_infix, List.reverse_reverse]
        exact (peel_suffix _).isInfix
      rw [hSelf] at hBack
      exact (peel_suffix s).sublist.antisymm hBack.sublist
    refine ⟨startsBare_of_peel_eq_self hStart, startsBare_of_peel_eq_self ?_⟩
    rw [hStart] at hSelf
    rw [← List.reverse_reverse (peel s.reverse), hSelf]
  · intro hBare
    rw [trimValue_eq, hBare.starts.peel_eq_self, hBare.ends.peel_eq_self, List.reverse_reverse]

/-- What is left of a text without NUL characters at the ends that cleaning comes to. -/
theorem isBare_trimValue (h : ∀ c ∈ trimValue s, isNul c = false) : IsBare (trimValue s) := by
  obtain ⟨before, after, hTrims⟩ :=
    exists_trims isBlank (trimEnds isNul (trimEnds isBlank s))
  rw [← trimValue] at hTrims
  constructor
  · intro c hc
    exact ⟨hTrims.starts c hc, h c (List.mem_of_mem_head? hc)⟩
  · intro c hc
    rw [List.head?_reverse] at hc
    exact ⟨hTrims.ends c hc, h c (List.mem_of_mem_getLast? hc)⟩

theorem mem_of_mem_trimValue {c : Char} (hc : c ∈ trimValue s) : c ∈ s := by
  obtain ⟨front, back, h⟩ := exists_pads s
  rw [h.parts]
  exact List.mem_append_right front (List.mem_append_left back hc)

/-! ## Values -/

variable {raw value : String}

/-- A value that nothing pads but white space, NUL characters and white space in this order from
either end. -/
def IsPlain (raw : String) : Prop :=
  ∃ front core back, Pads raw.toList front core back ∧ IsBare core

theorem isPlain_iff : IsPlain raw ↔ IsBare (trimValue raw.toList) := by
  constructor
  · rintro ⟨front, core, back, hPads, hBare⟩
    rwa [hPads.trimValue_eq hBare]
  · intro hBare
    obtain ⟨front, back, hPads⟩ := exists_pads raw.toList
    exact ⟨front, _, back, hPads, hBare⟩

theorem trimmed?_eq_none_iff : trimmed? raw = none ↔ trimValue raw.toList = [] := by
  simp [trimmed?]

/-- A value is what is left of a text, unless nothing is. -/
theorem trimmed?_eq_some_iff :
    trimmed? raw = some value ↔ value.toList ≠ [] ∧ trimValue raw.toList = value.toList := by
  have hText : String.ofList (trimValue raw.toList) = value ↔
      trimValue raw.toList = value.toList := by
    rw [← String.toList_inj, String.toList_ofList]
  rw [trimmed?]
  split
  · next hNil =>
    rw [List.isEmpty_iff.mp hNil]
    exact ⟨nofun, fun h => absurd h.2.symm h.1⟩
  · next hSome =>
    rw [Option.some.injEq, hText]
    refine ⟨fun h => ⟨fun hNil => hSome ?_, h⟩, And.right⟩
    rw [h, hNil]
    rfl

/-- A value that needs no cleaning stays. -/
theorem trimmed?_eq_self_iff (hSome : value.toList ≠ []) :
    trimmed? value = some value ↔ IsBare value.toList := by
  rw [trimmed?_eq_some_iff, and_iff_right hSome, trimValue_eq_self_iff]

/-- The values that are padded plainly are cleaned in full. -/
theorem isPlain_iff_isBare : IsPlain raw ↔ ∀ value ∈ trimmed? raw, IsBare value.toList := by
  rw [isPlain_iff]
  cases hTrimmed : trimmed? raw with
  | none =>
    rw [trimmed?_eq_none_iff.mp hTrimmed]
    simp [isBare_nil]
  | some value =>
    rw [(trimmed?_eq_some_iff.mp hTrimmed).2]
    simp

/-- Cleaning once more changes nothing for exactly these. -/
theorem isPlain_iff_bind_trimmed? :
    IsPlain raw ↔ (trimmed? raw).bind trimmed? = trimmed? raw := by
  rw [isPlain_iff_isBare]
  cases hTrimmed : trimmed? raw with
  | none => simp
  | some value =>
    rw [Option.bind_some, trimmed?_eq_self_iff (trimmed?_eq_some_iff.mp hTrimmed).1]
    simp

/-- No placeholder holds a NUL. -/
theorem isNul_eq_false_of_placeholder
    (hPlace : placeholders.contains (String.ofList (lowerAscii s)) = true) :
    ∀ c ∈ s, isNul c = false := by
  intro c hc
  have hNone : placeholders.all (fun text => text.toList.all fun d => !isNul d) = true := by decide
  have hLower : c.toLower ∈ lowerAscii s := List.mem_map_of_mem hc
  have hText := List.all_eq_true.mp hNone _ (List.contains_iff_mem.mp hPlace)
  rw [String.toList_ofList] at hText
  have hNot := List.all_eq_true.mp hText _ hLower
  -- lower case leaves a NUL as it is
  refine Bool.eq_false_iff.mpr fun hNul => ?_
  rw [isNul_iff.mp hNul] at hNot
  exact absurd hNot (by decide)

/-- Looking for a placeholder after another cleaning changes nothing for exactly these, either. -/
theorem isPlain_iff_bind_value? : IsPlain raw ↔ (trimmed? raw).bind value? = value? raw := by
  rw [isPlain_iff_bind_trimmed?, value?]
  cases hTrimmed : trimmed? raw with
  | none => simp
  | some value =>
    rw [Option.bind_some, Option.bind_some, value?]
    constructor
    · intro hOnce
      rw [hOnce]
    · intro hValue
      cases hPlace : placeholders.contains (String.ofList (lowerAscii value.toList)) with
      | false =>
        have hKept : (!placeholders.contains (String.ofList (lowerAscii value.toList))) = true := by
          rw [hPlace]
          rfl
        rw [Option.filter_some, if_pos hKept, Option.filter_eq_some_iff] at hValue
        exact hValue.1
      | true =>
        -- a placeholder holds no NUL, so that nothing of it can go
        obtain ⟨hSome, hList⟩ := trimmed?_eq_some_iff.mp hTrimmed
        rw [trimmed?_eq_self_iff hSome, ← hList]
        refine isBare_trimValue ?_
        rw [hList]
        exact isNul_eq_false_of_placeholder hPlace

/-- A text that ends before the first NUL is padded plainly. -/
theorem isPlain_endedText (bytes : List UInt8) : IsPlain (Kernel.Variables.endedText bytes) := by
  have hBytes : ∀ b ∈ bytes.takeWhile (· != 0), b ≠ 0 := by
    intro b hb
    have hNot := List.mem_takeWhile_imp hb
    exact bne_iff_ne.mp hNot
  rw [isPlain_iff]
  refine isBare_trimValue fun c hc => ?_
  have hMem := mem_of_mem_trimValue hc
  rw [Kernel.Variables.endedText, lossyBytes, String.toList_ofList] at hMem
  exact beq_eq_false_iff_ne.mpr (decodeBytes_ne_nul .start hBytes c hMem)

/-- **What cleaning leaves.** A reported value comes to nothing exactly if it is made of white
space, NUL characters, white space, NUL characters and white space, in this order. Otherwise such
padding is taken away at either end and what is left has no white space at its ends. It has no NUL
there either exactly if white space, NUL characters and white space are all that pads the value at
each end. Exactly then another cleaning changes nothing, be it that the value is looked for among
the placeholders or not. This holds of every text that a loader's environment gives. -/
theorem trimmed?_laws :
    (∀ raw : String,
      (trimmed? raw = none ↔ ∃ front back, Pads raw.toList front [] back) ∧
      (∀ value ∈ trimmed? raw,
        (∃ front back, Pads raw.toList front value.toList back) ∧
        (∀ c ∈ value.toList.head?, isBlank c = false) ∧
        ∀ c ∈ value.toList.getLast?, isBlank c = false) ∧
      (IsPlain raw ↔ ∀ value ∈ trimmed? raw, IsBare value.toList) ∧
      (IsPlain raw ↔ (trimmed? raw).bind trimmed? = trimmed? raw) ∧
      (IsPlain raw ↔ (trimmed? raw).bind value? = value? raw)) ∧
    ∀ bytes : List UInt8, IsPlain (Kernel.Variables.endedText bytes) := by
  refine ⟨fun raw => ⟨?_, ?_, isPlain_iff_isBare, isPlain_iff_bind_trimmed?,
    isPlain_iff_bind_value?⟩, isPlain_endedText⟩
  · rw [trimmed?_eq_none_iff, trimValue_eq_iff isBare_nil]
  · intro value hValue
    have hList := (trimmed?_eq_some_iff.mp hValue).2
    refine ⟨hList ▸ exists_pads raw.toList, ?_⟩
    obtain ⟨before, after, hTrims⟩ :=
      exists_trims isBlank (trimEnds isNul (trimEnds isBlank raw.toList))
    rw [← trimValue, hList] at hTrims
    exact ⟨hTrims.starts, hTrims.ends⟩

/-- White space between NUL characters ends the cleaning early. -/
theorem trimmed?_nulBehindBlank :
    trimmed? "\x00 \x00 \x00" = some "\x00" ∧
      trimmed? "\x00 \x00none" = some "\x00none" ∧
      (trimmed? "\x00 \x00none").bind trimmed? = some "none" ∧
      value? "\x00 \x00none" = some "\x00none" ∧
      (trimmed? "\x00 \x00none").bind value? = none := by
  decide

end HardwareReport.Firmware
