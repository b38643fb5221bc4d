import HardwareReport.Text.Encoding

/-!
# Text — what decoding shows

A decoder inside a character holds the bits that it has read and the range that its next byte lies
in, and so the range of the code points that it may end up with. That range never holds zero nor
anything that is no character (`Utf8State.Proper`), so that nothing but a zero byte is shown as a
NUL.
-/

namespace HardwareReport.Text

/-- Code points from `first` to `last` are those of characters, and none is zero. -/
structure AreShown (first last : Nat) : Prop where
  positive : 0 < first
  valid : last < 0xD800 ∨ 0xDFFF < first ∧ last < 0x110000

/-- States from which no bytes lead to a NUL or to what is no character. -/
inductive Utf8State.Proper : Utf8State → Prop
  | start : Proper .start
  | last {bits low high : Nat}
      (hRange : AreShown (bits * 64 + (low - 0x80)) (bits * 64 + (high - 0x80))) :
      Proper (.inside 1 bits low high)
  | beforeLast {bits low high : Nat}
      (hRange : AreShown ((bits * 64 + (low - 0x80)) * 64)
        ((bits * 64 + (high - 0x80)) * 64 + 63)) :
      Proper (.inside 2 bits low high)
  | third {bits low high : Nat}
      (hRange : AreShown ((bits * 64 + (low - 0x80)) * 4096)
        ((bits * 64 + (high - 0x80)) * 4096 + 4095)) :
      Proper (.inside 3 bits low high)

/-- A character that is shown is not the one that ends a text. -/
theorem AreShown.ofNat_ne_nul {first last n : Nat} (h : AreShown first last) (hFirst : first ≤ n)
    (hLast : n ≤ last) : Char.ofNat n ≠ '\x00' := by
  have hPositive := h.positive
  have hValid : n.isValidChar := by
    rcases h.valid with hLow | ⟨hHigh, hTop⟩
    · exact .inl (by omega)
    · exact .inr ⟨by omega, by omega⟩
  have hCode : (Char.ofNat n).toNat = n := by
    rw [Char.ofNat, dif_pos hValid]
    rfl
  intro hNul
  rw [hNul] at hCode
  have hZero : 0 = n := hCode
  omega

/-- A part of a range of characters is one. -/
theorem AreShown.narrow {first last low high : Nat} (h : AreShown first last) (hLow : first ≤ low)
    (hHigh : high ≤ last) : AreShown low high := by
  have hPositive := h.positive
  have hValid := h.valid
  exact ⟨by omega, by omega⟩

theorem replacement_ne_nul : replacement ≠ '\x00' := by decide

/-- A byte that begins a character of several bytes leaves a proper state. -/
theorem leadByte?_proper {b : Nat} {lead : LeadByte} (h : leadByte? b = some lead) :
    (Utf8State.inside lead.following lead.bits lead.low lead.high).Proper := by
  simp only [leadByte?] at h
  -- the ranges of the byte after it keep out what is shorter, surrogates and what is too great
  split at h
  · cases h
  split at h
  · cases h
    exact .last ⟨by dsimp only; omega, by dsimp only; omega⟩
  split at h
  · cases h
    exact .beforeLast ⟨by decide, by decide⟩
  split at h
  · cases h
    exact .beforeLast ⟨by decide, by decide⟩
  split at h
  · cases h
    exact .beforeLast ⟨by dsimp only; omega, by dsimp only; omega⟩
  split at h
  · cases h
    exact .third ⟨by decide, by decide⟩
  split at h
  · cases h
    exact .third ⟨by dsimp only; omega, by dsimp only; omega⟩
  split at h
  · cases h
    exact .third ⟨by decide, by decide⟩
  · cases h

/-- A state and what was shown on the way to it. -/
structure ShowsNoNul (next : List Char × Utf8State) : Prop where
  shown : ∀ c ∈ next.1, c ≠ '\x00'
  state : next.2.Proper

theorem begin_showsNoNul {b : Nat} (hb : b ≠ 0) : ShowsNoNul (Utf8State.begin b) := by
  rw [Utf8State.begin]
  split
  · next hAscii =>
    have hRange : AreShown b b := ⟨by omega, by omega⟩
    have hShown := hRange.ofNat_ne_nul (Nat.le_refl b) (Nat.le_refl b)
    exact ⟨List.forall_mem_singleton.mpr hShown, .start⟩
  · split
    · next hLead => exact ⟨List.forall_mem_nil _, leadByte?_proper hLead⟩
    · exact ⟨List.forall_mem_singleton.mpr replacement_ne_nul, .start⟩

/-- Neither does a byte that breaks off a character and begins the next. -/
theorem broken_showsNoNul {b : Nat} (hb : b ≠ 0) :
    ShowsNoNul (replacement :: (Utf8State.begin b).1, (Utf8State.begin b).2) :=
  ⟨List.forall_mem_cons.mpr ⟨replacement_ne_nul, (begin_showsNoNul hb).shown⟩,
    (begin_showsNoNul hb).state⟩

/-- One byte that is not zero shows no NUL and leads from a proper state to one. -/
theorem step_showsNoNul {state : Utf8State} {b : Nat} (hState : state.Proper) (hb : b ≠ 0) :
    ShowsNoNul (state.step b) := by
  cases hState with
  | start => exact begin_showsNoNul hb
  | @last bits low high hRange =>
    rw [Utf8State.step]
    split
    · next hByte =>
      -- the character is complete
      have hShown := hRange.ofNat_ne_nul (n := bits * 64 + (b - 0x80)) (by omega) (by omega)
      exact ⟨List.forall_mem_singleton.mpr hShown, .start⟩
    · exact broken_showsNoNul hb
  | @beforeLast bits low high hRange =>
    rw [Utf8State.step]
    split
    · next hByte => exact ⟨List.forall_mem_nil _, .last (hRange.narrow (by omega) (by omega))⟩
    · exact broken_showsNoNul hb
  | @third bits low high hRange =>
    rw [Utf8State.step]
    split
    · next hByte => exact ⟨List.forall_mem_nil _, .beforeLast (hRange.narrow (by omega) (by omega))⟩
    · exact broken_showsNoNul hb

/-- Bytes that are not zero show no NUL. -/
theorem decodeBytes_ne_nul {state : Utf8State} {bytes : List UInt8} (hState : state.Proper)
    (hBytes : ∀ b ∈ bytes, b ≠ 0) : ∀ c ∈ decodeBytes state bytes, c ≠ '\x00' := by
  induction bytes generalizing state with
  | nil =>
    -- a character that the end breaks off is replaced
    cases state with
    | start => exact List.forall_mem_nil _
    | inside => exact List.forall_mem_singleton.mpr replacement_ne_nul
  | cons b rest ih =>
    have hByte : b.toNat ≠ 0 := fun hZero =>
      hBytes b (List.mem_cons_self ..) (UInt8.toNat_inj.mp hZero)
    have hStep := step_showsNoNul hState hByte
    intro c hc
    rw [decodeBytes] at hc
    rcases List.mem_append.mp hc with hShown | hLater
    · exact hStep.shown c hShown
    · exact ih hStep.state (fun d hd => hBytes d (List.mem_cons_of_mem b hd)) c hLater

end HardwareReport.Text
