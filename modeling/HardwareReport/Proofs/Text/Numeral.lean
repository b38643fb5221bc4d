import HardwareReport.Proofs.Answer
import HardwareReport.Text.Blank
import HardwareReport.Text.Natural

/-!
# Text — numerals

A numeral is a run of ASCII digits with a plus sign in front or without. It may begin with zeros, so
its length does not tell whether its value lies below a bound: the reader stops as soon as the
digits so far have a value beyond it, and later digits only make the value greater.

* `IsNumeral` — a text is a numeral, and has a value.

## Results

* `readNatural_eq_ok_iff` — what is read are the numerals below the bound;
* `readUInt64_eq_ok_iff`, `readUInt32_eq_ok_iff` — the same of numbers of a width, where the bound
  goes without saying;
* `isNumeral_toDigits` — a number is a numeral as it is printed.
-/

namespace HardwareReport.Text

/-- A text is a numeral with a value. -/
inductive IsNumeral : List Char → Nat → Prop where
  | plain {digits : List Char} (ne_nil : digits ≠ []) (isDigit : ∀ c ∈ digits, c.isDigit = true) :
      IsNumeral digits (Nat.ofDigitChars 10 digits 0)
  | signed {digits : List Char} (ne_nil : digits ≠ []) (isDigit : ∀ c ∈ digits, c.isDigit = true) :
      IsNumeral ('+' :: digits) (Nat.ofDigitChars 10 digits 0)

/-- A number is a numeral as it is printed. -/
theorem isNumeral_toDigits (n : Nat) : IsNumeral (Nat.toDigits 10 n) n := by
  have hDigits : ∀ c ∈ Nat.toDigits 10 n, c.isDigit = true := fun c hc =>
    Nat.isDigit_of_mem_toDigits (by decide) (by decide) hc
  have hNumeral := IsNumeral.plain Nat.toDigits_ne_nil hDigits
  rw [Nat.ofDigitChars_toDigits (by decide) (by decide)] at hNumeral
  exact hNumeral

/-! ## Characters -/

theorem isBlank_eq_false_of_isDigit {c : Char} (h : c.isDigit = true) : isBlank c = false := by
  have hLow : 48 ≤ c.toNat := by
    simp only [Char.isDigit, Bool.and_eq_true, decide_eq_true_eq] at h
    exact h.1
  have hHigh : c.toNat ≤ 57 := by
    simp only [Char.isDigit, Bool.and_eq_true, decide_eq_true_eq] at h
    exact h.2
  simp [isBlank, blankRuns, CodeRange.contains]
  omega

namespace IsNumeral

variable {s : List Char} {n : Nat}

theorem ne_nil (h : IsNumeral s n) : s ≠ [] := by
  cases h with
  | plain hSome _ => exact hSome
  | signed _ _ => exact List.cons_ne_nil _ _

theorem isBlank_eq_false (h : IsNumeral s n) : ∀ c ∈ s, isBlank c = false := by
  cases h with
  | plain _ hDigits => exact fun c hc => isBlank_eq_false_of_isDigit (hDigits c hc)
  | signed _ hDigits =>
    exact List.forall_mem_cons.mpr
      ⟨by decide, fun c hc => isBlank_eq_false_of_isDigit (hDigits c hc)⟩

end IsNumeral

/-! ## Digits -/

theorem le_ofDigitChars (digits : List Char) (value : Nat) :
    value ≤ Nat.ofDigitChars 10 digits value := by
  induction digits generalizing value with
  | nil => exact Nat.le_refl value
  | cons c rest ih =>
    rw [Nat.ofDigitChars_cons]
    have hRest := ih (10 * value + (c.toNat - '0'.toNat))
    omega

/-- Further digits are read if they are digits and the value of the whole is below the bound. -/
theorem readDigits_eq_ok_iff {bound value n : Nat} {digits : List Char} (hValue : value < bound) :
    readDigits bound value digits = .ok n ↔
      (∀ c ∈ digits, c.isDigit = true) ∧ Nat.ofDigitChars 10 digits value = n ∧ n < bound := by
  induction digits generalizing value with
  | nil =>
    have hBelow : value = n → n < bound := fun h => h ▸ hValue
    simpa [readDigits] using hBelow
  | cons c rest ih =>
    rw [readDigits, List.forall_mem_cons, Nat.ofDigitChars_cons, Nat.mul_comm 10 value]
    cases hDigit : c.isDigit with
    | false => simp [digitValue?, hDigit]
    | true =>
      simp only [digitValue?, hDigit, if_true, true_and]
      split
      · next hSmall => exact ih hSmall
      · next hLarge =>
        -- whatever follows, the value does not get smaller
        have hGrows := le_ofDigitChars rest (value * 10 + (c.toNat - '0'.toNat))
        constructor
        · intro h
          exact absurd h (by simp)
        · rintro ⟨-, rfl, hBelow⟩
          omega

/-! ## Whole numbers -/

theorem readNatural_signed {bound : Nat} {digits : List Char} (h : digits ≠ []) :
    readNatural bound ('+' :: digits) = readDigits bound 0 digits := by
  cases digits with
  | nil => exact absurd rfl h
  | cons c rest => rfl

theorem readNatural_plain {bound : Nat} {c : Char} {rest : List Char} (h : c ≠ '+') :
    readNatural bound (c :: rest) = readDigits bound 0 (c :: rest) := by
  unfold readNatural
  split
  · next hNil => exact absurd hNil (by simp)
  · next hSign => exact absurd (List.cons.inj hSign).1 h
  · next hSign => exact absurd (List.cons.inj hSign).1 h
  · rfl

/-- **What is read are the numerals with a value below the bound.** -/
theorem readNatural_eq_ok_iff {bound n : Nat} {s : List Char} (hBound : 0 < bound) :
    readNatural bound s = .ok n ↔ IsNumeral s n ∧ n < bound := by
  constructor
  · intro h
    unfold readNatural at h
    split at h
    · exact absurd h (by simp)
    · exact absurd h (by simp)
    · next digits hMore =>
      obtain ⟨hDigits, rfl, hBelow⟩ := (readDigits_eq_ok_iff hBound).mp h
      exact ⟨.signed (fun hNil => hMore (by rw [hNil])) hDigits, hBelow⟩
    · next hSome _ _ =>
      obtain ⟨hDigits, rfl, hBelow⟩ := (readDigits_eq_ok_iff hBound).mp h
      exact ⟨.plain hSome hDigits, hBelow⟩
  · rintro ⟨hNumeral, hBelow⟩
    cases hNumeral with
    | signed hSome hDigits =>
      rw [readNatural_signed hSome]
      exact (readDigits_eq_ok_iff hBound).mpr ⟨hDigits, rfl, hBelow⟩
    | plain hSome hDigits =>
      obtain ⟨c, rest, rfl⟩ := List.exists_cons_of_ne_nil hSome
      -- digits do not begin with a sign
      have hFirst : c ≠ '+' := by
        rintro rfl
        exact absurd (hDigits '+' List.mem_cons_self) (by decide)
      rw [readNatural_plain hFirst]
      exact (readDigits_eq_ok_iff hBound).mpr ⟨hDigits, rfl, hBelow⟩

/-- Numbers below a bound, as which naturals are taken, are read from the numerals with their
value. -/
theorem map_readNatural_eq_ok_iff {α : Type} {ofNat : Nat → α} {toNat : α → Nat} {bound : Nat}
    (hOf : ∀ n < bound, toNat (ofNat n) = n) (hTo : ∀ a, ofNat (toNat a) = a)
    (hBound : ∀ a, toNat a < bound) {s : List Char} {a : α} :
    (readNatural bound s).map ofNat = .ok a ↔ IsNumeral s (toNat a) := by
  have hPositive : 0 < bound := Nat.lt_of_le_of_lt (Nat.zero_le _) (hBound a)
  rw [Answer.map_eq_ok_iff]
  constructor
  · rintro ⟨n, hRead, rfl⟩
    obtain ⟨hNumeral, hBelow⟩ := (readNatural_eq_ok_iff hPositive).mp hRead
    rw [hOf n hBelow]
    exact hNumeral
  · intro hNumeral
    exact ⟨toNat a, (readNatural_eq_ok_iff hPositive).mpr ⟨hNumeral, hBound a⟩, hTo a⟩

/-- A 64-bit number is read from the numerals with its value. -/
theorem readUInt64_eq_ok_iff {s : List Char} {value : UInt64} :
    readUInt64 s = .ok value ↔ IsNumeral s value.toNat :=
  map_readNatural_eq_ok_iff (fun _ => UInt64.toNat_ofNat_of_lt') (fun _ => UInt64.ofNat_toNat)
    UInt64.toNat_lt

/-- A 32-bit number is read from the numerals with its value. -/
theorem readUInt32_eq_ok_iff {s : List Char} {value : UInt32} :
    readUInt32 s = .ok value ↔ IsNumeral s value.toNat :=
  map_readNatural_eq_ok_iff (fun _ => UInt32.toNat_ofNat_of_lt') (fun _ => UInt32.ofNat_toNat)
    UInt32.toNat_lt

end HardwareReport.Text
