import HardwareReport.Number.Fixed
import HardwareReport.Proofs.Number.Magnitude

/-!
# Number — the decimal places of a quotient

A quotient of whole numbers that is worked out in double precision and written with a few decimal
places has been rounded twice. It is written with the places of the exact quotient all the same: the
first rounding is so small that it cannot carry a quotient of whole numbers over the middle between
two texts.

* `IsDecimal` — a text is a number with decimal places;
* `roundedPlaces` — the digits that a number is written with, as a whole number.

## Results

* `isDecimal_placesText` — which number is written;
* `IsDouble.abs_sub_roundedPlaces` — it is nearest to what it is written for;
* `fixed_div` — so it is for a quotient, whichever way a tie goes.
-/

namespace HardwareReport.Number

open Float.Model (UnpackedFloat)
open Float.Model.UnpackedFloat

variable {a b : Int} {x : Float} {m n : Nat}

theorem num_div_den_fraction (m : Nat) (e : Int) :
    ((fraction m e).num : ℚ) / (fraction m e).den = m * 2 ^ e := by
  have hSplit : e = (e.toNat : Int) - ((-e).toNat : Int) := by omega
  show ((m * 2 ^ e.toNat : ℕ) : ℚ) / (2 ^ (-e).toNat : ℕ) = m * 2 ^ e
  conv_rhs => rw [hSplit]
  rw [zpow_sub₀ two_ne_zero, zpow_natCast, zpow_natCast]
  push_cast
  exact mul_div_assoc _ _ _

/-- The digits that a positive number is written with, as a whole number. -/
def roundedPlaces (places : Nat) : UnpackedFloat → Nat
  | .finite _ m e _ => roundHalfEven ((fraction m e).num * Nat.pow 10 places) (fraction m e).den
  | _ => 0

theorem roundedPlaces_finite (places : Nat) (s : Sign) (m : Nat) (e : Int) (h : 0 < m) :
    roundedPlaces places (.finite s m e h) =
      roundHalfEven ((fraction m e).num * Nat.pow 10 places) (fraction m e).den :=
  rfl

theorem IsDouble.fixed_eq (h : IsDouble .positive a b x) (places : Nat) :
    fixed places x = String.ofList (placesText places (roundedPlaces places (ofFloat x))) := by
  rw [IsDouble] at h
  rw [fixed]
  generalize ofFloat x = u at h ⊢
  obtain ⟨-, -, -⟩ := h
  rfl

/-- A number is written with the digits of what it is nearest to. -/
theorem IsDouble.abs_sub_roundedPlaces (h : IsDouble .positive a b x) (places : Nat) :
    |(10 : ℚ) ^ places * magnitude (ofFloat x) - roundedPlaces places (ofFloat x)| ≤ 1 / 2 := by
  rw [IsDouble] at h
  generalize ofFloat x = u at h ⊢
  obtain @⟨m, e, hPos, -, -, -⟩ := h
  have hDen := fraction_den_pos m e
  rw [magnitude_finite, ← num_div_den_fraction, roundedPlaces_finite]
  generalize fraction m e = value at hDen ⊢
  -- rounding is done in whole numbers, so the bounds are read there and cast
  obtain ⟨hBelow, hAbove⟩ := @roundHalfEven_near (value.num * Nat.pow 10 places) value.den hDen
  generalize roundHalfEven (value.num * Nat.pow 10 places) value.den = scaled at hBelow hAbove ⊢
  have hBelow : (2 * (value.num * 10 ^ places) : ℚ) ≤ 2 * value.den * scaled + value.den := by
    exact_mod_cast hBelow
  have hAbove : (2 * value.den * scaled : ℚ) ≤ 2 * (value.num * 10 ^ places) + value.den := by
    exact_mod_cast hAbove
  have hPositive : (0 : ℚ) < value.den := by exact_mod_cast hDen
  -- over one denominator the bounds are those of the whole numbers
  have hSame : (10 : ℚ) ^ places * (value.num / value.den) - scaled =
      (value.num * 10 ^ places - value.den * scaled) / value.den := by
    field_simp
  rw [hSame, abs_div, abs_of_pos hPositive, div_le_iff₀ hPositive, abs_le]
  constructor <;> linarith

/-- A whole number nearest to what is next to a quotient is nearest to the quotient, if what is
between the two is too little to make a difference. -/
theorem nearest_of_near {power scaled : Nat} {value : ℚ} (hn : n ≠ 0)
    (hDigits : 2 * power * m < 2 ^ 52) (hNear : |(power : ℚ) * value - scaled| ≤ 1 / 2)
    (hOff : |value - m / n| ≤ (m : ℚ) / n / 2 ^ 52) :
    2 * power * m ≤ 2 * scaled * n + n ∧ 2 * scaled * n ≤ 2 * power * m + n := by
  have hPositive : (0 : ℚ) < n := by exact_mod_cast Nat.pos_of_ne_zero hn
  have hQuotient : (m : ℚ) / n * n = m := div_mul_cancel₀ _ hPositive.ne'
  have hLittle : 2 * (power : ℚ) * (m / 2 ^ 52) < 1 := by
    rw [← mul_div_assoc, div_lt_one (by positivity)]
    exact_mod_cast hDigits
  have hOffTimes : |value * n - m| ≤ m / 2 ^ 52 := by
    calc |value * n - m| = |value - m / n| * n := by
          rw [← abs_of_pos hPositive, ← abs_mul, sub_mul, abs_of_pos hPositive, hQuotient]
      _ ≤ (m : ℚ) / n / 2 ^ 52 * n := mul_le_mul_of_nonneg_right hOff hPositive.le
      _ = m / 2 ^ 52 := by rw [div_right_comm, div_mul_cancel₀ _ hPositive.ne']
  obtain ⟨hOffBelow, hOffAbove⟩ := abs_le.mp hOffTimes
  obtain ⟨hBelow, hAbove⟩ := abs_le.mp hNear
  have hPower : (0 : ℚ) ≤ 2 * power := by positivity
  have hOffBelow := mul_le_mul_of_nonneg_left hOffBelow hPower
  have hOffAbove := mul_le_mul_of_nonneg_left hOffAbove hPower
  have hBelow := mul_le_mul_of_nonneg_right hBelow hPositive.le
  have hAbove := mul_le_mul_of_nonneg_right hAbove hPositive.le
  -- what is between them is less than one
  have hFirst : (2 * power * m : ℚ) < 2 * scaled * n + n + 1 := by linarith
  have hSecond : (2 * scaled * n : ℚ) < 2 * power * m + n + 1 := by linarith
  have hFirst : 2 * power * m < 2 * scaled * n + n + 1 := by exact_mod_cast hFirst
  have hSecond : 2 * scaled * n < 2 * power * m + n + 1 := by exact_mod_cast hSecond
  exact ⟨Nat.lt_succ_iff.mp hFirst, Nat.lt_succ_iff.mp hSecond⟩

/-- **A quotient of whole numbers is written with the digits that it is nearest to.** Double
precision leaves room for that as long as there are not too many digits in all. -/
theorem fixed_div (hm : m ≠ 0) (hn : n ≠ 0) (hSmall : n < 2 ^ 53) {places scaled : Nat}
    (hDigits : 2 * 10 ^ places * m < 2 ^ 52)
    (hScaled : roundedPlaces places (ofFloat (Float.ofNat m / Float.ofNat n)) = scaled) :
    fixed places (Float.ofNat m / Float.ofNat n) = String.ofList (placesText places scaled) ∧
      2 * 10 ^ places * m ≤ 2 * scaled * n + n ∧ 2 * scaled * n ≤ 2 * 10 ^ places * m + n := by
  have hmSmall : m < 2 ^ 53 := by
    have hMore : m ≤ 2 * 10 ^ places * m := Nat.le_mul_of_pos_left m (by positivity)
    omega
  have hmLog : m.log2 < 53 := (Nat.log2_lt hm).mpr hmSmall
  have hnLog : n.log2 < 53 := (Nat.log2_lt hn).mpr hSmall
  have hMin := minExponent_binary64
  have hDividend := isDouble_ofNat hm (by omega)
  have hDivisor := isDouble_ofNat hn (by omega)
  -- how far the quotient is off that is rounded, and how far its places are off the quotient
  have hQuotient := hDividend.div hDivisor (by omega) (by omega)
  have hNear := hQuotient.abs_sub_roundedPlaces places
  have hOff := IsNormal.abs_magnitude_div_sub hDividend hDivisor (by omega)
  rw [← hDividend.ofFloat_div hDivisor (by omega) (by omega), magnitude_ofFloat_ofNat hm hmSmall,
    magnitude_ofFloat_ofNat hn hSmall] at hOff
  rw [hScaled] at hNear
  refine ⟨hScaled ▸ hQuotient.fixed_eq places, nearest_of_near hn hDigits ?_ hOff⟩
  push_cast
  exact hNear

/-! ## Texts -/

/-- A text is a number with a count of decimal places: digits, a point, and so many digits. -/
inductive IsDecimal (places : Nat) : List Char → ℚ → Prop
  | intro {whole rest : List Char} (ne_nil : whole ≠ [])
      (whole_digits : ∀ c ∈ whole, c.isDigit = true) (rest_digits : ∀ c ∈ rest, c.isDigit = true)
      (length : rest.length = places) :
      IsDecimal places (whole ++ '.' :: rest)
        (Nat.ofDigitChars 10 whole 0 + Nat.ofDigitChars 10 rest 0 / 10 ^ places)

theorem IsDecimal.isDigit_or_point {places : Nat} {s : List Char} {x : ℚ}
    (h : IsDecimal places s x) :
    ∀ c ∈ s, c.isDigit = true ∨ c = '.' := by
  obtain ⟨-, hWhole, hRest, -⟩ := h
  intro c hc
  rcases List.mem_append.mp hc with hc | hc
  · exact .inl (hWhole c hc)
  · rcases List.mem_cons.mp hc with rfl | hc
    · exact .inr rfl
    · exact .inl (hRest c hc)

/-- A text is one number. -/
theorem IsDecimal.unique {places : Nat} {s : List Char} {x y : ℚ} (hx : IsDecimal places s x)
    (hy : IsDecimal places s y) : x = y := by
  have hPoint {digits : List Char} (h : ∀ c ∈ digits, c.isDigit = true) : '.' ∉ digits :=
    fun hMem => absurd (h '.' hMem) (by decide)
  obtain ⟨-, hWhole, hRest, -⟩ := hx
  generalize hSame : _ ++ '.' :: _ = s at hy
  cases hy
  obtain ⟨rfl, -, rfl⟩ := (List.append_cons_inj_of_notMem (hPoint hWhole) (hPoint hRest)).mp hSame
  rfl

theorem isDigit_of_mem_padLeft {width : Nat} {s : List Char} (h : ∀ c ∈ s, c.isDigit = true) :
    ∀ c ∈ padLeft width s, c.isDigit = true := by
  intro c hc
  rcases List.mem_append.mp hc with hZero | hMem
  · rw [(List.mem_replicate.mp hZero).2]
    rfl
  · exact h c hMem

theorem ofDigitChars_padLeft (width : Nat) (s : List Char) :
    Nat.ofDigitChars 10 (padLeft width s) 0 = Nat.ofDigitChars 10 s 0 := by
  rw [padLeft, Nat.ofDigitChars_append, Nat.ofDigitChars_replicate_zero, Nat.mul_zero]

/-- The text of a whole number of the last place is that number as a decimal. -/
theorem isDecimal_placesText {places : Nat} (hPlaces : places ≠ 0) (scaled : Nat) :
    IsDecimal places (placesText places scaled) (scaled / 10 ^ places) := by
  have hDigits (k : Nat) : ∀ c ∈ digits k, c.isDigit = true := fun c hc =>
    Nat.isDigit_of_mem_toDigits (by decide) (by decide) hc
  have hValue (k : Nat) : Nat.ofDigitChars 10 (digits k) 0 = k :=
    Nat.ofDigitChars_toDigits (by decide) (by decide)
  have hRest : scaled % 10 ^ places < 10 ^ places := Nat.mod_lt _ (by positivity)
  have hWidth : (digits (scaled % 10 ^ places)).length ≤ places :=
    (Nat.length_toDigits_le_iff (by decide) (Nat.pos_of_ne_zero hPlaces)).mpr hRest
  have hLength : (padLeft places (digits (scaled % 10 ^ places))).length = places := by
    rw [padLeft, List.length_append, List.length_replicate]
    omega
  have hSome : digits (scaled / 10 ^ places) ≠ [] := Nat.toDigits_ne_nil
  have hDecimal := IsDecimal.intro hSome (hDigits (scaled / 10 ^ places))
    (isDigit_of_mem_padLeft (hDigits (scaled % 10 ^ places))) hLength
  -- the digits before and after the point make up the number
  have hNumber : ((scaled / 10 ^ places : ℕ) : ℚ) + (scaled % 10 ^ places : ℕ) / 10 ^ places =
      scaled / 10 ^ places := by
    have hPower : (10 : ℚ) ^ places ≠ 0 := by positivity
    have hParts : (scaled : ℚ) = 10 ^ places * (scaled / 10 ^ places : ℕ) +
        (scaled % 10 ^ places : ℕ) := by
      exact_mod_cast (Nat.div_add_mod scaled (10 ^ places)).symm
    rw [eq_div_iff hPower, add_mul, div_mul_cancel₀ _ hPower, mul_comm]
    exact hParts.symm
  rw [ofDigitChars_padLeft, hValue, hValue, hNumber] at hDecimal
  rw [placesText, if_neg hPlaces]
  exact hDecimal

end HardwareReport.Number
