import HardwareReport.Proofs.Number.Doubles
import Mathlib.Algebra.Order.Field.Power
import Mathlib.Algebra.Order.Field.Rat
import Mathlib.Tactic.Linarith
import Mathlib.Tactic.Positivity
import Mathlib.Tactic.Ring
import Mathlib.Tactic.FieldSimp

/-!
# Number — what double precision comes to

The value of a floating-point number as a rational number, and how far an operation in double
precision is from the exact one. Whole numbers of up to fifty-three bits are exact, comparisons of
positive numbers are those of their values, and a quotient is off by no more than a unit in the last
place.

* `magnitude` — the value of a number without its sign;
* `Represents` — a mantissa with its two residual bits stands for a value that it is the whole part
  of, and the bits say if that is all.

## Results

* `magnitude_roundWithAccuracy` — how far a number is rounded;
* `IsNormal.abs_magnitude_div_sub`, `IsNormal.le_iff` — operations on numbers of any format;
* `magnitude_ofFloat_ofNat`, `ofNat_le_ofNat_iff` — whole numbers in double precision.
-/

namespace HardwareReport.Number

open Float.Model (Format UnpackedFloat totalExponent)
open Float.Model.UnpackedFloat

/-- The value of a number without its sign; zero for what is not finite. -/
def magnitude : UnpackedFloat → ℚ
  | .finite _ m e _ => m * 2 ^ e
  | _ => 0

theorem magnitude_finite (s : Sign) (m : Nat) (e : Int) (h : 0 < m) :
    magnitude (.finite s m e h) = m * 2 ^ e :=
  rfl

/-! ## Residual bits -/

/-- A mantissa is the whole part of a value, and if it is all of it then no residual bit is set. -/
structure Represents (em : ExtendedMantissa) (x : ℚ) : Prop where
  le : em.mantissa ≤ x
  lt : x < em.mantissa + 1
  bits : x = em.mantissa → em.roundBit = false ∧ em.stickyBit = false

section Represents

variable {em : ExtendedMantissa} {x : ℚ}

theorem represents_exact (m : Nat) : Represents (.ofMantissaAndAccuracy m .exact) m :=
  ⟨le_refl _, lt_add_one _, fun _ => ⟨rfl, rfl⟩⟩

/-- A quotient is represented by its whole part and what the remainder says. -/
theorem represents_div {m n : Nat} (hn : 0 < n) :
    Represents (.ofMantissaAndAccuracy (m / n) (accuracyOfFraction (m % n) n)) (m / n : ℚ) := by
  have hPos : (0 : ℚ) < n := by exact_mod_cast hn
  have hParts : (m : ℚ) = n * (m / n : ℕ) + (m % n : ℕ) := by
    exact_mod_cast (Nat.div_add_mod m n).symm
  have hRest : ((m % n : ℕ) : ℚ) < n := by exact_mod_cast Nat.mod_lt m hn
  have hNonneg : (0 : ℚ) ≤ (m % n : ℕ) := Nat.cast_nonneg _
  refine ⟨?_, ?_, fun hWhole => ?_⟩
  · rw [mantissa_ofMantissaAndAccuracy, le_div_iff₀ hPos]
    linarith
  · rw [mantissa_ofMantissaAndAccuracy, div_lt_iff₀ hPos]
    linarith
  · rw [mantissa_ofMantissaAndAccuracy, div_eq_iff hPos.ne'] at hWhole
    have hNone : ((m % n : ℕ) : ℚ) = 0 := by linarith
    rw [Nat.cast_eq_zero.mp hNone]
    exact ⟨rfl, rfl⟩

/-- A shift by one bit halves what is represented: what falls off goes into the bits for rounding.
-/
theorem Represents.shiftRightOne (h : Represents em x) : Represents em.shiftRightOne (x / 2) := by
  have hLow := h.le
  have hHigh := h.lt
  have hParts : (em.mantissa : ℚ) = 2 * (em.mantissa / 2 : ℕ) + (em.mantissa % 2 : ℕ) := by
    exact_mod_cast (Nat.div_add_mod em.mantissa 2).symm
  -- the bit that falls off
  have hBit : ((em.mantissa % 2 : ℕ) : ℚ) ≤ 1 := by
    exact_mod_cast Nat.lt_succ_iff.mp (Nat.mod_lt em.mantissa two_pos)
  have hNonneg : (0 : ℚ) ≤ (em.mantissa % 2 : ℕ) := Nat.cast_nonneg _
  refine ⟨?_, ?_, fun hWhole => ?_⟩
  · show ((em.mantissa / 2 : ℕ) : ℚ) ≤ x / 2
    linarith
  · show x / 2 < ((em.mantissa / 2 : ℕ) : ℚ) + 1
    linarith
  · -- the mantissa is all of the value and even
    have hHalf : x / 2 = ((em.mantissa / 2 : ℕ) : ℚ) := hWhole
    have hEven : ((em.mantissa % 2 : ℕ) : ℚ) = 0 := by linarith
    obtain ⟨hRound, hSticky⟩ := h.bits (by linarith)
    constructor
    · show (em.mantissa % 2 != 0) = false
      rw [Nat.cast_eq_zero.mp hEven]
      rfl
    · show (em.roundBit || em.stickyBit) = false
      rw [hRound, hSticky]
      rfl

theorem Represents.shiftRight (h : Represents em x) (count : Nat) :
    Represents (em >>> count) (x / 2 ^ count) := by
  induction count with
  | zero =>
    rw [pow_zero, div_one]
    exact h
  | succ count ih =>
    have hNext := ih.shiftRightOne
    rw [div_div, ← pow_succ] at hNext
    exact hNext

/-- Rounding moves a value by one at most, and one that is whole not at all. -/
theorem Represents.roundedMantissa (h : Represents em x) :
    |(em.roundedMantissa : ℚ) - x| ≤ 1 ∧ ∀ k : Nat, x = k → em.roundedMantissa = k := by
  have hLow := h.le
  have hHigh := h.lt
  constructor
  · obtain ⟨hBelow, hAbove⟩ := roundedMantissa_mem em
    have hBelow : (em.mantissa : ℚ) ≤ em.roundedMantissa := by exact_mod_cast hBelow
    have hAbove : (em.roundedMantissa : ℚ) ≤ em.mantissa + 1 := by exact_mod_cast hAbove
    rw [abs_le]
    constructor <;> linarith
  · rintro k rfl
    have hWhole : k = em.mantissa := by
      have hBelow : em.mantissa ≤ k := by exact_mod_cast hLow
      have hAbove : k < em.mantissa + 1 := by exact_mod_cast hHigh
      omega
    -- a whole number leaves no bits to round by
    obtain ⟨hRound, hSticky⟩ := h.bits (congrArg _ hWhole)
    rw [hWhole]
    obtain ⟨mantissa, roundBit, stickyBit⟩ := em
    obtain rfl : roundBit = false := hRound
    obtain rfl : stickyBit = false := hSticky
    rfl

end Represents

/-! ## Rounding -/

section Rounding

variable {format : Format} {m : Nat} {e : Int} {x : ℚ}

/-- A mantissa is moved to where a format has it. -/
theorem shiftToTargetExponent_eq (accuracy : Accuracy) (hBits : format.mantissaBits ≤ m.log2 + 1)
    (hMin : format.minExponent ≤ m.log2 + 1 + e - format.mantissaBits) :
    shiftToTargetExponent format m e accuracy =
      (ExtendedMantissa.ofMantissaAndAccuracy m accuracy >>>
          (m.log2 + 1 - format.mantissaBits),
        e + (m.log2 + 1 - format.mantissaBits : ℕ)) := by
  have hCount : (m.log2 + 1 + e - format.mantissaBits - e).toNat =
      m.log2 + 1 - format.mantissaBits := by
    omega
  simp only [shiftToTargetExponent, shiftToExponent, targetExponent_eq hMin, hCount]

/-- A mantissa that was rounded up to one bit too many loses nothing when it is moved once more. -/
theorem div_mul_two_pow_of_rounded {mantissa rounded width : Nat} (hSome : mantissa ≠ 0)
    (hBits : mantissa.log2 + 1 = width) (hBelow : mantissa ≤ rounded)
    (hAbove : rounded ≤ mantissa + 1) :
    rounded / 2 ^ (rounded.log2 + 1 - width) * 2 ^ (rounded.log2 + 1 - width) = rounded := by
  have hLow := log2_le_of_le hBelow
  have hHigh := (log2_le_of_le hAbove).trans (log2_succ_le mantissa)
  have hCases : rounded.log2 + 1 - width = 0 ∨ rounded.log2 = width := by omega
  rcases hCases with hSame | hMore
  · rw [hSame, pow_zero, Nat.div_one, Nat.mul_one]
  · -- the next power of two
    have hLess : mantissa < 2 ^ width := hBits ▸ Nat.lt_log2_self
    have hReached : 2 ^ width ≤ rounded := hMore ▸ Nat.log2_self_le (by omega)
    have hPower : rounded = 2 ^ width := by omega
    have hOne : rounded.log2 + 1 - width = 1 := by omega
    rw [hOne, hPower, ← hBits, pow_succ, pow_one, Nat.mul_div_cancel _ two_pos]

/-- The value of a mantissa that may be zero. -/
theorem magnitude_zero_or_finite (sign : Sign) (m : Nat) (e : Int) :
    magnitude (if h : m = 0 then .zero sign else .finite sign m e (Nat.pos_of_ne_zero h)) =
      m * 2 ^ e := by
  by_cases hZero : m = 0
  · rw [dif_pos hZero, hZero, Nat.cast_zero, zero_mul]
    rfl
  · rw [dif_neg hZero]
    rfl

/-- **Rounding moves a value by one unit of its last place at most, and one that needs no more
places not at all.** -/
theorem magnitude_roundWithAccuracy (sign : Sign) {accuracy : Accuracy}
    (hValue : Represents (.ofMantissaAndAccuracy m accuracy) x)
    (hBits : format.mantissaBits ≤ m.log2 + 1)
    (hMin : format.minExponent ≤ m.log2 + 1 + e - format.mantissaBits) :
    ∃ rounded : Nat,
      magnitude (roundWithAccuracy format sign m e accuracy) =
        rounded * 2 ^ (e + (m.log2 + 1 - format.mantissaBits : ℕ)) ∧
      |(rounded : ℚ) - x / 2 ^ (m.log2 + 1 - format.mantissaBits)| ≤ 1 ∧
      ∀ k : Nat, x / 2 ^ (m.log2 + 1 - format.mantissaBits) = k → rounded = k := by
  have hFirst := shiftToTargetExponent_bits accuracy hBits hMin
  have hShifted := hValue.shiftRight (m.log2 + 1 - format.mantissaBits)
  rw [roundWithAccuracy]
  rw [shiftToTargetExponent_eq accuracy hBits hMin] at hFirst ⊢
  generalize ExtendedMantissa.ofMantissaAndAccuracy m accuracy >>>
    (m.log2 + 1 - format.mantissaBits) = em at hFirst hShifted ⊢
  obtain ⟨hMantissa, hPlace⟩ := hFirst
  dsimp only at hMantissa hPlace ⊢
  obtain ⟨hNear, hExact⟩ := hShifted.roundedMantissa
  refine ⟨em.roundedMantissa, ?_, hNear, hExact⟩
  obtain ⟨hBelow, hAbove⟩ := roundedMantissa_mem em
  -- rounding may carry into one more bit, which is shifted out and is zero
  have hLow := log2_le_of_le hBelow
  rw [shiftToTargetExponent_eq .exact (by omega) (by omega)]
  have hWhole := div_mul_two_pow_of_rounded (ne_zero_of_bits hMantissa.ge) hMantissa hBelow hAbove
  have hRounded :
      ((em.roundedMantissa / 2 ^ (em.roundedMantissa.log2 + 1 - format.mantissaBits) : ℕ) : ℚ) *
        2 ^ (em.roundedMantissa.log2 + 1 - format.mantissaBits) = em.roundedMantissa := by
    exact_mod_cast hWhole
  refine (magnitude_zero_or_finite _ _ _).trans ?_
  rw [mantissa_shiftRight, mantissa_ofMantissaAndAccuracy, zpow_add₀ two_ne_zero, zpow_natCast,
    mul_left_comm]
  exact (congrArg _ hRounded).trans (mul_comm _ _)

/-- What is off is a unit of the last place, so that it is little to a value with many places. -/
theorem abs_magnitude_roundWithAccuracy_sub (sign : Sign) {accuracy : Accuracy}
    (hValue : Represents (.ofMantissaAndAccuracy m accuracy) x)
    (hBits : format.mantissaBits ≤ m.log2 + 1)
    (hMin : format.minExponent ≤ m.log2 + 1 + e - format.mantissaBits) :
    |magnitude (roundWithAccuracy format sign m e accuracy) - x * 2 ^ e| ≤
      x * 2 ^ e / 2 ^ format.mantissaBitsWithoutImplicit := by
  obtain ⟨rounded, hMagnitude, hNear, -⟩ := magnitude_roundWithAccuracy sign hValue hBits hMin
  have hWidth := mantissaBits_eq format
  -- a value with so many places is not less than the unit of the last one, times all but one
  have hLarge : (2 : ℚ) ^ (m.log2 + 1 - format.mantissaBits) *
      2 ^ format.mantissaBitsWithoutImplicit ≤ x := by
    have hWhole := hValue.le
    rw [mantissa_ofMantissaAndAccuracy] at hWhole
    refine le_trans ?_ hWhole
    rw [← pow_add]
    have hPlaces : m.log2 + 1 - format.mantissaBits + format.mantissaBitsWithoutImplicit =
        m.log2 := by
      omega
    rw [hPlaces]
    exact_mod_cast Nat.log2_self_le (ne_zero_of_bits hBits)
  generalize m.log2 + 1 - format.mantissaBits = count at hMagnitude hNear hLarge
  have hUnit : (0 : ℚ) < 2 ^ count := by positivity
  have hScale : (0 : ℚ) < 2 ^ e := by positivity
  have hFactor : (rounded : ℚ) * 2 ^ (e + (count : ℕ)) - x * 2 ^ e =
      (rounded - x / 2 ^ count) * 2 ^ count * 2 ^ e := by
    rw [zpow_add₀ two_ne_zero, zpow_natCast]
    field_simp
  rw [hMagnitude, hFactor, abs_mul, abs_mul, abs_of_pos hUnit, abs_of_pos hScale,
    mul_div_right_comm]
  refine mul_le_mul_of_nonneg_right ?_ hScale.le
  calc |(rounded : ℚ) - x / 2 ^ count| * 2 ^ count ≤ 1 * 2 ^ count :=
        mul_le_mul_of_nonneg_right hNear hUnit.le
    _ ≤ x / 2 ^ format.mantissaBitsWithoutImplicit := by
        rw [one_mul, le_div_iff₀ (by positivity)]
        exact hLarge

/-- A number that needs no more places than a format has is not changed. -/
theorem magnitude_roundWithAccuracy_of_dvd (sign : Sign)
    (hBits : format.mantissaBits ≤ m.log2 + 1)
    (hMin : format.minExponent ≤ m.log2 + 1 + e - format.mantissaBits)
    (hPlaces : 2 ^ (m.log2 + 1 - format.mantissaBits) ∣ m) :
    magnitude (roundWithAccuracy format sign m e .exact) = m * 2 ^ e := by
  obtain ⟨rounded, hMagnitude, -, hExact⟩ :=
    magnitude_roundWithAccuracy sign (represents_exact m) hBits hMin
  generalize m.log2 + 1 - format.mantissaBits = count at hMagnitude hExact hPlaces
  obtain ⟨k, rfl⟩ := hPlaces
  have hQuotient : ((2 ^ count * k : ℕ) : ℚ) / 2 ^ count = k := by
    push_cast
    rw [mul_div_cancel_left₀ _ (by positivity)]
  rw [hMagnitude, hExact k hQuotient, zpow_add₀ two_ne_zero, zpow_natCast]
  push_cast
  ring

end Rounding

/-! ## Operations -/

section Operations

variable {format : Format} {s t : Sign} {a b c d : Int} {u v : UnpackedFloat}

/-- A natural number whose bits fit the mantissa is not rounded. -/
theorem magnitude_ofNat {n : Nat} (hn : n ≠ 0) (hBits : n.log2 + 1 ≤ format.mantissaBits)
    (hMin : format.minExponent ≤ (n.log2 + 1 : ℕ) - format.mantissaBits) :
    magnitude (UnpackedFloat.ofNat format n) = n := by
  have hSign : compare (n : Int) 0 = .gt := compare_gt_iff_gt.mpr (by omega)
  have hTarget : format.targetExponent (totalExponent n 0) =
      -(format.mantissaBits - (n.log2 + 1) : ℕ) := by
    rw [targetExponent_eq (by omega)]
    omega
  have hCount : (0 - -((format.mantissaBits - (n.log2 + 1) : ℕ) : Int)).toNat =
      format.mantissaBits - (n.log2 + 1) := by
    omega
  rw [UnpackedFloat.ofNat, UnpackedFloat.ofInt, UnpackedFloat.normalize, hSign]
  simp only [UnpackedFloat.round, decreaseExponent, Int.toNat_natCast, hTarget, hCount]
  generalize hMoved : format.mantissaBits - (n.log2 + 1) = count
  have hLog := log2_shiftLeft hn count
  -- moved up to all bits of the mantissa, the number has none to lose
  have hExact : (n <<< count).log2 + 1 - format.mantissaBits = 0 := by omega
  rw [magnitude_roundWithAccuracy_of_dvd .positive (by omega) (by omega)
    (by rw [hExact, pow_zero]; exact one_dvd _), Nat.shiftLeft_eq, zero_sub, zpow_neg, zpow_natCast]
  push_cast
  exact mul_inv_cancel_right₀ (by positivity) _

/-- **A quotient is off by less than a unit of its last place.** -/
theorem IsNormal.abs_magnitude_div_sub (hu : IsNormal format s a b u) (hv : IsNormal format t c d v)
    (hMin : format.minExponent ≤ a - d - format.mantissaBits) :
    |magnitude (UnpackedFloat.div format u v) - magnitude u / magnitude v| ≤
      magnitude u / magnitude v / 2 ^ format.mantissaBitsWithoutImplicit := by
  obtain @⟨m, e, hPos, hBits, hFrom, hTo⟩ := hu
  obtain @⟨n, f, hPos', hBits', hFrom', hTo'⟩ := hv
  have hSame : m.log2 = n.log2 := by omega
  obtain ⟨hLow, hHigh⟩ := @div_finite_bits format m n hPos hPos' hSame
  have hNear := abs_magnitude_roundWithAccuracy_sub (s / t) (e := e - f - format.mantissaBits)
    (represents_div hPos') hLow (by omega)
  -- the dividend is moved up by as many places as the exponent goes down
  have hQuotient : ((m <<< format.mantissaBits : ℕ) : ℚ) / n * 2 ^ (e - f - format.mantissaBits) =
      m * 2 ^ e / (n * 2 ^ f) := by
    have hDivisor : (n : ℚ) ≠ 0 := Nat.cast_ne_zero.mpr hPos'.ne'
    rw [Nat.shiftLeft_eq, zpow_sub₀ two_ne_zero, zpow_sub₀ two_ne_zero, zpow_natCast]
    push_cast
    field_simp
  rw [div_finite hSame (by omega)]
  rw [hQuotient] at hNear
  exact hNear

/-- A number with a smaller exponent is the smaller one. -/
theorem magnitude_lt {m n : Nat} {e f : Int} (hm : m.log2 + 1 = format.mantissaBits)
    (hn : n.log2 + 1 = format.mantissaBits) (hLess : e < f) : (m : ℚ) * 2 ^ e < n * 2 ^ f := by
  have hUpper : (m : ℚ) < 2 ^ (n.log2 + 1) := by
    rw [hn, ← hm]
    exact_mod_cast Nat.lt_log2_self
  have hLower : (2 : ℚ) ^ n.log2 ≤ n := by
    exact_mod_cast Nat.log2_self_le (ne_zero_of_bits hn.ge)
  have hScale : (0 : ℚ) < 2 ^ e := by positivity
  calc (m : ℚ) * 2 ^ e < 2 ^ (n.log2 + 1) * 2 ^ e := mul_lt_mul_of_pos_right hUpper hScale
    _ = 2 ^ n.log2 * 2 ^ (e + 1) := by rw [pow_succ, zpow_add_one₀ two_ne_zero]; ring
    _ ≤ 2 ^ n.log2 * 2 ^ f :=
        mul_le_mul_of_nonneg_left (zpow_le_zpow_right₀ one_le_two hLess) (by positivity)
    _ ≤ n * 2 ^ f := mul_le_mul_of_nonneg_right hLower (by positivity)

/-- Positive numbers compare as their values do. -/
theorem IsNormal.le_iff (hu : IsNormal format .positive a b u)
    (hv : IsNormal format .positive c d v) : u.le v = true ↔ magnitude u ≤ magnitude v := by
  obtain @⟨m, e, hPos, hBits, -, -⟩ := hu
  obtain @⟨n, f, hPos', hBits', -, -⟩ := hv
  have hCompare : UnpackedFloat.le (.finite .positive m e hPos) (.finite .positive n f hPos') =
      ((compare e f).then (compare m n)).isLE := rfl
  rw [hCompare, magnitude_finite, magnitude_finite]
  rcases lt_trichotomy e f with hLess | rfl | hMore
  · rw [compare_lt_iff_lt.mpr hLess]
    exact iff_of_true rfl (magnitude_lt hBits hBits' hLess).le
  · have hScale : (0 : ℚ) < 2 ^ e := by positivity
    rw [compare_eq_iff_eq.mpr rfl, Ordering.then, mul_le_mul_iff_left₀ hScale, Nat.cast_le]
    exact Nat.isLE_compare
  · rw [compare_gt_iff_gt.mpr hMore]
    exact iff_of_false Bool.false_ne_true (magnitude_lt hBits' hBits hMore).not_ge

end Operations

/-! ## Double precision -/

section Doubles

variable {a b c d : Int} {x y : Float} {u : UnpackedFloat} {m n : Nat}

/-- A product with one is not rounded. -/
theorem IsNormal.magnitude_mul_one {s : Sign} (h : IsNormal Format.binary64 s a b u)
    (hLow : -1021 ≤ a) :
    magnitude (UnpackedFloat.mul Format.binary64 u
      (.finite .positive 0x10000000000000 (-52) (by decide))) = magnitude u := by
  have hMin := minExponent_binary64
  obtain @⟨m, e, hPos, hBits, hFrom, -⟩ := h
  have hWidth : Format.binary64.mantissaBits = 53 := rfl
  have hShift : m * 0x10000000000000 = m <<< 52 := (Nat.shiftLeft_eq m 52).symm
  have hLog := log2_shiftLeft hPos.ne' 52
  -- the bits that the product has too many are the zeros that it was moved up by
  have hCount : (m <<< 52).log2 + 1 - Format.binary64.mantissaBits = 52 := by omega
  show magnitude (roundWithAccuracy _ _ (m * 0x10000000000000) (e + -52) .exact) = _
  rw [hShift, magnitude_roundWithAccuracy_of_dvd _ (by omega) (by omega)
    (by rw [hCount, Nat.shiftLeft_eq]; exact dvd_mul_left _ m), magnitude_finite, Nat.shiftLeft_eq,
    zpow_add₀ two_ne_zero]
  push_cast
  have hUnit : (4503599627370496 : ℚ) * 2 ^ (-52 : Int) = 1 := by norm_num
  rw [mul_mul_mul_comm, hUnit, mul_one]

/-- Whole numbers of few bits are exact. -/
theorem magnitude_ofFloat_ofNat (hn : n ≠ 0) (hSmall : n < 2 ^ 53) :
    magnitude (ofFloat (Float.ofNat n)) = n := by
  have hMin := minExponent_binary64
  have hWidth : Format.binary64.mantissaBits = 53 := rfl
  have hLog : n.log2 < 53 := (Nat.log2_lt hn).mpr hSmall
  have hNormal := @ofNat_isNormal Format.binary64 n hn (by omega)
  have hProduct := IsNormal.mul hNormal isNormal_one (by omega)
  have hOfNat : ofFloat (Float.ofNat n) = UnpackedFloat.mul Format.binary64
      (UnpackedFloat.ofNat Format.binary64 n)
      (.finite .positive 0x10000000000000 (-52) (by decide)) := by
    -- conversion multiplies by one, which packs and unpacks what is exact already
    rw [ofNat_eq_mul_one hSmall, one_eq]
    refine Eq.trans ?_ (hProduct.ofFloat_pack (by omega) (by omega))
    show ofFloat (.ofModel (.pack (UnpackedFloat.mul Format.binary64
      (ofFloat (.ofModel (.pack _))) (ofFloat (.ofModel (.pack _)))))) = _
    rw [hNormal.ofFloat_pack (by omega) (by omega), isNormal_one.ofFloat_pack (by omega) (by omega)]
  rw [hOfNat, hNormal.magnitude_mul_one (by omega), magnitude_ofNat hn (by omega) (by omega)]

theorem le_iff : x ≤ y ↔ (ofFloat x).le (ofFloat y) = true :=
  decide_eq_true_iff

/-- Whole numbers of few bits compare as they are. -/
theorem ofNat_le_ofNat_iff (hm : m ≠ 0) (hn : n ≠ 0) (hmSmall : m < 2 ^ 53)
    (hnSmall : n < 2 ^ 53) : Float.ofNat m ≤ Float.ofNat n ↔ m ≤ n := by
  have hmLog : m.log2 < 53 := (Nat.log2_lt hm).mpr hmSmall
  have hnLog : n.log2 < 53 := (Nat.log2_lt hn).mpr hnSmall
  rw [le_iff, IsNormal.le_iff (isDouble_ofNat hm (by omega)) (isDouble_ofNat hn (by omega)),
    magnitude_ofFloat_ofNat hm hmSmall, magnitude_ofFloat_ofNat hn hnSmall, Nat.cast_le]

end Doubles

end HardwareReport.Number
