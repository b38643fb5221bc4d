import HardwareReport.Number.Binary
import Mathlib.Data.Nat.Log

/-!
# Number — the size of what is worked out

A floating-point number with as many bits as its format holds is told apart from zero, whatever it
was rounded from. How large it is comes down to the place of its leading bit. Rounding keeps that
bit where it is or carries it one place further, a product and a quotient are known by the places of
the leading bits of what they are made of, and none of this leaves a format as long as the places
stay in the range of its exponents.

* `IsNormal` — a number with a sign, all the bits of a format and its leading bit in a range.

## Results

* `roundWithAccuracy_isNormal`, `round_isNormal` — what rounding leaves;
* `IsNormal.mul`, `IsNormal.div`, `IsNormal.neg` — what operations leave;
* `IsNormal.unpack_pack` — a number within the exponents of a format is not changed by packing it.
-/

namespace HardwareReport.Number

open Float.Model (Format UnpackedFloat totalExponent)
open Float.Model.UnpackedFloat

/-! ## Places of leading bits -/

theorem log2_div_two_pow (m count : Nat) : (m / Nat.pow 2 count).log2 = m.log2 - count := by
  show (m / 2 ^ count).log2 = m.log2 - count
  rw [Nat.log2_eq_log_two, Nat.log2_eq_log_two, Nat.log_div_base_pow]

theorem log2_shiftLeft {m : Nat} (hm : m ≠ 0) (count : Nat) :
    (m <<< count).log2 = m.log2 + count := by
  have hPos : 0 < 2 ^ count := Nat.two_pow_pos count
  rw [Nat.shiftLeft_eq, Nat.log2_eq_iff (Nat.mul_ne_zero hm hPos.ne'), Nat.pow_add,
    Nat.add_right_comm, Nat.pow_add]
  exact ⟨Nat.mul_le_mul_right _ (Nat.log2_self_le hm),
    Nat.mul_lt_mul_of_pos_right Nat.lt_log2_self hPos⟩

theorem log2_mul {m n : Nat} (hm : m ≠ 0) (hn : n ≠ 0) :
    m.log2 + n.log2 ≤ (m * n).log2 ∧ (m * n).log2 ≤ m.log2 + n.log2 + 1 := by
  constructor
  · rw [Nat.le_log2 (Nat.mul_ne_zero hm hn), Nat.pow_add]
    exact Nat.mul_le_mul (Nat.log2_self_le hm) (Nat.log2_self_le hn)
  · rw [← Nat.lt_succ_iff, Nat.log2_lt (Nat.mul_ne_zero hm hn)]
    have hPow : 2 ^ (m.log2 + n.log2 + 1).succ = 2 ^ (m.log2 + 1) * 2 ^ (n.log2 + 1) := by
      rw [← Nat.pow_add]
      congr 1
      omega
    rw [hPow]
    exact Nat.mul_lt_mul'' Nat.lt_log2_self Nat.lt_log2_self

theorem log2_le_of_le {m n : Nat} (h : m ≤ n) : m.log2 ≤ n.log2 := by
  rw [Nat.log2_eq_log_two, Nat.log2_eq_log_two]
  exact Nat.log_mono_right h

/-- The next number has its leading bit in the same place or in the next one. -/
theorem log2_succ_le (m : Nat) : (m + 1).log2 ≤ m.log2 + 1 := by
  rw [← Nat.lt_succ_iff, Nat.log2_lt (Nat.succ_ne_zero m)]
  calc m + 1 ≤ 2 ^ (m.log2 + 1) := Nat.lt_log2_self
    _ < 2 ^ (m.log2 + 1).succ := Nat.pow_lt_pow_right Nat.one_lt_two (Nat.lt_succ_self _)

/-- A number is less than twice another one with the same leading place. -/
theorem lt_two_mul_of_log2_eq {m n : Nat} (hn : n ≠ 0) (hSame : m.log2 = n.log2) : m < 2 * n := by
  calc m < 2 ^ (m.log2 + 1) := Nat.lt_log2_self
    _ = 2 * 2 ^ n.log2 := by rw [hSame, Nat.pow_succ, Nat.mul_comm]
    _ ≤ 2 * n := Nat.mul_le_mul_left 2 (Nat.log2_self_le hn)

/-- The quotient of two numbers with the same leading place, the dividend moved up before. -/
theorem log2_shiftLeft_div {m n : Nat} (hm : m ≠ 0) (hn : n ≠ 0) (hSame : m.log2 = n.log2)
    (count : Nat) : (m <<< (count + 1)) / n ≠ 0 ∧ count ≤ ((m <<< (count + 1)) / n).log2 ∧
      ((m <<< (count + 1)) / n).log2 ≤ count + 1 := by
  have hPos : 0 < n := Nat.pos_of_ne_zero hn
  have hLow : 2 ^ count ≤ (m <<< (count + 1)) / n := by
    rw [Nat.le_div_iff_mul_le hPos, Nat.shiftLeft_eq]
    calc 2 ^ count * n ≤ 2 ^ count * (2 * m) :=
          Nat.mul_le_mul_left _ (lt_two_mul_of_log2_eq hm hSame.symm).le
      _ = m * 2 ^ (count + 1) := by rw [Nat.pow_succ]; ac_rfl
  have hHigh : (m <<< (count + 1)) / n < 2 ^ (count + 2) := by
    rw [Nat.div_lt_iff_lt_mul hPos, Nat.shiftLeft_eq]
    calc m * 2 ^ (count + 1) < 2 * n * 2 ^ (count + 1) :=
          Nat.mul_lt_mul_of_pos_right (lt_two_mul_of_log2_eq hn hSame) (Nat.two_pow_pos _)
      _ = 2 ^ (count + 2) * n := by rw [Nat.pow_succ 2 (count + 1)]; ac_rfl
  have hNe : (m <<< (count + 1)) / n ≠ 0 := ((Nat.two_pow_pos count).trans_le hLow).ne'
  exact ⟨hNe, (Nat.le_log2 hNe).mpr hLow, Nat.lt_succ_iff.mp ((Nat.log2_lt hNe).mpr hHigh)⟩

/-! ## Rounding -/

/-- A number with a sign, with all the bits of a format and with its leading bit between two
places. The digit before the point is in place one. -/
inductive IsNormal (format : Format) (sign : Sign) (low high : Int) : UnpackedFloat → Prop
  | finite {m : Nat} {e : Int} {hPos : 0 < m} (hBits : m.log2 + 1 = format.mantissaBits)
      (hLow : low ≤ m.log2 + 1 + e) (hHigh : m.log2 + 1 + e ≤ high) :
      IsNormal format sign low high (.finite sign m e hPos)

theorem IsNormal.mono {format : Format} {sign : Sign} {a b c d : Int} {u : UnpackedFloat}
    (h : IsNormal format sign a b u) (hLow : c ≤ a) (hHigh : b ≤ d) :
    IsNormal format sign c d u := by
  obtain ⟨hBits, hFrom, hTo⟩ := h
  exact .finite hBits (hLow.trans hFrom) (hTo.trans hHigh)

section Rounding

variable {format : Format} {m : Nat} {e : Int}

theorem mantissaBits_eq (format : Format) :
    format.mantissaBits = 1 + format.mantissaBitsWithoutImplicit :=
  rfl

/-- Above the smallest exponent a format has a number with all of its bits. -/
theorem targetExponent_eq (hMin : format.minExponent ≤ m.log2 + 1 + e - format.mantissaBits) :
    format.targetExponent (totalExponent m e) = m.log2 + 1 + e - format.mantissaBits :=
  max_eq_left hMin

theorem mantissa_shiftRight (em : ExtendedMantissa) (count : Nat) :
    (em >>> count).mantissa = em.mantissa / Nat.pow 2 count := by
  induction count with
  | zero => exact (Nat.div_one em.mantissa).symm
  | succ count ih =>
    show (em >>> count).mantissa / 2 = em.mantissa / (Nat.pow 2 count * 2)
    rw [ih, Nat.div_div_eq_div_mul]

theorem mantissa_ofMantissaAndAccuracy (m : Nat) (accuracy : Accuracy) :
    (ExtendedMantissa.ofMantissaAndAccuracy m accuracy).mantissa = m := by
  cases accuracy with
  | exact => rfl
  | inexact half => cases half <;> rfl

/-- Rounding leaves a mantissa or takes the next one. -/
theorem roundedMantissa_mem (em : ExtendedMantissa) :
    em.mantissa ≤ em.roundedMantissa ∧ em.roundedMantissa ≤ em.mantissa + 1 := by
  have hRound (accuracy : Accuracy) (m : Nat) : m ≤ accuracy.roundToNearestEven m ∧
      accuracy.roundToNearestEven m ≤ m + 1 := by
    cases accuracy with
    | exact => exact ⟨Nat.le_refl m, Nat.le_succ m⟩
    | inexact half =>
      cases half with
      | lt => exact ⟨Nat.le_refl m, Nat.le_succ m⟩
      | eq =>
        -- a tie adds the last bit
        show m ≤ m + m % 2 ∧ m + m % 2 ≤ m + 1
        omega
      | gt => exact ⟨Nat.le_succ m, Nat.le_refl _⟩
  exact hRound em.accuracy em.mantissa

/-- Moving a mantissa with enough bits to where a format has it leaves all the bits of the format,
and the leading one stays in its place. -/
theorem shiftToTargetExponent_bits (accuracy : Accuracy) (hBits : format.mantissaBits ≤ m.log2 + 1)
    (hMin : format.minExponent ≤ m.log2 + 1 + e - format.mantissaBits) :
    (shiftToTargetExponent format m e accuracy).1.mantissa.log2 + 1 = format.mantissaBits ∧
      (shiftToTargetExponent format m e accuracy).2 = m.log2 + 1 + e - format.mantissaBits := by
  have hCount : (m.log2 + 1 + e - format.mantissaBits - e).toNat =
      m.log2 + 1 - format.mantissaBits := by
    omega
  have hSome := mantissaBits_eq format
  simp only [shiftToTargetExponent, shiftToExponent, targetExponent_eq hMin, hCount,
    mantissa_shiftRight, mantissa_ofMantissaAndAccuracy, log2_div_two_pow]
  constructor
  · omega
  · omega

/-- A mantissa with the bits of a format is not zero. -/
theorem ne_zero_of_bits (hBits : format.mantissaBits ≤ m.log2 + 1) : m ≠ 0 := by
  rintro rfl
  have hSome := format.hm
  rw [Nat.log2_zero, mantissaBits_eq] at hBits
  omega

/-- **Rounding keeps the leading bit in its place or carries it one place further.** -/
theorem roundWithAccuracy_isNormal (sign : Sign) (accuracy : Accuracy)
    (hBits : format.mantissaBits ≤ m.log2 + 1)
    (hMin : format.minExponent ≤ m.log2 + 1 + e - format.mantissaBits) :
    IsNormal format sign (m.log2 + 1 + e) (m.log2 + 2 + e)
      (roundWithAccuracy format sign m e accuracy) := by
  have hFirst := shiftToTargetExponent_bits accuracy hBits hMin
  rw [roundWithAccuracy]
  generalize shiftToTargetExponent format m e accuracy = first at hFirst ⊢
  obtain ⟨em, place⟩ := first
  obtain ⟨hMantissa, hPlace⟩ := hFirst
  dsimp only at hMantissa hPlace ⊢
  -- all bits may be ones, so that the mantissa rounded up has one bit too many
  obtain ⟨hBelow, hAbove⟩ := roundedMantissa_mem em
  have hLow := log2_le_of_le hBelow
  have hHigh := (log2_le_of_le hAbove).trans (log2_succ_le em.mantissa)
  -- and is moved once more
  have hSecond := @shiftToTargetExponent_bits format em.roundedMantissa place .exact
    (by omega) (by omega)
  generalize shiftToTargetExponent format em.roundedMantissa place .exact = second at hSecond ⊢
  obtain ⟨final, finalPlace⟩ := second
  obtain ⟨hFinal, hFinalPlace⟩ := hSecond
  dsimp only at hFinal hFinalPlace ⊢
  rw [dif_neg (ne_zero_of_bits hFinal.ge)]
  exact .finite hFinal (by omega) (by omega)

/-- A number that is made to have enough bits keeps its leading bit in its place. -/
theorem decreaseExponent_bits (hm : m ≠ 0)
    (hMin : format.minExponent ≤ m.log2 + 1 + e - format.mantissaBits) :
    let moved := decreaseExponent m e (format.targetExponent (totalExponent m e))
    format.mantissaBits ≤ moved.1.log2 + 1 ∧
      (moved.1.log2 + 1 + moved.2 : Int) = m.log2 + 1 + e := by
  simp only [decreaseExponent, targetExponent_eq hMin, log2_shiftLeft hm]
  omega

theorem round_isNormal (sign : Sign) (hm : m ≠ 0)
    (hMin : format.minExponent ≤ m.log2 + 1 + e - format.mantissaBits) :
    IsNormal format sign (m.log2 + 1 + e) (m.log2 + 2 + e)
      (UnpackedFloat.round format sign m e) := by
  obtain ⟨hBits, hPlace⟩ := decreaseExponent_bits hm hMin
  have hRound := roundWithAccuracy_isNormal sign .exact hBits (hPlace ▸ hMin)
  exact hRound.mono (by omega) (by omega)

end Rounding

/-! ## Operations -/

section Operations

variable {format : Format} {s t : Sign} {a b c d : Int} {u v : UnpackedFloat}

theorem IsNormal.neg (h : IsNormal format s a b u) : IsNormal format (-s) a b u.neg := by
  obtain ⟨hBits, hFrom, hTo⟩ := h
  exact .finite hBits hFrom hTo

theorem IsNormal.mul (hu : IsNormal format s a b u) (hv : IsNormal format t c d v)
    (hMin : format.minExponent ≤ a + c - 1 - format.mantissaBits) :
    IsNormal format (s * t) (a + c - 1) (b + d + 1) (UnpackedFloat.mul format u v) := by
  obtain @⟨m, e, hPos, hBits, hFrom, hTo⟩ := hu
  obtain @⟨n, f, hPos', hBits', hFrom', hTo'⟩ := hv
  -- the product has twice as many bits or one less
  have hLog := log2_mul hPos.ne' hPos'.ne'
  have hRound := @roundWithAccuracy_isNormal format (m * n) (e + f) (s * t) .exact (by omega)
    (by omega)
  exact hRound.mono (by omega) (by omega)

/-- A quotient is worked out with the dividend moved up by as many places as the format has bits. -/
theorem div_finite {m n : Nat} {e f : Int} {hm : 0 < m} {hn : 0 < n}
    (hSame : m.log2 = n.log2) (hMin : format.minExponent ≤ e - f - format.mantissaBits) :
    UnpackedFloat.div format (.finite s m e hm) (.finite t n f hn) =
      roundWithAccuracy format (s / t) ((m <<< format.mantissaBits) / n)
        (e - f - format.mantissaBits)
        (accuracyOfFraction ((m <<< format.mantissaBits) % n) n) := by
  have hTarget : min (e - f) (format.targetExponent (totalExponent m e - totalExponent n f)) =
      e - f - format.mantissaBits := by
    rw [Format.targetExponent, totalExponent, totalExponent, max_eq_left (by omega)]
    omega
  have hCount : (e - f - (e - f - (format.mantissaBits : Int))).toNat = format.mantissaBits := by
    omega
  show roundWithAccuracy format (s / t) _ _ _ = _
  simp only [hTarget, hCount]

/-- The quotient that is worked out has all the bits of the format, or one more. -/
theorem div_finite_bits {m n : Nat} (hm : 0 < m) (hn : 0 < n) (hSame : m.log2 = n.log2) :
    format.mantissaBits ≤ ((m <<< format.mantissaBits) / n).log2 + 1 ∧
      ((m <<< format.mantissaBits) / n).log2 ≤ format.mantissaBits := by
  have hWidth := mantissaBits_eq format
  have hCount : format.mantissaBits = format.mantissaBitsWithoutImplicit + 1 := by omega
  obtain ⟨-, hLow, hHigh⟩ :=
    log2_shiftLeft_div hm.ne' hn.ne' hSame format.mantissaBitsWithoutImplicit
  rw [← hCount] at hLow hHigh
  exact ⟨by omega, hHigh⟩

theorem IsNormal.div (hu : IsNormal format s a b u) (hv : IsNormal format t c d v)
    (hMin : format.minExponent ≤ a - d - format.mantissaBits) :
    IsNormal format (s / t) (a - d) (b - c + 2) (UnpackedFloat.div format u v) := by
  obtain @⟨m, e, hPos, hBits, hFrom, hTo⟩ := hu
  obtain @⟨n, f, hPos', hBits', hFrom', hTo'⟩ := hv
  have hSame : m.log2 = n.log2 := by omega
  obtain ⟨hLow, hHigh⟩ := @div_finite_bits format m n hPos hPos' hSame
  rw [div_finite hSame (by omega)]
  have hRound := @roundWithAccuracy_isNormal format ((m <<< format.mantissaBits) / n)
    (e - f - format.mantissaBits) (s / t)
    (accuracyOfFraction ((m <<< format.mantissaBits) % n) n) hLow (by omega)
  exact hRound.mono (by omega) (by omega)

end Operations

/-! ## Whole numbers -/

section Whole

variable {format : Format} {n : Nat}

theorem ofNat_isNormal (hn : n ≠ 0)
    (hMin : format.minExponent ≤ (n.log2 + 1 : Nat) - format.mantissaBits) :
    IsNormal format .positive (n.log2 + 1) (n.log2 + 2) (UnpackedFloat.ofNat format n) := by
  have hSign : compare (n : Int) 0 = .gt := compare_gt_iff_gt.mpr (by omega)
  have hRound := @round_isNormal format n 0 .positive hn (by omega)
  rw [UnpackedFloat.ofNat, UnpackedFloat.ofInt, UnpackedFloat.normalize, hSign]
  exact hRound.mono (by omega) (by omega)

/-- The digits of a whole number, read as a decimal number without places. -/
theorem ofScientific_isNormal (hn : n ≠ 0)
    (hMin : format.minExponent ≤ (n.log2 + 1 : Nat) - format.mantissaBits) :
    IsNormal format .positive (n.log2 + 1) (n.log2 + 2)
      (UnpackedFloat.ofScientific format n 0) := by
  -- without places, neither check for exponents that are far out applies
  have hExponents : (0 : Int) < 2 ^ format.exponentBits := Int.pow_pos (by decide)
  have hNotHuge : ¬ (0 : Int) > 2 ^ format.exponentBits := by omega
  have hNotTiny : ¬ (0 : Int) < -((2 ^ format.exponentBits : Int) + n.log2) := by omega
  rw [UnpackedFloat.ofScientific, dif_neg hn, if_neg hNotHuge, if_neg hNotTiny, if_pos (le_refl 0)]
  -- what remains is a product with one
  have hLog : ((n <<< format.mantissaBits) * 10 ^ (0 : Int).toNat).log2 =
      n.log2 + format.mantissaBits := by
    rw [Int.toNat_zero, Nat.pow_zero, Nat.mul_one, log2_shiftLeft hn]
  have hRound := @roundWithAccuracy_isNormal format
    ((n <<< format.mantissaBits) * 10 ^ (0 : Int).toNat) (-format.mantissaBits + 0)
    (.positive * .positive) .exact (by omega) (by omega)
  exact hRound.mono (by omega) (by omega)

end Whole

/-! ## Packing -/

section Packing

variable {format : Format} {s : Sign} {low high : Int} {u : UnpackedFloat}

theorem unpackSign_packComponents (s : Sign) (exponent : BitVec format.exponentBits)
    (mantissa : BitVec format.mantissaBitsWithoutImplicit) :
    unpackSign (packComponents format s exponent mantissa) = s.toBitVec := by
  show BitVec.cast _ (BitVec.extractLsb _ _ (s.toBitVec ++ exponent ++ mantissa)) = s.toBitVec
  ext i hi
  obtain rfl : i = 0 := by omega
  simp +arith [BitVec.extractLsb, BitVec.getElem_append]

theorem ofBitVec_toBitVec (s : Sign) : Sign.ofBitVec s.toBitVec = s := by
  cases s <;> rfl

/-- A mantissa with all the bits of a format is its leading bit and the others. -/
theorem toNat_leadingBit_append {m : Nat} (hPos : 0 < m)
    (hBits : m.log2 + 1 = format.mantissaBits) :
    (1#1 ++ BitVec.ofNat format.mantissaBitsWithoutImplicit m).toNat = m := by
  have hLog : m.log2 = format.mantissaBitsWithoutImplicit := by
    rw [mantissaBits_eq] at hBits
    omega
  obtain ⟨hLow, hHigh⟩ := (Nat.log2_eq_iff hPos.ne').mp hLog
  generalize format.mantissaBitsWithoutImplicit = width at hLow hHigh ⊢
  -- less its leading bit, the mantissa fits the bits that are kept
  have hOthers : m % 2 ^ width + 2 ^ width = m := by
    rw [Nat.mod_eq_sub_mod hLow, Nat.mod_eq_of_lt]
    · exact Nat.sub_add_cancel hLow
    · rw [Nat.pow_succ] at hHigh
      omega
  have hOr := Nat.two_pow_add_eq_or_of_lt (Nat.mod_lt m (Nat.two_pow_pos width)) 1
  rw [BitVec.toNat_append, BitVec.toNat_ofNat, BitVec.toNat_ofNat, Nat.shiftLeft_eq, Nat.pow_one,
    Nat.mod_eq_of_lt Nat.one_lt_two, Nat.mul_comm, ← hOr, Nat.mul_one, Nat.add_comm, hOthers]

/-- A number with all the bits of a format is packed by leaving out the leading one. -/
theorem pack_normal {m biased : Nat} {e : Int} {hPos : 0 < m}
    (hBits : m.log2 + 1 = format.mantissaBits)
    (hBiased : (e + format.exponentBias + format.mantissaBitsWithoutImplicit).toNat = biased)
    (hTop : ¬ Nat.pow 2 format.exponentBits ≤ biased + 1) :
    pack format (.finite s m e hPos) =
      packComponents format s (BitVec.ofNat _ biased) (BitVec.ofNat _ m) := by
  subst hBiased
  exact (if_neg hTop).trans (if_pos hBits)

theorem leadingBit_pos {width : Nat} (others : BitVec width) : 0 < (1#1 ++ others).toNat := by
  simp

/-- What is neither of the largest exponent nor of the smallest one is unpacked by putting the
leading bit back. -/
theorem unpack_normal {bits : BitVec format.numBits} (hNotTop : unpackExponent bits ≠ -1#_)
    (hNotZero : unpackExponent bits ≠ 0#_) :
    unpack format bits =
      .finite (Sign.ofBitVec (unpackSign bits)) (1#1 ++ unpackMantissa bits).toNat
        ((unpackExponent bits).toNat - (format.exponentBias + format.mantissaBitsWithoutImplicit))
        (leadingBit_pos _) :=
  (if_neg hNotTop).trans (if_neg hNotZero)

theorem finite_eq {s t : Sign} {m n : Nat} {e f : Int} {hm : 0 < m} {hn : 0 < n} (hSign : s = t)
    (hMantissa : m = n) (hExponent : e = f) :
    UnpackedFloat.finite s m e hm = .finite t n f hn := by
  subst hSign hMantissa hExponent
  rfl

/-- A number within the exponents of a format is not changed by packing it. -/
theorem IsNormal.unpack_pack (h : IsNormal format s low high u)
    (hLow : format.minExponent + format.mantissaBits ≤ low)
    (hHigh : high ≤ format.exponentBias + 1) :
    unpack format (pack format u) = u := by
  obtain @⟨m, e, hPos, hBits, hFrom, hTo⟩ := h
  have hMantissa := mantissaBits_eq format
  -- the bias is half the number of exponents
  have hHalf : 2 ^ (format.exponentBits - 1) = format.exponentBias + 1 :=
    (Nat.sub_add_cancel (Nat.two_pow_pos _)).symm
  have hTop : Nat.pow 2 format.exponentBits = 2 * (format.exponentBias + 1) := by
    show 2 ^ format.exponentBits = 2 * (format.exponentBias + 1)
    rw [← hHalf, ← Nat.pow_succ', Nat.succ_eq_add_one, Nat.sub_add_cancel format.he]
  have hMin : format.minExponent + format.mantissaBits = 2 - (format.exponentBias : Int) := by
    have hHalfInt : (2 : Int) ^ (format.exponentBits - 1) = format.exponentBias + 1 := by
      exact_mod_cast hHalf
    rw [Format.minExponent, hHalfInt]
    omega
  generalize hBiased : (e + format.exponentBias + format.mantissaBitsWithoutImplicit).toNat = biased
  -- so the exponent is neither that of infinities nor that of numbers without a leading bit
  have hSome : biased ≠ 0 := by omega
  have hLess : ¬ Nat.pow 2 format.exponentBits ≤ biased + 1 := by omega
  have hCode : (BitVec.ofNat format.exponentBits biased).toNat = biased := by
    refine (BitVec.toNat_ofNat biased _).trans (Nat.mod_eq_of_lt ?_)
    show biased < Nat.pow 2 format.exponentBits
    omega
  rw [pack_normal hBits hBiased hLess, unpack_normal]
  · refine finite_eq ?_ ?_ ?_
    · rw [unpackSign_packComponents, ofBitVec_toBitVec]
    · rw [unpackMantissa_packComponents, toNat_leadingBit_append hPos hBits]
    · rw [unpackExponent_packComponents, hCode]
      omega
  · rw [unpackExponent_packComponents]
    intro hEq
    have hNat := congrArg BitVec.toNat hEq
    rw [hCode, BitVec.neg_one_eq_allOnes, BitVec.toNat_allOnes] at hNat
    have hAll : biased = Nat.pow 2 format.exponentBits - 1 := hNat
    omega
  · rw [unpackExponent_packComponents]
    intro hEq
    have hNat := congrArg BitVec.toNat hEq
    rw [hCode, BitVec.toNat_ofNat, Nat.zero_mod] at hNat
    exact hSome hNat

end Packing

end HardwareReport.Number
