import HardwareReport.Proofs.Number.Normal

/-!
# Number — double-precision arithmetic

Whole numbers, their products and quotients in double precision, by sign and by the place of the
leading bit. A number in the middle of the range is neither zero itself nor in single precision.

* `IsDouble` — a double-precision number with a sign and its leading bit in a range.

## Results

* `isDouble_ofNat`, `IsDouble.neg`, `IsDouble.mul`, `IsDouble.div` — what is worked out;
* `IsDouble.lt_zero`, `IsDouble.not_lt_zero` — how it compares with zero;
* `IsDouble.narrow_ne_zero` — that it does not vanish.
-/

namespace HardwareReport.Number

open Float.Model (Format UnpackedFloat totalExponent)
open Float.Model.UnpackedFloat

/-- A double-precision number with a sign and with its leading bit between two places. -/
def IsDouble (sign : Sign) (low high : Int) (x : Float) : Prop :=
  IsNormal Format.binary64 sign low high (ofFloat x)

section Doubles

variable {s t : Sign} {a b c d : Int} {x y : Float} {u : UnpackedFloat}

theorem minExponent_binary64 :
    Format.binary64.minExponent + Format.binary64.mantissaBits = -1021 := by
  decide

theorem minExponent_binary32 :
    Format.binary32.minExponent + Format.binary32.mantissaBits = -125 := by
  decide

/-- What fits is put together as it was taken apart. -/
theorem IsNormal.ofFloat_pack (h : IsNormal Format.binary64 s a b u) (hLow : -1021 ≤ a)
    (hHigh : b ≤ 1024) : ofFloat (.ofModel (.pack u)) = u :=
  h.unpack_pack (minExponent_binary64 ▸ hLow) hHigh

theorem IsNormal.isDouble (h : IsNormal Format.binary64 s a b u) (hLow : -1021 ≤ a)
    (hHigh : b ≤ 1024) : IsDouble s a b (.ofModel (.pack u)) := by
  rw [IsDouble, h.ofFloat_pack hLow hHigh]
  exact h

theorem IsDouble.neg (h : IsDouble s a b x) (hLow : -1021 ≤ a) (hHigh : b ≤ 1024) :
    IsDouble (-s) a b (Float.neg x) :=
  (IsNormal.neg h).isDouble hLow hHigh

theorem IsDouble.mul (hx : IsDouble s a b x) (hy : IsDouble t c d y)
    (hLow : -1021 ≤ a + c - 1) (hHigh : b + d + 1 ≤ 1024) :
    IsDouble (s * t) (a + c - 1) (b + d + 1) (x * y) := by
  have hMin := minExponent_binary64
  exact (IsNormal.mul hx hy (by omega)).isDouble hLow hHigh

theorem IsDouble.ofFloat_div (hx : IsDouble s a b x) (hy : IsDouble t c d y)
    (hLow : -1021 ≤ a - d) (hHigh : b - c + 2 ≤ 1024) :
    ofFloat (x / y) = UnpackedFloat.div Format.binary64 (ofFloat x) (ofFloat y) := by
  have hMin := minExponent_binary64
  exact (IsNormal.div hx hy (by omega)).ofFloat_pack hLow hHigh

theorem IsDouble.div (hx : IsDouble s a b x) (hy : IsDouble t c d y)
    (hLow : -1021 ≤ a - d) (hHigh : b - c + 2 ≤ 1024) :
    IsDouble (s / t) (a - d) (b - c + 2) (x / y) := by
  have hMin := minExponent_binary64
  exact (IsNormal.div hx hy (by omega)).isDouble hLow hHigh

theorem IsDouble.mono (h : IsDouble s a b x) (hLow : c ≤ a) (hHigh : b ≤ d) : IsDouble s c d x :=
  IsNormal.mono h hLow hHigh

/-! ## Whole numbers -/

theorem one_eq : Float.ofBits 0x3FF0000000000000 =
    .ofModel (.pack (.finite .positive 0x10000000000000 (-52) (by decide))) := by
  decide +kernel

theorem isNormal_one : IsNormal Format.binary64 .positive 1 1
    (.finite .positive 0x10000000000000 (-52) (by decide)) :=
  .finite (by decide +kernel) (by decide +kernel) (by decide +kernel)

theorem isDouble_one : IsDouble .positive 1 1 (Float.ofBits 0x3FF0000000000000) := by
  rw [one_eq]
  exact isNormal_one.isDouble (by decide) (by decide)

/-- A whole number of few bits is taken as a machine word, times one. -/
theorem ofNat_eq_mul_one {n : Nat} (hSmall : n < Nat.pow 2 53) :
    Float.ofNat n = .ofModel (.pack (UnpackedFloat.ofNat Format.binary64 n)) *
      Float.ofBits 0x3FF0000000000000 := by
  have hProduct : Float.ofNat n = n.toUInt64.toFloat * Float.ofBits 0x3FF0000000000000 := by
    show Float.ofScientific n false 0 = _
    rw [Float.ofScientific, dif_pos ⟨hSmall, Nat.zero_le 22⟩]
    rfl
  have hWord : n.toUInt64.toNat = n := by
    refine UInt64.toNat_ofNat_of_lt' (hSmall.trans ?_)
    decide
  rw [hProduct, UInt64.toFloat, Float.Model.ofUInt64, UnpackedFloat.ofUInt64, hWord]

/-- A whole number, whichever way it is read. -/
theorem isDouble_ofNat {n : Nat} (hn : n ≠ 0) (hHigh : n.log2 < 1000) :
    IsDouble .positive (n.log2 + 1) (n.log2 + 4) (Float.ofNat n) := by
  have hMin := minExponent_binary64
  by_cases hSmall : n < 2 ^ 53 ∧ 0 ≤ 22
  · have hNormal := (@ofNat_isNormal Format.binary64 n hn (by omega)).isDouble (by omega) (by omega)
    rw [ofNat_eq_mul_one hSmall.1]
    exact (IsDouble.mul hNormal isDouble_one (by omega) (by omega)).mono (by omega) (by omega)
  · have hModel : Float.ofNat n = .ofModel (.ofScientific n 0) := by
      show Float.ofScientific n false 0 = _
      rw [Float.ofScientific, dif_neg hSmall]
      rfl
    rw [hModel]
    exact ((ofScientific_isNormal hn (by omega)).isDouble (by omega) (by omega)).mono (by omega)
      (by omega)

/-! ## Zero -/

theorem zero_eq : (0 : Float) = .ofModel (.pack (.zero .positive)) := by
  decide +kernel

theorem ofFloat_zero : ofFloat 0 = .zero .positive := by
  rw [zero_eq]
  rfl

theorem lt_iff : x < y ↔ (ofFloat x).lt (ofFloat y) = true :=
  decide_eq_true_iff

theorem IsDouble.lt_zero (h : IsDouble .negative a b x) : x < 0 := by
  rw [lt_iff, ofFloat_zero]
  rw [IsDouble] at h
  generalize ofFloat x = u at h ⊢
  obtain ⟨-, -, -⟩ := h
  rfl

theorem IsDouble.not_lt_zero (h : IsDouble .positive a b x) : ¬ x < 0 := by
  rw [lt_iff, ofFloat_zero]
  rw [IsDouble] at h
  generalize ofFloat x = u at h ⊢
  obtain ⟨-, -, -⟩ := h
  exact Bool.false_ne_true

/-- Zero stays zero when it is divided. -/
theorem IsDouble.zero_div (h : IsDouble .positive a b x) : 0 / x = 0 := by
  have hDiv : 0 / x =
      .ofModel (.pack (UnpackedFloat.div Format.binary64 (ofFloat 0) (ofFloat x))) := rfl
  rw [hDiv, ofFloat_zero, zero_eq]
  rw [IsDouble] at h
  generalize ofFloat x = u at h ⊢
  obtain ⟨-, -, -⟩ := h
  rfl

/-! ## Single precision -/

theorem ofFloat32_zero : ofFloat32 0 = .zero .positive := by
  have hZero : (0 : Float32) = .ofModel (.pack (.zero .positive)) := by decide +kernel
  rw [hZero]
  rfl

/-- A number well within the range of single precision does not vanish in it. -/
theorem IsDouble.narrow_ne_zero (h : IsDouble s a b x) (hLow : -125 ≤ a) (hHigh : b < 128) :
    narrow x ≠ 0 := by
  have hMin := minExponent_binary32
  have hRound : IsNormal Format.binary32 s a (b + 1) (roundTo Format.binary32 (ofFloat x)) := by
    rw [IsDouble] at h
    generalize ofFloat x = u at h ⊢
    obtain ⟨-, hFrom, hTo⟩ := h
    exact (round_isNormal s (Nat.pos_iff_ne_zero.mp ‹_›) (by omega)).mono hFrom (by omega)
  -- what fits is kept by packing
  have hPacked := hRound.unpack_pack (minExponent_binary32 ▸ hLow) (by
    show b + 1 ≤ 128
    omega)
  have hNarrow : ofFloat32 (narrow x) = roundTo Format.binary32 (ofFloat x) := by
    show unpack _ (pack _ (unpack _ (pack _ (roundTo Format.binary32 (ofFloat x))))) = _
    rw [hPacked, hPacked]
  intro hZero
  rw [hZero, ofFloat32_zero] at hNarrow
  rw [← hNarrow] at hRound
  cases hRound

end Doubles

end HardwareReport.Number
