import HardwareReport.Proofs.Number.Doubles
import HardwareReport.Proofs.Processor.Percentage

/-!
# Processor — counters that go back

Counters that went backwards, as they do when they roll over, are to make a load zero. It is worked
out from the sum of all changes and from that of the idle counter alone, though, so that only an
idle counter that goes back is always noticed. One of the others is not if the rest of them outweigh
it: what is left over is then told as a load (`Ticks.loadSince_userBack`).

* `Elapsed.load_eq_zero_iff` — what has to pass for a load that is not zero, rounding included.

Main result: `Ticks.loadSince_eq_zero_iff`.
-/

namespace HardwareReport

open Number
open Float.Model.UnpackedFloat

/-! ## Numbers of ticks -/

theorem isDouble_hundred : IsDouble .positive 7 10 100 := by
  have hLog : Nat.log2 100 = 6 := by decide +kernel
  have hOfNat := @isDouble_ofNat 100 (by decide) (by omega)
  rw [hLog] at hOfNat
  exact hOfNat

/-- A number of ticks in double precision. -/
theorem isDouble_ofInt {n : Int} (hn : n ≠ 0) (hSize : n.natAbs < 0x40000000000000000) :
    IsDouble (if 0 < n then .positive else .negative) 1 69 (Float.ofInt n) := by
  have hNe : n.natAbs ≠ 0 := Int.natAbs_ne_zero.mpr hn
  have hLog : n.natAbs.log2 < 66 := (Nat.log2_lt hNe).mpr (hSize.trans_le (by decide))
  have hOfNat := (isDouble_ofNat hNe (by omega)).mono (c := 1) (d := 69) (by omega) (by omega)
  cases n with
  | ofNat count =>
    have hForth : 0 < Int.ofNat count := lt_of_le_of_ne (Int.natCast_nonneg count) hn.symm
    rw [if_pos hForth]
    exact hOfNat
  | negSucc count =>
    rw [if_neg (Int.negSucc_lt_zero count).not_gt]
    exact hOfNat.neg (by decide) (by decide)

namespace Elapsed

variable {e : Elapsed}

/-- The share of ticks that were not idle, in double precision: its sign is that of their number,
and it is neither too large nor too small for single precision. -/
theorem isDouble_percent {busy total : Int} (hBusy : busy ≠ 0) (hTotal : 0 < total)
    (hBusySize : busy.natAbs < 0x40000000000000000)
    (hTotalSize : total.natAbs < 0x40000000000000000) :
    IsDouble (if 0 < busy then .positive else .negative) (-62) 81
      (100 * Float.ofInt busy / Float.ofInt total) := by
  have hPart := isDouble_hundred.mul (isDouble_ofInt hBusy hBusySize) (by decide) (by decide)
  have hWhole := isDouble_ofInt hTotal.ne' hTotalSize
  rw [if_pos hTotal] at hWhole
  have hShare := hPart.div hWhole (by decide) (by decide)
  by_cases hSign : 0 < busy
  · rw [if_pos hSign] at hShare ⊢
    exact hShare
  · rw [if_neg hSign] at hShare ⊢
    exact hShare

theorem narrow_clampPercent_ne_zero {x : Float} (h : IsDouble .positive (-62) 81 x) :
    narrow (clampPercent x) ≠ 0 := by
  rw [clampPercent, if_neg h.not_lt_zero]
  split
  · exact isDouble_hundred.narrow_ne_zero (by decide) (by decide)
  · exact h.narrow_ne_zero (by decide) (by decide)

theorem narrow_zero : narrow 0 = 0 := by
  decide +kernel

theorem narrow_clampPercent_of_lt {x : Float} (h : x < 0) : narrow (clampPercent x) = 0 := by
  rw [clampPercent, if_pos h, narrow_zero]

/-- Without ticks that were not idle there is no load, rounded or not. -/
theorem percent_zero {x : Float} {a b : Int} (h : IsDouble .positive a b x) :
    narrow (clampPercent (100 * Float.ofInt 0 / x)) = 0 := by
  have hNone : 100 * Float.ofInt 0 = 0 := by decide +kernel
  have hClamp : narrow (clampPercent 0) = 0 := by decide +kernel
  rw [hNone, h.zero_div, hClamp]

/-- **A load is zero exactly if the idle ticks went back or no others passed.** -/
theorem load_eq_zero_iff (hTotal : e.total.natAbs < 0x40000000000000000)
    (hBusy : (e.total - e.idle).natAbs < 0x40000000000000000) :
    e.load Float.ofInt narrow = 0 ↔ e.idle < 0 ∨ e.total ≤ e.idle := by
  rw [load]
  split
  · next hMeasured =>
    obtain ⟨hSome, hIdle⟩ := isMeasured_iff.mp hMeasured
    have hNotBack : ¬ e.idle < 0 := hIdle.not_gt
    -- the sign of the share is that of the ticks that were not idle
    rcases lt_trichotomy (e.total - e.idle) 0 with hBack | hNone | hForth
    · -- the share is below zero and clamped
      have hShare := isDouble_percent hBack.ne hSome hBusy hTotal
      rw [if_neg hBack.not_gt] at hShare
      rw [narrow_clampPercent_of_lt hShare.lt_zero]
      simp only [true_iff]
      omega
    · -- nothing is divided
      have hWhole := isDouble_ofInt hSome.ne' hTotal
      rw [if_pos hSome] at hWhole
      rw [hNone, percent_zero hWhole]
      simp only [true_iff]
      omega
    · -- neither the division nor single precision rounds the share to zero
      have hShare := isDouble_percent hForth.ne' hSome hBusy hTotal
      rw [if_pos hForth] at hShare
      simp only [narrow_clampPercent_ne_zero hShare, false_iff]
      omega
  · next hMeasured =>
    have hNot := mt isMeasured_iff.mpr hMeasured
    simp only [true_iff]
    omega

end Elapsed

/-! ## Samples -/

/-- **Counters that go back.** A load is zero exactly if the idle counter went back or if the other
counters together did not go forth. That one of those went back therefore makes a load zero only if
the rest of them do not outweigh it, however much time was idle; it goes unnoticed otherwise. -/
theorem Ticks.loadSince_eq_zero_iff (now before : Ticks) :
    now.loadSince before = 0 ↔
      now.idle < before.idle ∨
        now.user.toNat + now.nice.toNat + now.system.toNat ≤
          before.user.toNat + before.nice.toNat + before.system.toNat := by
  have hUser := Elapsed.change_mem before.user now.user
  have hNice := Elapsed.change_mem before.nice now.nice
  have hSystem := Elapsed.change_mem before.system now.system
  have hIdle := Elapsed.change_mem before.idle now.idle
  -- changes of four counters of sixty-four bits come to less than 2^66
  rw [loadSince, Elapsed.load_eq_zero_iff (by rw [Elapsed.between]; dsimp only; omega)
    (by rw [Elapsed.between]; dsimp only; omega), UInt64.lt_iff_toNat_lt]
  simp only [Elapsed.between, Elapsed.change]
  omega

/-- The user's ticks go back by one, which goes unnoticed: the load is not zero but the half that
the others make up. -/
theorem Ticks.loadSince_userBack :
    (⟨4, 0, 9, 18⟩ : Ticks).user < (⟨5, 0, 0, 10⟩ : Ticks).user ∧
      (⟨4, 0, 9, 18⟩ : Ticks).loadSince ⟨5, 0, 0, 10⟩ = 50 ∧ (50 : Float32) ≠ 0 := by
  decide +kernel

end HardwareReport
