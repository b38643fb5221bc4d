import HardwareReport.Processor.Ticks
import Mathlib.Algebra.Order.Field.Rat
import Mathlib.Tactic.FieldSimp
import Mathlib.Tactic.Linarith
import Mathlib.Tactic.Ring

/-!
# Processor — the load in exact arithmetic

What the load would be if no number were rounded: the same computation (`Elapsed.load`) with
rational numbers in place of floating-point ones.

Over ticks of which no more were idle than there were, the load is a true percentage, and total
times load is one hundred times the ticks that were not idle (`total_mul_exactLoad`). That number
adds up over windows that follow each other, and so does total times load.

* `Elapsed.exactLoad`, `Ticks.exactLoadSince` — the load without rounding;
* `busyPercent` — the share of ticks that is not idle;
* `Elapsed.checked?` — what passed, worked out in numbers of 128 bits;
* `Ticks.Follows` — no counter of one sample is less than that of another.

Main result: `Ticks.exactLoad_windows` — the load is always defined and a percentage, and the load
of a window is the mean of those of its parts, weighted by their ticks.
-/

namespace HardwareReport

/-! ## The load -/

/-- The percentage of elapsed ticks that were not idle, without rounding. -/
def Elapsed.exactLoad (e : Elapsed) : ℚ :=
  e.load (fun n => (n : ℚ)) id

/-- The percentage of time since the sample `before` that was not idle, without rounding. -/
def Ticks.exactLoadSince (now before : Ticks) : ℚ :=
  (Elapsed.between before now).exactLoad

theorem clampPercent_nonneg (x : ℚ) : 0 ≤ clampPercent x := by
  rw [clampPercent]
  split
  · exact le_refl 0
  · next hLow =>
    split
    · norm_num
    · exact not_lt.mp hLow

theorem clampPercent_le (x : ℚ) : clampPercent x ≤ 100 := by
  rw [clampPercent]
  split
  · norm_num
  · split
    · exact le_refl 100
    · next hHigh => exact not_lt.mp hHigh

theorem clampPercent_of_le {x : ℚ} (hHigh : x ≤ 100) : clampPercent x = max 0 x := by
  rw [clampPercent]
  split
  · next hLow => exact (max_eq_left hLow.le).symm
  · next hLow =>
    rw [if_neg (not_lt.mpr hHigh), max_eq_right (not_lt.mp hLow)]

/-- The share of `total` ticks that is left without `idle` ones, in percent. It is zero where more
are idle than there are, and where there are none. -/
def busyPercent (total idle : Int) : ℚ :=
  if total = 0 then 0 else 100 * max 0 ((total : ℚ) - idle) / total

theorem max_zero_percent {busy total : ℚ} (hPos : 0 < total) :
    max 0 (100 * busy / total) = 100 * max 0 busy / total := by
  rcases le_total 0 busy with hBusy | hBusy
  · rw [max_eq_right hBusy, max_eq_right (div_nonneg (mul_nonneg (by norm_num) hBusy) hPos.le)]
  · have hLow : 100 * busy / total ≤ 0 :=
      div_nonpos_of_nonpos_of_nonneg (by linarith) hPos.le
    rw [max_eq_left hBusy, max_eq_left hLow, mul_zero, zero_div]

namespace Elapsed

variable {e : Elapsed}

theorem isMeasured_iff : e.isMeasured = true ↔ 0 < e.total ∧ 0 ≤ e.idle := by
  rw [isMeasured, Bool.and_eq_true, decide_eq_true_eq, decide_eq_true_eq]

theorem exactLoad_of_measured (h : e.isMeasured = true) :
    e.exactLoad = clampPercent (100 * ((e.total - e.idle : Int) : ℚ) / (e.total : ℚ)) := by
  rw [exactLoad, load, if_pos h, id]

theorem exactLoad_of_not_measured (h : ¬ e.isMeasured = true) : e.exactLoad = 0 := by
  rw [exactLoad, load, if_neg h]

theorem exactLoad_of_total_eq_zero (h : e.total = 0) : e.exactLoad = 0 := by
  refine exactLoad_of_not_measured fun hMeasured => ?_
  have hPos := (isMeasured_iff.mp hMeasured).1
  omega

/-- A load is a percentage, whatever passed. -/
theorem exactLoad_mem (e : Elapsed) : 0 ≤ e.exactLoad ∧ e.exactLoad ≤ 100 := by
  by_cases h : e.isMeasured = true
  · rw [exactLoad_of_measured h]
    exact ⟨clampPercent_nonneg _, clampPercent_le _⟩
  · rw [exactLoad_of_not_measured h]
    norm_num

/-- Where neither the sum nor the idle ticks went back, the load is the share of the ticks that were
not idle. -/
theorem exactLoad_eq (hTotal : 0 ≤ e.total) (hIdle : 0 ≤ e.idle) :
    e.exactLoad = busyPercent e.total e.idle := by
  rw [busyPercent]
  by_cases hNone : e.total = 0
  · rw [exactLoad_of_total_eq_zero hNone, if_pos hNone]
  · have hMeasured : e.isMeasured = true := isMeasured_iff.mpr ⟨by omega, hIdle⟩
    have hPos : (0 : ℚ) < e.total := by exact_mod_cast (isMeasured_iff.mp hMeasured).1
    have hIdleCast : (0 : ℚ) ≤ e.idle := by exact_mod_cast hIdle
    rw [exactLoad_of_measured hMeasured, Int.cast_sub, if_neg hNone]
    -- idle ticks only take away from the whole
    have hHigh : 100 * ((e.total : ℚ) - e.idle) / e.total ≤ 100 := by
      rw [div_le_iff₀ hPos]
      linarith
    rw [clampPercent_of_le hHigh, max_zero_percent hPos]

/-- Total times load is one hundred times the ticks that were not idle, also if there were none. -/
theorem total_mul_exactLoad (hIdle : 0 ≤ e.idle) (hTotal : e.idle ≤ e.total) :
    (e.total : ℚ) * e.exactLoad = 100 * ((e.total : ℚ) - e.idle) := by
  have hBusy : (0 : ℚ) ≤ (e.total : ℚ) - e.idle := by
    have : (e.idle : ℚ) ≤ e.total := by exact_mod_cast hTotal
    linarith
  rw [exactLoad_eq (hIdle.trans hTotal) hIdle, busyPercent]
  by_cases hNone : e.total = 0
  · have hIdleNone : e.idle = 0 := by omega
    rw [if_pos hNone, hNone, hIdleNone]
    norm_num
  · have hNe : (e.total : ℚ) ≠ 0 := by exact_mod_cast hNone
    rw [if_neg hNone, max_eq_right hBusy]
    exact mul_div_cancel₀ _ hNe

end Elapsed

/-! ## Windows that follow each other -/

/-- No counter of a sample is less than that of an earlier one. -/
structure Ticks.Follows (now before : Ticks) : Prop where
  user : before.user ≤ now.user
  nice : before.nice ≤ now.nice
  system : before.system ≤ now.system
  idle : before.idle ≤ now.idle

theorem Elapsed.change_nonneg {before now : UInt64} (h : before ≤ now) : 0 ≤ change before now := by
  have hNat := UInt64.le_iff_toNat_le.mp h
  rw [change]
  omega

/-- No more ticks are idle than there are. -/
theorem Ticks.Follows.elapsed {now before : Ticks} (h : now.Follows before) :
    0 ≤ (Elapsed.between before now).idle ∧
      (Elapsed.between before now).idle ≤ (Elapsed.between before now).total := by
  have hUser := Elapsed.change_nonneg h.user
  have hNice := Elapsed.change_nonneg h.nice
  have hSystem := Elapsed.change_nonneg h.system
  have hIdle := Elapsed.change_nonneg h.idle
  rw [Elapsed.between]
  exact ⟨hIdle, by dsimp only; omega⟩

/-- Total times load adds up over two windows that follow each other. -/
theorem Ticks.total_mul_exactLoadSince_add {a b c : Ticks} (hb : b.Follows a) (hc : c.Follows b) :
    ((Elapsed.between a c).total : ℚ) * c.exactLoadSince a =
      (Elapsed.between a b).total * b.exactLoadSince a +
        (Elapsed.between b c).total * c.exactLoadSince b := by
  obtain ⟨hIdleAB, hTotalAB⟩ := hb.elapsed
  obtain ⟨hIdleBC, hTotalBC⟩ := hc.elapsed
  -- changes add up over the sample in between
  have hIdle : (Elapsed.between a c).idle =
      (Elapsed.between a b).idle + (Elapsed.between b c).idle := by
    rw [Elapsed.between_trans a b c]
  have hTotal : (Elapsed.between a c).total =
      (Elapsed.between a b).total + (Elapsed.between b c).total := by
    rw [Elapsed.between_trans a b c]
  rw [exactLoadSince, exactLoadSince, exactLoadSince,
    Elapsed.total_mul_exactLoad (by omega) (by omega),
    Elapsed.total_mul_exactLoad hIdleAB hTotalAB, Elapsed.total_mul_exactLoad hIdleBC hTotalBC,
    hIdle, hTotal]
  push_cast
  ring

/-- A weighted mean of two numbers, with weights that are not negative and not both zero, lies
between the two. -/
theorem mean_mem_of_total_pos {x y z s t : ℚ} (hs : 0 ≤ s) (ht : 0 ≤ t) (hPos : 0 < s + t)
    (hMean : (s + t) * z = s * x + t * y) : min x y ≤ z ∧ z ≤ max x y := by
  constructor
  · refine le_of_mul_le_mul_left ?_ hPos
    have hx : s * min x y ≤ s * x := mul_le_mul_of_nonneg_left (min_le_left x y) hs
    have hy : t * min x y ≤ t * y := mul_le_mul_of_nonneg_left (min_le_right x y) ht
    linarith
  · refine le_of_mul_le_mul_left ?_ hPos
    have hx : s * x ≤ s * max x y := mul_le_mul_of_nonneg_left (le_max_left x y) hs
    have hy : t * y ≤ t * max x y := mul_le_mul_of_nonneg_left (le_max_right x y) ht
    linarith

/-- The load of a window lies between those of the two parts that it is split into. -/
theorem Ticks.exactLoadSince_mem {a b c : Ticks} (hb : b.Follows a) (hc : c.Follows b) :
    min (b.exactLoadSince a) (c.exactLoadSince b) ≤ c.exactLoadSince a ∧
      c.exactLoadSince a ≤ max (b.exactLoadSince a) (c.exactLoadSince b) := by
  obtain ⟨hIdleAB, hTotalAB⟩ := hb.elapsed
  obtain ⟨hIdleBC, hTotalBC⟩ := hc.elapsed
  have hSum : (Elapsed.between a c).total =
      (Elapsed.between a b).total + (Elapsed.between b c).total := by
    rw [Elapsed.between_trans a b c]
  have hMean := total_mul_exactLoadSince_add hb hc
  by_cases hNone : (Elapsed.between a c).total = 0
  · -- no part saw a tick, so all loads are zero
    have hAC : c.exactLoadSince a = 0 := Elapsed.exactLoad_of_total_eq_zero hNone
    have hAB : b.exactLoadSince a = 0 := Elapsed.exactLoad_of_total_eq_zero (by omega)
    have hBC : c.exactLoadSince b = 0 := Elapsed.exactLoad_of_total_eq_zero (by omega)
    rw [hAC, hAB, hBC]
    simp
  · -- the load is the mean of the loads of the parts, weighted by their ticks
    rw [hSum, Int.cast_add] at hMean
    refine mean_mem_of_total_pos ?_ ?_ ?_ hMean
    · exact_mod_cast hIdleAB.trans hTotalAB
    · exact_mod_cast hIdleBC.trans hTotalBC
    · have hPos : 0 < (Elapsed.between a b).total + (Elapsed.between b c).total := by omega
      exact_mod_cast hPos

/-! ## The width of the numbers -/

/-- A number, if it is one of 128 bits with a sign. -/
def fitting? (n : Int) : Option Int :=
  if -0x80000000000000000000000000000000 ≤ n ∧ n < 0x80000000000000000000000000000000 then some n
  else none

/-- The change of one counter, in numbers of 128 bits. -/
def Elapsed.checkedChange? (before now : UInt64) : Option Int := do
  let now ← fitting? now.toNat
  let before ← fitting? before.toNat
  fitting? (now - before)

/-- What passed between two samples, and how much of it was not idle. Every step is worked out in
numbers of 128 bits; there is no result if one of them leads out of these. -/
def Elapsed.checked? (before now : Ticks) : Option (Elapsed × Int) := do
  let changes ← (before.toList.zip now.toList).mapM fun counter =>
    Elapsed.checkedChange? counter.1 counter.2
  let total ← changes.foldlM (fun sum change => fitting? (sum + change)) 0
  let idle ← changes.getLast?
  let busy ← fitting? (total - idle)
  return (⟨total, idle⟩, busy)

theorem fitting?_eq_some {n : Int} (hLow : -0x80000000000000000000000000000000 ≤ n)
    (hHigh : n < 0x80000000000000000000000000000000) : fitting? n = some n := by
  rw [fitting?, if_pos ⟨hLow, hHigh⟩]

/-- A change has 65 bits at most. -/
theorem Elapsed.change_mem (before now : UInt64) :
    -0x10000000000000000 < change before now ∧ change before now < 0x10000000000000000 := by
  have hNow := now.toNat_lt
  have hBefore := before.toNat_lt
  rw [change]
  omega

theorem Elapsed.checkedChange?_eq (before now : UInt64) :
    checkedChange? before now = some (change before now) := by
  have hNow := now.toNat_lt
  have hBefore := before.toNat_lt
  have hChange := change_mem before now
  rw [checkedChange?, fitting?_eq_some (by omega) (by omega),
    fitting?_eq_some (n := before.toNat) (by omega) (by omega)]
  exact fitting?_eq_some (by rw [change] at hChange; omega) (by rw [change] at hChange; omega)

/-- **No step leads out of the numbers of 128 bits.** -/
theorem Elapsed.checked?_eq (before now : Ticks) :
    checked? before now =
      some (between before now, (between before now).total - (between before now).idle) := by
  have hUser := change_mem before.user now.user
  have hNice := change_mem before.nice now.nice
  have hSystem := change_mem before.system now.system
  have hIdle := change_mem before.idle now.idle
  have hChanges : ((before.toList.zip now.toList).mapM fun counter =>
      checkedChange? counter.1 counter.2) = some [change before.user now.user,
        change before.nice now.nice, change before.system now.system,
        change before.idle now.idle] := by
    simp [Ticks.toList, checkedChange?_eq]
  have hSum : ([change before.user now.user, change before.nice now.nice,
      change before.system now.system, change before.idle now.idle].foldlM
        (fun sum change => fitting? (sum + change)) 0) = some (between before now).total := by
    -- four numbers of 65 bits have a sum of 67
    simp only [List.foldlM_cons, List.foldlM_nil, Int.zero_add]
    rw [fitting?_eq_some (by omega) (by omega), Option.bind_eq_bind, Option.bind_some,
      fitting?_eq_some (by omega) (by omega), Option.bind_some,
      fitting?_eq_some (by omega) (by omega), Option.bind_some,
      fitting?_eq_some (by omega) (by omega)]
    rfl
  have hBusy : fitting? ((between before now).total - (between before now).idle) =
      some ((between before now).total - (between before now).idle) := by
    rw [between]
    exact fitting?_eq_some (by dsimp only; omega) (by dsimp only; omega)
  simp only [checked?, hChanges, hSum, Option.bind_eq_bind, Option.bind_some]
  exact congrArg (fun busy? => busy? >>= fun busy => some (between before now, busy)) hBusy

/-! ## Loads of windows -/

/-- **Loads are percentages that add up.** Between any two samples the load is worked out in numbers
of 128 bits and without a division by zero, and it is a percentage. Over two windows that follow
each other, without a counter that goes back, total times load adds up, so the load of both windows
together lies between the two loads. -/
theorem Ticks.exactLoad_windows :
    (∀ before now : Ticks,
      Elapsed.checked? before now = some (Elapsed.between before now,
        (Elapsed.between before now).total - (Elapsed.between before now).idle) ∧
      ((Elapsed.between before now).isMeasured = true →
        ((Elapsed.between before now).total : ℚ) ≠ 0) ∧
      0 ≤ now.exactLoadSince before ∧ now.exactLoadSince before ≤ 100) ∧
    (∀ a b c : Ticks, b.Follows a → c.Follows b →
      ((Elapsed.between a c).total : ℚ) * c.exactLoadSince a =
        (Elapsed.between a b).total * b.exactLoadSince a +
          (Elapsed.between b c).total * c.exactLoadSince b ∧
      min (b.exactLoadSince a) (c.exactLoadSince b) ≤ c.exactLoadSince a ∧
      c.exactLoadSince a ≤ max (b.exactLoadSince a) (c.exactLoadSince b)) := by
  constructor
  · intro before now
    refine ⟨Elapsed.checked?_eq before now, fun hMeasured => ?_, Elapsed.exactLoad_mem _⟩
    have hPos := (Elapsed.isMeasured_iff.mp hMeasured).1
    exact_mod_cast hPos.ne'
  · intro a b c hb hc
    exact ⟨total_mul_exactLoadSince_add hb hc, exactLoadSince_mem hb hc⟩

/-- A sample of which two counters are some ticks short of the greatest value. -/
def Ticks.shortOfTop (user idle : UInt64) : Ticks :=
  ⟨0xFFFFFFFFFFFFFFFF - user, 0, 7, 0xFFFFFFFFFFFFFFFF - idle⟩

/-- Two windows of unequal length, up to the largest counters there are. -/
theorem Ticks.exactLoad_windows_shortOfTop :
    (shortOfTop 70 90).Follows (shortOfTop 100 100) ∧
    (shortOfTop 0 0).Follows (shortOfTop 70 90) ∧
    (200 : ℚ) * (shortOfTop 0 0).exactLoadSince (shortOfTop 100 100) =
      40 * (shortOfTop 70 90).exactLoadSince (shortOfTop 100 100) +
        160 * (shortOfTop 0 0).exactLoadSince (shortOfTop 70 90) := by
  have hFirst : (shortOfTop 70 90).Follows (shortOfTop 100 100) :=
    ⟨by decide, by decide, by decide, by decide⟩
  have hSecond : (shortOfTop 0 0).Follows (shortOfTop 70 90) :=
    ⟨by decide, by decide, by decide, by decide⟩
  have hWhole : (Elapsed.between (shortOfTop 100 100) (shortOfTop 0 0)).total = 200 := by decide
  have hStart : (Elapsed.between (shortOfTop 100 100) (shortOfTop 70 90)).total = 40 := by decide
  have hEnd : (Elapsed.between (shortOfTop 70 90) (shortOfTop 0 0)).total = 160 := by decide
  obtain ⟨hSum, -, -⟩ := Ticks.exactLoad_windows.2 _ _ _ hFirst hSecond
  rw [hWhole, hStart, hEnd] at hSum
  exact ⟨hFirst, hSecond, by exact_mod_cast hSum⟩

end HardwareReport
