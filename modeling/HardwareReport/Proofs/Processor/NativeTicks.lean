import HardwareReport.Kernel.FreeBsd
import HardwareReport.Kernel.Mac
import HardwareReport.Proofs.Processor.Percentage
import HardwareReport.Windows.Layer

/-!
# Processor — the counters of the backends

Three platforms count time in categories of their own: Windows counts idle time as kernel time too,
macOS has another order, and FreeBSD counts interrupts apart. A sample has neither time that the
platform did not count nor time twice, so the load between two samples is the share of the time that
the platform itself did not count as idle.

* `Tells` — two samples tell the time that passed on a platform;
* `Windows.SystemTimes.Follows`, `Kernel.FreeBsdTimes.Follows` — no counter went back.

Main result: `native_samples_tell` — the three platforms' samples tell the time that passed.
-/

namespace HardwareReport

/-- Two samples tell the time that passed: `total` ticks, of which `idle` were idle. -/
structure Tells (before now : Ticks) (total idle : Int) : Prop where
  elapsed : Elapsed.between before now = ⟨total, idle⟩
  load : now.exactLoadSince before = busyPercent total idle

theorem Tells.of_elapsed {before now : Ticks} {total idle : Int}
    (h : Elapsed.between before now = ⟨total, idle⟩) (hTotal : 0 ≤ total) (hIdle : 0 ≤ idle) :
    Tells before now total idle where
  elapsed := h
  load := by rw [Ticks.exactLoadSince, h, Elapsed.exactLoad_eq hTotal hIdle]

/-! ## Windows -/

namespace Windows

namespace SystemTimes

/-- Idle time is part of kernel time. -/
def IdleInKernel (times : SystemTimes) : Prop :=
  times.idle.count ≤ times.kernel.count

/-- No time is less than it was. -/
structure Follows (now before : SystemTimes) : Prop where
  idle : before.idle.count ≤ now.idle.count
  kernel : before.kernel.count ≤ now.kernel.count
  user : before.user.count ≤ now.user.count

/-- Taking idle time out of kernel time leaves the rest of it. -/
theorem toNat_system_ticks {times : SystemTimes} (h : times.IdleInKernel) :
    times.ticks.system.toNat + times.idle.count.toNat = times.kernel.count.toNat := by
  have hKernel := times.kernel.count.toNat_lt
  have hLess := UInt64.le_iff_toNat_le.mp h
  rw [ticks, ticksOfTimes, UInt64.toNat_ofNat']
  omega

theorem tells_ticks {before now : SystemTimes} (hBefore : before.IdleInKernel)
    (hNow : now.IdleInKernel) (h : now.Follows before) :
    Tells before.ticks now.ticks
      (Elapsed.change before.kernel.count now.kernel.count +
        Elapsed.change before.user.count now.user.count)
      (Elapsed.change before.idle.count now.idle.count) := by
  have hKernel := Elapsed.change_nonneg h.kernel
  have hUser := Elapsed.change_nonneg h.user
  refine Tells.of_elapsed ?_ (by omega) (Elapsed.change_nonneg h.idle)
  have hSystemBefore := toNat_system_ticks hBefore
  have hSystemNow := toNat_system_ticks hNow
  have hSystem : Elapsed.change before.ticks.system now.ticks.system =
      Elapsed.change before.kernel.count now.kernel.count -
        Elapsed.change before.idle.count now.idle.count := by
    simp only [Elapsed.change]
    omega
  -- idle time is counted with the kernel's and taken out of it, so that it counts once
  rw [Elapsed.between, hSystem, Elapsed.mk.injEq]
  refine ⟨?_, rfl⟩
  show Elapsed.change before.user.count now.user.count + 0 + _ +
    Elapsed.change before.idle.count now.idle.count = _
  omega

end SystemTimes

end Windows

/-! ## macOS -/

namespace Kernel

/-- macOS counts each category in 32 bits and in another order, and no time twice. -/
theorem MacSystem.tells_ticksOfCounters {user₀ system₀ idle₀ nice₀ user system idle nice : UInt32}
    (hUser : user₀ ≤ user) (hSystem : system₀ ≤ system) (hIdle : idle₀ ≤ idle)
    (hNice : nice₀ ≤ nice) :
    Tells (ticksOfCounters (user₀, system₀, idle₀, nice₀))
      (ticksOfCounters (user, system, idle, nice))
      ((user.toNat - user₀.toNat : Int) + (system.toNat - system₀.toNat) +
        (idle.toNat - idle₀.toNat) + (nice.toNat - nice₀.toNat))
      (idle.toNat - idle₀.toNat) := by
  have hUserNat := UInt32.le_iff_toNat_le.mp hUser
  have hSystemNat := UInt32.le_iff_toNat_le.mp hSystem
  have hIdleNat := UInt32.le_iff_toNat_le.mp hIdle
  have hNiceNat := UInt32.le_iff_toNat_le.mp hNice
  -- 32 bits become 64, so the changes are those of the natural numbers
  refine Tells.of_elapsed ?_ (by omega) (by omega)
  simp only [Elapsed.between, ticksOfCounters, Elapsed.change, UInt32.toNat_toUInt64,
    Elapsed.mk.injEq, and_true]
  omega

/-! ## FreeBSD -/

/-- The times that a FreeBSD kernel tells. -/
structure FreeBsdTimes where
  user : Int64
  nice : Int64
  system : Int64
  interrupt : Int64
  idle : Int64
  deriving DecidableEq, Repr

namespace FreeBsdTimes

/-- The counters that the kernel's times give. -/
def ticks (times : FreeBsdTimes) : Ticks :=
  FreeBsdSystem.ticksOfTimes times.user.toInt times.nice.toInt times.system.toInt
    times.interrupt.toInt times.idle.toInt

/-- No time is negative. -/
structure Nonneg (times : FreeBsdTimes) : Prop where
  user : 0 ≤ times.user.toInt
  nice : 0 ≤ times.nice.toInt
  system : 0 ≤ times.system.toInt
  interrupt : 0 ≤ times.interrupt.toInt
  idle : 0 ≤ times.idle.toInt

/-- No time is less than it was. -/
structure Follows (now before : FreeBsdTimes) : Prop where
  user : before.user ≤ now.user
  nice : before.nice ≤ now.nice
  system : before.system ≤ now.system
  interrupt : before.interrupt ≤ now.interrupt
  idle : before.idle ≤ now.idle

/-- A time that is not negative is counted as it is. -/
theorem toNat_counter {n : Int64} (h : 0 ≤ n.toInt) :
    (FreeBsdSystem.counter n.toInt).toNat = n.toInt.toNat := by
  have hLess := n.toInt_lt
  rw [FreeBsdSystem.counter, UInt64.toNat_ofNat']
  omega

/-- System time and interrupt time together are still a counter. -/
theorem toNat_system_ticks {times : FreeBsdTimes} (h : times.Nonneg) :
    (times.ticks.system.toNat : Int) = times.system.toInt + times.interrupt.toInt := by
  have hSystem := times.system.toInt_lt
  have hInterrupt := times.interrupt.toInt_lt
  have hSystemNonneg := h.system
  have hInterruptNonneg := h.interrupt
  have hGreatest : Ticks.greatest = 0xFFFFFFFFFFFFFFFF := rfl
  show ((Ticks.saturatingSum [FreeBsdSystem.counter times.system.toInt,
    FreeBsdSystem.counter times.interrupt.toInt]).toNat : Int) = _
  rw [Ticks.saturatingSum, List.foldr_cons, List.foldr_cons, List.foldr_nil,
    toNat_counter h.system, toNat_counter h.interrupt, hGreatest, UInt64.toNat_ofNat']
  omega

theorem tells_ticks {before now : FreeBsdTimes} (hBefore : before.Nonneg) (hNow : now.Nonneg)
    (h : now.Follows before) :
    Tells before.ticks now.ticks
      ((now.user.toInt - before.user.toInt) + (now.nice.toInt - before.nice.toInt) +
        (now.system.toInt - before.system.toInt) +
        (now.interrupt.toInt - before.interrupt.toInt) + (now.idle.toInt - before.idle.toInt))
      (now.idle.toInt - before.idle.toInt) := by
  have hUser := Int64.le_iff_toInt_le.mp h.user
  have hNice := Int64.le_iff_toInt_le.mp h.nice
  have hSystem := Int64.le_iff_toInt_le.mp h.system
  have hInterrupt := Int64.le_iff_toInt_le.mp h.interrupt
  have hIdle := Int64.le_iff_toInt_le.mp h.idle
  refine Tells.of_elapsed ?_ (by omega) (by omega)
  -- a time that is not negative changes by what its counter does
  have hChange : ∀ {m n : Int64}, 0 ≤ m.toInt → 0 ≤ n.toInt →
      Elapsed.change (FreeBsdSystem.counter m.toInt) (FreeBsdSystem.counter n.toInt) =
        n.toInt - m.toInt := by
    intro m n hm hn
    rw [Elapsed.change, toNat_counter hm, toNat_counter hn]
    omega
  have hSystemChange : Elapsed.change before.ticks.system now.ticks.system =
      (now.system.toInt - before.system.toInt) +
        (now.interrupt.toInt - before.interrupt.toInt) := by
    rw [Elapsed.change, toNat_system_ticks hBefore, toNat_system_ticks hNow]
    omega
  have hUserChange : Elapsed.change before.ticks.user now.ticks.user = _ :=
    hChange hBefore.user hNow.user
  have hNiceChange : Elapsed.change before.ticks.nice now.ticks.nice = _ :=
    hChange hBefore.nice hNow.nice
  have hIdleChange : Elapsed.change before.ticks.idle now.ticks.idle = _ :=
    hChange hBefore.idle hNow.idle
  rw [Elapsed.between, hUserChange, hNiceChange, hSystemChange, hIdleChange, Elapsed.mk.injEq]
  exact ⟨by omega, rfl⟩

end FreeBsdTimes

end Kernel

/-! ## The three platforms -/

/-- **Samples tell the time that passed on their platform,** and nothing twice. If no counter is
negative or goes back, and idle time is part of kernel time where the platform counts it there, the
load is the share of the platform's own time that is not idle. Neither taking idle time out of
kernel time nor adding interrupts to system time meets the end of the counters. -/
theorem native_samples_tell :
    (∀ before now : Windows.SystemTimes, before.IdleInKernel → now.IdleInKernel →
      now.Follows before →
      now.ticks.system.toNat + now.idle.count.toNat = now.kernel.count.toNat ∧
      before.ticks.system.toNat + before.idle.count.toNat = before.kernel.count.toNat ∧
      Tells before.ticks now.ticks
        (Elapsed.change before.kernel.count now.kernel.count +
          Elapsed.change before.user.count now.user.count)
        (Elapsed.change before.idle.count now.idle.count)) ∧
    (∀ user₀ system₀ idle₀ nice₀ user system idle nice : UInt32,
      user₀ ≤ user → system₀ ≤ system → idle₀ ≤ idle → nice₀ ≤ nice →
      Tells (Kernel.MacSystem.ticksOfCounters (user₀, system₀, idle₀, nice₀))
        (Kernel.MacSystem.ticksOfCounters (user, system, idle, nice))
        ((user.toNat - user₀.toNat : Int) + (system.toNat - system₀.toNat) +
          (idle.toNat - idle₀.toNat) + (nice.toNat - nice₀.toNat))
        (idle.toNat - idle₀.toNat)) ∧
    (∀ before now : Kernel.FreeBsdTimes, before.Nonneg → now.Nonneg → now.Follows before →
      (now.ticks.system.toNat : Int) = now.system.toInt + now.interrupt.toInt ∧
      (before.ticks.system.toNat : Int) = before.system.toInt + before.interrupt.toInt ∧
      Tells before.ticks now.ticks
        ((now.user.toInt - before.user.toInt) + (now.nice.toInt - before.nice.toInt) +
          (now.system.toInt - before.system.toInt) +
          (now.interrupt.toInt - before.interrupt.toInt) + (now.idle.toInt - before.idle.toInt))
        (now.idle.toInt - before.idle.toInt)) := by
  refine ⟨fun before now hBefore hNow h => ?windows, ?mac,
    fun before now hBefore hNow h => ?freeBsd⟩
  case windows =>
    exact ⟨Windows.SystemTimes.toNat_system_ticks hNow,
      Windows.SystemTimes.toNat_system_ticks hBefore,
      Windows.SystemTimes.tells_ticks hBefore hNow h⟩
  case mac =>
    intro user₀ system₀ idle₀ nice₀ user system idle nice hUser hSystem hIdle hNice
    exact Kernel.MacSystem.tells_ticksOfCounters hUser hSystem hIdle hNice
  case freeBsd =>
    exact ⟨Kernel.FreeBsdTimes.toNat_system_ticks hNow,
      Kernel.FreeBsdTimes.toNat_system_ticks hBefore,
      Kernel.FreeBsdTimes.tells_ticks hBefore hNow h⟩

/-- Times with an idle, a kernel and a user count that need the high half. -/
def Windows.highTimes (idle kernel user : UInt32) : SystemTimes :=
  ⟨⟨idle, 1⟩, ⟨kernel, 1⟩, ⟨user, 2⟩⟩

/-- Times near the greatest value of a counter. -/
def Kernel.highTimes (interrupt idle : Int64) : FreeBsdTimes :=
  ⟨0, 0, 0x7FFFFFFFFFFFFFFF, 0x7FFFFFFFFFFFFFF0 + interrupt, idle⟩

/-- More idle time than kernel time passes in the first of these, counters are at their greatest
value in the second, and system and interrupt time together in the third. -/
theorem native_samples_tell_highTimes :
    ((Windows.highTimes 600 800 300).IdleInKernel ∧ (Windows.highTimes 610 805 315).IdleInKernel ∧
      (Windows.highTimes 610 805 315).Follows (Windows.highTimes 600 800 300) ∧
      (Windows.highTimes 610 805 315).ticks.exactLoadSince (Windows.highTimes 600 800 300).ticks =
        busyPercent 20 10) ∧
    (Kernel.MacSystem.ticksOfCounters (0xFFFFFFFF, 5, 0xFFFFFFFF, 0)).exactLoadSince
        (Kernel.MacSystem.ticksOfCounters (0xFFFFFFF0, 5, 0xFFFFFFFA, 0)) = busyPercent 20 5 ∧
    ((Kernel.highTimes 0 40).Nonneg ∧ (Kernel.highTimes 15 45).Nonneg ∧
      (Kernel.highTimes 15 45).Follows (Kernel.highTimes 0 40) ∧
      (Kernel.highTimes 15 45).ticks.exactLoadSince (Kernel.highTimes 0 40).ticks =
        busyPercent 20 5) := by
  have hBefore : (Windows.highTimes 600 800 300).IdleInKernel := by
    rw [Windows.SystemTimes.IdleInKernel]
    decide
  have hNow : (Windows.highTimes 610 805 315).IdleInKernel := by
    rw [Windows.SystemTimes.IdleInKernel]
    decide
  have hFollows : (Windows.highTimes 610 805 315).Follows (Windows.highTimes 600 800 300) :=
    ⟨by decide, by decide, by decide⟩
  have hNonnegBefore : (Kernel.highTimes 0 40).Nonneg :=
    ⟨by decide, by decide, by decide, by decide, by decide⟩
  have hNonnegNow : (Kernel.highTimes 15 45).Nonneg :=
    ⟨by decide, by decide, by decide, by decide, by decide⟩
  have hFollowsHigh : (Kernel.highTimes 15 45).Follows (Kernel.highTimes 0 40) :=
    ⟨by decide, by decide, by decide, by decide, by decide⟩
  obtain ⟨hWindows, hMac, hFreeBsd⟩ := native_samples_tell
  -- the counters are near their ends, where a sum could overflow
  have hMacTells := hMac 0xFFFFFFF0 5 0xFFFFFFFA 0 0xFFFFFFFF 5 0xFFFFFFFF 0
    (by decide) (by decide) (by decide) (by decide)
  exact ⟨⟨hBefore, hNow, hFollows, (hWindows _ _ hBefore hNow hFollows).2.2.load⟩, hMacTells.load,
    ⟨hNonnegBefore, hNonnegNow, hFollowsHigh,
      (hFreeBsd _ _ hNonnegBefore hNonnegNow hFollowsHigh).2.2.load⟩⟩

end HardwareReport
