import HardwareReport.Json

/-!
# Processor — tick counters

The time a processor has spent in each kind of work since it was started, counted in ticks, and
the load that two such samples give.

* `Ticks` — one sample of the counters;
* `Elapsed` — what passed between two samples;
* `Elapsed.load` — the percentage of it that was not idle, in any arithmetic;
* `Ticks.loadSince` — the percentage of time between two samples that was not idle.
-/

namespace HardwareReport

/-- One sample of the cumulative counters. -/
structure Ticks where
  user : UInt64
  /-- User time at low priority, which not every platform has. -/
  nice : UInt64
  system : UInt64
  idle : UInt64
  deriving DecidableEq, Repr

namespace Ticks

/-- The counters in their fixed order. -/
def toList (t : Ticks) : List UInt64 :=
  [t.user, t.nice, t.system, t.idle]

/-- The largest value of a counter. -/
def greatest : Nat := UInt64.size - 1

/-- A sum of counters that stops at the largest counter value. -/
def saturatingSum (counters : List UInt64) : UInt64 :=
  UInt64.ofNat (min greatest (counters.foldr (fun counter sum => counter.toNat + sum) 0))

/-- The sum of all counters, which stops at the largest counter value. -/
def total (t : Ticks) : UInt64 :=
  saturatingSum t.toList

/-- The sample in data. -/
def toJson (t : Ticks) : Json :=
  .list (t.toList.map fun counter => Json.nat counter.toNat)

end Ticks

/-! ## Load -/

/-- The ticks between two samples, negative where counters went back. -/
structure Elapsed where
  total : Int
  idle : Int
  deriving DecidableEq, Repr

namespace Elapsed

/-- The change of one counter. -/
def change (before now : UInt64) : Int :=
  (now.toNat : Int) - before.toNat

/-- What passed from the sample `before` to the sample `now`. -/
def between (before now : Ticks) : Elapsed where
  total := change before.user now.user + change before.nice now.nice +
    change before.system now.system + change before.idle now.idle
  idle := change before.idle now.idle

/-- Time has passed and the idle counter did not go back, so that a load can be given. -/
def isMeasured (e : Elapsed) : Bool :=
  0 < e.total && 0 ≤ e.idle

end Elapsed

section Percent

variable {α β : Type} [LT α] [DecidableLT α] [OfNat α 0] [OfNat α 100] [Mul α] [Div α] [OfNat β 0]

/-- A number moved into the range from zero to one hundred. -/
def clampPercent (x : α) : α :=
  if x < 0 then 0 else if 100 < x then 100 else x

/-- The percentage of elapsed ticks that were not idle. It is zero if no time passed or if the
counters went back. The numbers that it is worked out in and those that it is told in may be any,
with the ways from whole numbers to the ones and from these to the others. -/
def Elapsed.load (ofInt : Int → α) (narrow : α → β) (e : Elapsed) : β :=
  -- A single counter may go back while the sum grows, which the range takes care of.
  if e.isMeasured then narrow (clampPercent (100 * ofInt (e.total - e.idle) / ofInt e.total))
  else 0

end Percent

/-- The percentage of time since the sample `before` that was not idle. -/
def Ticks.loadSince (now before : Ticks) : Float32 :=
  (Elapsed.between before now).load Float.ofInt Number.narrow

/-! ## Small laws -/

/-- What passes over two windows adds up. -/
theorem Elapsed.between_trans (a b c : Ticks) :
    Elapsed.between a c =
      ⟨(Elapsed.between a b).total + (Elapsed.between b c).total,
       (Elapsed.between a b).idle + (Elapsed.between b c).idle⟩ := by
  simp only [Elapsed.between, Elapsed.change, Elapsed.mk.injEq]
  omega

end HardwareReport
