import HardwareReport.Error
import HardwareReport.Interrupt
import HardwareReport.Processor.Identity
import HardwareReport.Processor.Ticks

/-!
# Processor — sources and load

A processor is read through a source, which every platform provides in its own way. The identity
is read at the first question that needs it and kept; the counters are read afresh each time.

* `ProcessorSource` — what a platform provides;
* `Processor` — what has been found out so far;
* `ProcessorSource.loadOver` — the load over a stretch of time.
-/

namespace HardwareReport

/-- What a platform provides to read a processor. -/
structure ProcessorSource (m : Type → Type) where
  identity : ExceptT HardwareError m Identity
  ticks : ExceptT HardwareError m Ticks
  logicalCount : m Nat
  /-- The average number of busy processors over one minute. -/
  loadAverage : m (Option Float)
  /-- The percentage of time since the last question that was not idle. -/
  systemLoad : m Float32

namespace ProcessorSource

variable {m : Type → Type} [Monad m]

/-- The identity, or an empty one where the platform cannot say. -/
def identityOrUnknown (source : ProcessorSource m) : m Identity := do
  match ← source.identity.run with
  | .ok identity => return identity
  | .error _ => return .unknown

/-- How long a load is sampled for if nobody says. -/
def defaultInterval : Duration := .ofMilliseconds 1000

/-- The load between two samples `interval` apart. If the wait between them is cut short, the
second sample is not taken and the load is zero. -/
def loadOver (source : ProcessorSource m) (interrupt : Interrupt m) (interval : Duration) :
    ExceptT HardwareError m Float32 := do
  let before ← source.ticks
  -- Without a second sample there is nothing to compare the first with.
  if ← interrupt.sleep interval then
    return 0
  let now ← source.ticks
  return now.loadSince before

/-- The same source for computations in which the questions can be embedded. -/
def embed {n : Type → Type} (ask : {α : Type} → m α → n α) (source : ProcessorSource m) :
    ProcessorSource n where
  identity := .mk (ask source.identity.run)
  ticks := .mk (ask source.ticks.run)
  logicalCount := ask source.logicalCount
  loadAverage := ask source.loadAverage
  systemLoad := ask source.systemLoad

end ProcessorSource

/-! ## What is remembered -/

/-- What has been found out about a processor so far. -/
structure Processor where
  identity : Option Identity := none
  vendorFrequency : Option Int := none
  deriving DecidableEq, Repr

namespace Processor

variable {m : Type → Type} [Monad m]

/-- A processor whose identity is known beforehand. -/
def withIdentity (identity : Identity) : Processor := { identity := some identity }

/-- The identity, read from the source at the first question only. -/
def askIdentity (source : ProcessorSource m) : StateT Processor m Identity := do
  match (← get).identity with
  | some identity => return identity
  | none =>
    let identity ← source.identityOrUnknown
    modify fun processor => { processor with identity := some identity }
    return identity

/-- The frequency in the name, worked out at the first question only. -/
def askVendorFrequency (source : ProcessorSource m) : StateT Processor m Int := do
  match (← get).vendorFrequency with
  | some frequency => return frequency
  | none =>
    let identity ← askIdentity source
    modify fun processor => { processor with vendorFrequency := some identity.vendorFrequency }
    return identity.vendorFrequency

/-- The processor without its frequency, which the next question works out again. -/
def forgetVendorFrequency (processor : Processor) : Processor :=
  { processor with vendorFrequency := none }

/-- What is remembered, for a developer. -/
def describe (processor : Processor) : String :=
  "CentralProcessor \x7b identity: " ++
    Identity.describeOption Identity.describe processor.identity ++
    ", vendor_freq: " ++ Identity.describeOption toString processor.vendorFrequency ++ ", .. \x7d"

end Processor

end HardwareReport
