import HardwareReport.Processor.Basic

/-!
# Processor — watching the load

The load is sampled again and again, and a line is written for each load, until the token is
cancelled or the counters cannot be read.

* `Watch.round` — one sample;
* `Watch.run` — a number of rounds, each of which writes its load, and how they ended;
* `Watch.line` — the line written for a load.
-/

namespace HardwareReport.Watch

/-! ## Rounds -/

/-- What one round comes to. -/
inductive Round where
  /-- The token was cancelled before the round or in it. -/
  | stopped
  /-- The counters could not be read. -/
  | failed (error : HardwareError)
  /-- A line is written for this load. -/
  | written (load : Float32)

variable {m : Type → Type} [Monad m]

/-- One sample. Nothing is written if the token is cancelled by the end of it. -/
def round (source : ProcessorSource m) (interrupt : Interrupt m) (interval : Duration) :
    m Round := do
  if ← interrupt.isCancelled then
    return .stopped
  match ← (source.loadOver interrupt interval).run with
  | .error error => return .failed error
  | .ok load =>
    if ← interrupt.isCancelled then
      return .stopped
    return .written load

/-! ## Runs -/

/-- How a run ended. -/
inductive Ending where
  | stopped
  | failed (error : HardwareError)
  /-- The run used up its rounds. -/
  | unfinished
  deriving DecidableEq, Repr

/-- The loads that a run wrote, and how it ended. -/
structure Outcome where
  loads : List Float32
  ending : Ending

/-- Watches for at most a number of rounds, and writes each load before the next round begins. -/
def run (source : ProcessorSource m) (interrupt : Interrupt m) (interval : Duration)
    (write : Float32 → m Unit) : Nat → m Outcome
  | 0 => return ⟨[], .unfinished⟩
  | rounds + 1 => do
    match ← round source interrupt interval with
    | .stopped => return ⟨[], .stopped⟩
    | .failed error => return ⟨[], .failed error⟩
    | .written load =>
      write load
      let rest ← run source interrupt interval write rounds
      return ⟨load :: rest.loads, rest.ending⟩

/-! ## Lines -/

/-- The line written for a load, as text. -/
def textLine (load : Float32) : String :=
  "Load: " ++ Number.fixed32 1 load ++ "%\n"

/-- The line written for a load, as data. The load is widened to double precision. -/
def jsonLine (load : Float32) : String :=
  (Json.object [("load", .real (Number.widen load))]).compact ++ "\n"

/-- The line written for a load. -/
def line (json : Bool) (load : Float32) : String :=
  if json then jsonLine load else textLine load

end HardwareReport.Watch
