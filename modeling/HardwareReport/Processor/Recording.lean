import HardwareReport.Processor.Basic

/-!
# Processor — recorded sources

A source that answers from a recording. Each reading of the identity or of the counters takes the
next recorded answer, and fails once there is none left.
-/

namespace HardwareReport

/-- The answers that a recorded source has left. -/
structure Recording where
  identities : List (Answer Identity) := []
  ticks : List (Answer Ticks) := []
  logicalCount : Nat := 0
  loadAverage : Option Float := none
  systemLoad : Float32 := 0

namespace Recording

/-- The failure of a reading after the last recorded one. -/
def exhausted (what : String) : HardwareError :=
  .nativeQuery ("scripted " ++ what) 5 "out of samples"

/-- Takes the next recorded identity. -/
def nextIdentity (recording : Recording) : Answer Identity × Recording :=
  match recording.identities with
  | [] => (.error (exhausted "identity"), recording)
  | answer :: rest => (answer, { recording with identities := rest })

/-- Takes the next recorded sample. -/
def nextTicks (recording : Recording) : Answer Ticks × Recording :=
  match recording.ticks with
  | [] => (.error (exhausted "ticks"), recording)
  | answer :: rest => (answer, { recording with ticks := rest })

/-- The source that answers from a recording. -/
def source : ProcessorSource (StateM Recording) where
  identity := ExceptT.mk (modifyGet nextIdentity)
  ticks := ExceptT.mk (modifyGet nextTicks)
  logicalCount := return (← get).logicalCount
  loadAverage := return (← get).loadAverage
  systemLoad := return (← get).systemLoad

end Recording

end HardwareReport
