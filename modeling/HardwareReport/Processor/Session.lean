import HardwareReport.Processor.Watch

/-!
# Processor — sessions

A session puts questions to one processor, one after the other, and holds the token that its
waits look at.

* `Session` — the processor and the token;
* `Session.Question`, `Session.Reply` — what can be asked and what comes back;
* `Session.ask` — one question, `Session.askAll` — several.
-/

namespace HardwareReport

/-- One processor and the token that waits on it look at. -/
structure Session where
  processor : Processor := {}
  token : Token := {}
  deriving DecidableEq, Repr

namespace Session

/-- What can be asked of a session, or done to it. -/
inductive Question where
  | identity
  | vendor
  | name
  | identifier
  | parts
  | cpu64
  | vendorFrequency
  | forgetVendorFrequency
  | describe
  | ticks
  | load (interval : Duration)
  /-- The load over the default interval, with a token of its own. -/
  | loadByDefault
  | watch (interval : Duration)
  | cancel
  | newToken
  | isCancelled
  | sleep (interval : Duration)
  | logicalCount
  | loadAverage
  | systemLoad
  deriving DecidableEq, Repr

/-- What comes back. -/
inductive Reply where
  | done
  | identity (identity : Identity)
  | text (text : String)
  | parts (family model stepping : Option String)
  | cpu64 (cpu64 : Option Bool)
  | frequency (hertz : Int)
  | ticks (answer : Answer Ticks)
  | load (answer : Answer Float32)
  | watched (outcome : Watch.Outcome)
  | flag (value : Bool)
  | count (n : Nat)
  | loadAverage (average : Option Float)
  | systemLoad (percent : Float32)

/-- How many rounds a session watches for. -/
def watchRounds : Nat := 64

variable {m : Type → Type} [Monad m]

/-- A question about the identity. -/
def askIdentity (source : ProcessorSource m) (reply : Identity → Reply) :
    StateT Session m Reply := do
  let session ← get
  let (identity, processor) ← (Processor.askIdentity source).run session.processor
  set { session with processor }
  return reply identity

/-- One question. -/
def ask (source : ProcessorSource m) : Question → StateT Session m Reply
  | .identity => askIdentity source .identity
  | .vendor => askIdentity source fun identity => .text identity.vendor
  | .name => askIdentity source fun identity => .text identity.name
  | .identifier => askIdentity source fun identity => .text identity.identifier
  | .parts => askIdentity source fun identity =>
      .parts identity.family? identity.model? identity.stepping?
  | .cpu64 => askIdentity source fun identity => .cpu64 identity.cpu64
  | .vendorFrequency => do
    let session ← get
    let (hertz, processor) ← (Processor.askVendorFrequency source).run session.processor
    set { session with processor }
    return .frequency hertz
  | .forgetVendorFrequency => do
    modify fun session => { session with processor := session.processor.forgetVendorFrequency }
    return .done
  | .describe => return .text (← get).processor.describe
  | .ticks => return .ticks (← source.ticks.run)
  | .load interval => do
    let token := (← get).token
    return .load (← (source.loadOver token.steady interval).run)
  | .loadByDefault => do
    return .load (← (source.loadOver (Token.steady {}) ProcessorSource.defaultInterval).run)
  | .watch interval => do
    let token := (← get).token
    -- the loads are part of the reply, so nothing is written on the way
    let watching : m Watch.Outcome :=
      Watch.run source token.steady interval (fun _ => pure ()) watchRounds
    return .watched (← watching)
  | .cancel => do
    modify fun session => { session with token := session.token.cancel }
    return .done
  | .newToken => do
    modify fun session => { session with token := {} }
    return .done
  | .isCancelled => return .flag (← get).token.cancelled
  | .sleep _ => return .flag (← get).token.cancelled
  | .logicalCount => return .count (← source.logicalCount)
  | .loadAverage => return .loadAverage (← source.loadAverage)
  | .systemLoad => return .systemLoad (← source.systemLoad)

/-- Several questions, one after the other. -/
def askAll (source : ProcessorSource m) (questions : List Question) :
    StateT Session m (List Reply) :=
  questions.mapM (ask source)

end Session

end HardwareReport
