import HardwareReport.Proofs.Processor.Load

/-!
# Processor — logged sources

A source is any machine whose answers may change from one question to the next. Here every identity
that it is asked for is logged, and nothing else that it is asked.

* `ProcessorSource.logged` — a source that logs the identities it gives;
* `ProcessorSource.run_loadOver_logged`, `Watch.run_logged` — loads and watches log nothing.
-/

namespace HardwareReport

variable {σ α : Type}

/-! ## Logged sources -/

/-- The identities that a source was asked for, in order. -/
abbrev Log := List (Answer Identity)

/-- A computation that logs nothing. -/
def quietly (x : StateM σ α) : StateM (σ × Log) α :=
  fun state => ((x.run state.1).1, (x.run state.1).2, state.2)

/-- The source, with a log of the identities that it gives. -/
def ProcessorSource.logged (source : ProcessorSource (StateM σ)) :
    ProcessorSource (StateM (σ × Log)) :=
  { source.embed quietly with
    identity := .mk fun state =>
      ((source.identity.run.run state.1).1, (source.identity.run.run state.1).2,
        state.2 ++ [(source.identity.run.run state.1).1]) }

/-- The identity that an answer gives, or an empty one if it is a failure. -/
def Identity.ofAnswer : Answer Identity → Identity
  | .ok identity => identity
  | .error _ => .unknown

theorem run_quietly (x : StateM σ α) (s : σ) (log : Log) :
    (quietly x).run (s, log) = ((x.run s).1, (x.run s).2, log) := rfl

namespace ProcessorSource

variable (source : ProcessorSource (StateM σ)) (token : Token) (interval : Duration)

theorem run_identityOrUnknown (s : σ) :
    source.identityOrUnknown.run s =
      (.ofAnswer (source.identity.run.run s).1, (source.identity.run.run s).2) := by
  unfold identityOrUnknown
  rw [run_state_bind]
  obtain ⟨answer, s⟩ : Answer Identity × σ := source.identity.run.run s
  cases answer <;> rfl

/-- A load asks for no identity. -/
theorem run_loadOver_logged (s : σ) (log : Log) :
    (source.logged.loadOver token.steady interval).run.run (s, log) =
      (quietly (source.loadOver token.steady interval).run).run (s, log) := by
  have hTicks : ∀ s, source.logged.ticks.run.run (s, log) =
      ((source.ticks.run.run s).1, (source.ticks.run.run s).2, log) := fun _ => rfl
  rw [run_quietly, run_loadOver, run_loadOver, hTicks]
  obtain ⟨first, s₁⟩ : Answer Ticks × σ := source.ticks.run.run s
  cases first with
  | error error => rfl
  | ok before =>
    -- a token that nobody touches says the same with and without the log
    have hSleep : ∀ {τ : Type} (t : τ),
        (token.steady.sleep interval : StateM τ Bool).run t = (token.cancelled, t) := fun _ => rfl
    dsimp only
    rw [hSleep, hSleep]
    cases token.cancelled with
    | true => rfl
    | false =>
      dsimp only
      rw [hTicks]
      obtain ⟨second, s₂⟩ : Answer Ticks × σ := source.ticks.run.run s₁
      cases second <;> rfl

end ProcessorSource

variable (source : ProcessorSource (StateM σ)) (token : Token) (interval : Duration)

/-- No round of a watch asks for an identity. -/
theorem Watch.run_round_logged (s : σ) (log : Log) :
    (Watch.round source.logged token.steady interval).run (s, log) =
      (quietly (Watch.round source token.steady interval)).run (s, log) := by
  -- a look at the token leaves the state and the log as they are
  have hLook : ∀ {τ : Type} (t : τ),
      (token.steady.isCancelled : StateM τ Bool).run t = (token.cancelled, t) := fun _ => rfl
  rw [run_quietly, run_round, run_round, hLook, hLook]
  cases token.cancelled with
  | true => rfl
  | false =>
    dsimp only
    rw [ProcessorSource.run_loadOver_logged, run_quietly]
    obtain ⟨answer, s₁⟩ : Answer Float32 × σ :=
      (source.loadOver token.steady interval).run.run s
    cases answer with
    | error error => rfl
    | ok load =>
      dsimp only
      rw [hLook, hLook]
      cases token.cancelled <;> rfl

/-- No watch asks for an identity. -/
theorem Watch.run_logged (rounds : Nat) (s : σ) (log : Log) :
    (Watch.run source.logged token.steady interval (fun _ => pure ()) rounds).run (s, log) =
      (quietly (Watch.run source token.steady interval (fun _ => pure ()) rounds)).run
        (s, log) := by
  induction rounds generalizing s with
  | zero => rfl
  | succ rounds ih =>
    rw [run_quietly]
    unfold Watch.run
    rw [run_state_bind, run_state_bind, Watch.run_round_logged, run_quietly]
    obtain ⟨result, s₁⟩ : Watch.Round × σ :=
      (Watch.round source token.steady interval).run s
    cases result with
    | stopped => rfl
    | failed error => rfl
    | written load =>
      -- nothing is written, so the next round begins where this one ends
      dsimp only
      rw [pure_bind, pure_bind, run_state_bind, run_state_bind, ih]
      rfl

end HardwareReport
