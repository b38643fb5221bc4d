import HardwareReport.Processor.Watch

/-!
# Processor — samples, waits and loads in a state

A source and a token that answer from a state, such as a recording, a history or a machine: what
one load and one round of watching come to, from one answer to the next.

* `ProcessorSource.run_loadOver` — a sample, a wait and a second sample;
* `Watch.run_round` — a look at the token, a load and another look.
-/

namespace HardwareReport

variable {σ α β : Type}

/-! ## Computations with a state -/

theorem run_state_bind (x : StateM σ α) (f : α → StateM σ β) (s : σ) :
    (x >>= f).run s = (f (x.run s).1).run (x.run s).2 := rfl

theorem run_state_map (f : α → β) (x : StateM σ α) (s : σ) :
    (f <$> x).run s = (f (x.run s).1, (x.run s).2) := rfl

/-! ## Loads -/

variable (source : ProcessorSource (StateM σ)) (interrupt : Interrupt (StateM σ))
  (interval : Duration)

/-- A load is a sample, a wait and a second sample. The first failure ends it, and so does a wait
that is cut short, after which there is no second sample. -/
theorem ProcessorSource.run_loadOver (s : σ) :
    (source.loadOver interrupt interval).run.run s =
      match source.ticks.run.run s with
      | (.error error, s) => (.error error, s)
      | (.ok before, s) =>
        match (interrupt.sleep interval).run s with
        | (true, s) => (.ok 0, s)
        | (false, s) =>
          match source.ticks.run.run s with
          | (.error error, s) => (.error error, s)
          | (.ok now, s) => (.ok (now.loadSince before), s) := by
  -- each action is run on a state of its own, so that the rest can be split by its answer
  unfold loadOver
  rw [ExceptT.run_bind, run_state_bind]
  obtain ⟨first, s₁⟩ : Answer Ticks × σ := source.ticks.run.run s
  cases first with
  | error error => rfl
  | ok before =>
    dsimp only
    rw [ExceptT.run_bind, run_state_bind, ExceptT.run_liftM, run_state_map]
    obtain ⟨cut, s₂⟩ : Bool × σ := (interrupt.sleep interval).run s₁
    cases cut with
    | true => rfl
    | false =>
      dsimp only
      rw [if_neg (by simp), ExceptT.run_bind, run_state_bind]
      obtain ⟨second, s₃⟩ : Answer Ticks × σ := source.ticks.run.run s₂
      cases second <;> rfl

/-- A round is a look at the token, a load and another look. -/
theorem Watch.run_round (s : σ) :
    (Watch.round source interrupt interval).run s =
      match interrupt.isCancelled.run s with
      | (true, s) => (.stopped, s)
      | (false, s) =>
        match (source.loadOver interrupt interval).run.run s with
        | (.error error, s) => (.failed error, s)
        | (.ok load, s) =>
          match interrupt.isCancelled.run s with
          | (true, s) => (.stopped, s)
          | (false, s) => (.written load, s) := by
  -- each action is run on a state of its own, so that the rest can be split by its answer
  unfold round
  rw [run_state_bind]
  obtain ⟨first, s₁⟩ : Bool × σ := interrupt.isCancelled.run s
  cases first with
  | true => rfl
  | false =>
    dsimp only
    rw [if_neg (by simp), run_state_bind]
    obtain ⟨answer, s₂⟩ : Answer Float32 × σ := (source.loadOver interrupt interval).run.run s₁
    cases answer with
    | error error => rfl
    | ok load =>
      dsimp only
      rw [run_state_bind]
      obtain ⟨last, s₃⟩ : Bool × σ := interrupt.isCancelled.run s₂
      cases last <;> rfl

end HardwareReport
