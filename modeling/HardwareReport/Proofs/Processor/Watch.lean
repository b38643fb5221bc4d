import HardwareReport.Proofs.Processor.Load
import Mathlib.Data.List.Range

/-!
# Processor — what a watch shows when it is interrupted

A watch looks at the token three times a round: before the first sample, at the end of the wait
and once the load is known. The token may be cancelled at any point between these looks, the
samples and the lines. Here every one of them is an event of a history, the samples come from a
script, and the looks from a schedule that stays cancelled once it is.

* `Watch.Event`, `Watch.History` — what happens in a run;
* `Watch.Schedule` — how the token answers from one look to the next;
* `Watch.RoundCourse`, `Watch.Course` — the ways a round and a run can go;
* `Watch.run_course` — every run goes one of these ways.
-/

namespace HardwareReport.Watch

/-! ## Histories -/

/-- What happens in a run. -/
inductive Event where
  /-- The token was looked at. -/
  | checked (cancelled : Bool)
  /-- A wait ended, cut short or not. -/
  | waited (cancelled : Bool)
  | sampled (answer : Answer Ticks)
  | printed (load : Float32)

namespace Event

/-- What the token said, if the event is a look at it. -/
def look? : Event → Option Bool
  | checked cancelled | waited cancelled => some cancelled
  | sampled _ | printed _ => none

/-- The sample taken, if one was. -/
def sample? : Event → Option (Answer Ticks)
  | sampled answer => some answer
  | checked _ | waited _ | printed _ => none

/-- The load printed, if one was. -/
def load? : Event → Option Float32
  | printed load => some load
  | checked _ | waited _ | sampled _ => none

/-- A sample was taken or a line printed. -/
def isWork (event : Event) : Bool :=
  event.sample?.isSome || event.load?.isSome

end Event

/-- What has happened so far, in order. -/
abbrev History := List Event

/-- The answers of a token to one look after the other. -/
structure Schedule where
  cancelled : Nat → Bool
  /-- Once cancelled, a token stays so. -/
  stays : ∀ i j, i ≤ j → cancelled i = true → cancelled j = true

/-- A look that found the token uncancelled was not preceded by another that did not. -/
theorem Schedule.cancelled_eq_false_of_le (schedule : Schedule) {i j : Nat} (hle : i ≤ j)
    (h : schedule.cancelled j = false) : schedule.cancelled i = false := by
  cases hi : schedule.cancelled i with
  | false => rfl
  | true =>
    rw [schedule.stays i j hle hi] at h
    exact absurd h (by simp)

/-- The count of looks at the token so far. -/
def looksTaken (history : History) : Nat := (history.filterMap Event.look?).length

/-- The count of samples so far. -/
def samplesTaken (history : History) : Nat := (history.filterMap Event.sample?).length

theorem looksTaken_append (history events : History) :
    looksTaken (history ++ events) = looksTaken history + looksTaken events := by
  rw [looksTaken, List.filterMap_append, List.length_append]
  rfl

theorem samplesTaken_append (history events : History) :
    samplesTaken (history ++ events) = samplesTaken history + samplesTaken events := by
  rw [samplesTaken, List.filterMap_append, List.length_append]
  rfl

/-! ## Scripts -/

/-- A source whose counters answer from a script. -/
def scripted (samples : Nat → Answer Ticks) : ProcessorSource (StateM History) where
  identity := throw (.nativeQuery "identity" 5 "not in the script")
  ticks := .mk do
    let history ← get
    let answer := samples (samplesTaken history)
    set (history ++ [.sampled answer])
    return answer
  logicalCount := pure 1
  loadAverage := pure none
  systemLoad := pure 0

/-- A token that answers by a schedule. -/
def scheduled (schedule : Schedule) : Interrupt (StateM History) where
  isCancelled := do
    let history ← get
    let cancelled := schedule.cancelled (looksTaken history)
    set (history ++ [.checked cancelled])
    return cancelled
  sleep _ := do
    let history ← get
    let cancelled := schedule.cancelled (looksTaken history)
    set (history ++ [.waited cancelled])
    return cancelled

/-- Prints a line. -/
def print (load : Float32) : StateM History Unit :=
  modify (· ++ [.printed load])

variable (samples : Nat → Answer Ticks) (schedule : Schedule) (interval : Duration)

/-- A sample takes the next answer of the script. -/
theorem run_ticks (history events : History) {n : Nat}
    (h : samplesTaken history + samplesTaken events = n) :
    (scripted samples).ticks.run.run (history ++ events) =
      (samples n, history ++ (events ++ [.sampled (samples n)])) := by
  subst h
  rw [← samplesTaken_append, ← List.append_assoc]
  rfl

/-- A look takes the next answer of the schedule. -/
theorem run_isCancelled (history events : History) {n : Nat}
    (h : looksTaken history + looksTaken events = n) :
    (scheduled schedule).isCancelled.run (history ++ events) =
      (schedule.cancelled n, history ++ (events ++ [.checked (schedule.cancelled n)])) := by
  subst h
  rw [← looksTaken_append, ← List.append_assoc]
  rfl

/-- The end of a wait is a look too. -/
theorem run_sleep (history events : History) {n : Nat}
    (h : looksTaken history + looksTaken events = n) :
    ((scheduled schedule).sleep interval).run (history ++ events) =
      (schedule.cancelled n, history ++ (events ++ [.waited (schedule.cancelled n)])) := by
  subst h
  rw [← looksTaken_append, ← List.append_assoc]
  rfl

/-! ## Rounds -/

/-- The ways in which round number `i` can go, with what it comes to and what happens in it. -/
inductive RoundCourse (i : Nat) : Round → List Event → Prop where
  | cancelledBefore (look₀ : schedule.cancelled (3 * i) = true) :
      RoundCourse i .stopped [.checked true]
  | firstFailed {error : HardwareError} (look₀ : schedule.cancelled (3 * i) = false)
      (sample₀ : samples (2 * i) = .error error) :
      RoundCourse i (.failed error) [.checked false, .sampled (.error error)]
  | cutShort {before : Ticks} (look₀ : schedule.cancelled (3 * i) = false)
      (sample₀ : samples (2 * i) = .ok before)
      (look₁ : schedule.cancelled (3 * i + 1) = true) :
      RoundCourse i .stopped
        [.checked false, .sampled (.ok before), .waited true, .checked true]
  | secondFailed {before : Ticks} {error : HardwareError}
      (sample₀ : samples (2 * i) = .ok before)
      (look₁ : schedule.cancelled (3 * i + 1) = false)
      (sample₁ : samples (2 * i + 1) = .error error) :
      RoundCourse i (.failed error)
        [.checked false, .sampled (.ok before), .waited false, .sampled (.error error)]
  | cancelledAfter {before now : Ticks}
      (sample₀ : samples (2 * i) = .ok before) (sample₁ : samples (2 * i + 1) = .ok now)
      (look₂ : schedule.cancelled (3 * i + 2) = true) :
      RoundCourse i .stopped
        [.checked false, .sampled (.ok before), .waited false, .sampled (.ok now), .checked true]
  | written {before now : Ticks}
      (sample₀ : samples (2 * i) = .ok before) (sample₁ : samples (2 * i + 1) = .ok now)
      (look₂ : schedule.cancelled (3 * i + 2) = false) :
      RoundCourse i (.written (now.loadSince before))
        [.checked false, .sampled (.ok before), .waited false, .sampled (.ok now), .checked false]

/-- Every round goes one of these ways. -/
theorem round_course {history : History} {i : Nat} (hLooks : looksTaken history = 3 * i)
    (hSamples : samplesTaken history = 2 * i) :
    ∃ result events, RoundCourse samples schedule i result events ∧
      (round (scripted samples) (scheduled schedule) interval).run history =
        (result, history ++ events) := by
  -- each look and each sample decides whether there is a next one
  have hCancelled₀ := run_isCancelled schedule history [] hLooks
  rw [List.append_nil] at hCancelled₀
  rw [run_round, hCancelled₀]
  cases look₀ : schedule.cancelled (3 * i) with
  | true => exact ⟨_, _, .cancelledBefore look₀, rfl⟩
  | false =>
    have hTicks₀ := run_ticks samples history [.checked false] hSamples
    dsimp only [List.nil_append]
    rw [ProcessorSource.run_loadOver, hTicks₀]
    cases sample₀ : samples (2 * i) with
    | error error => exact ⟨_, _, .firstFailed look₀ sample₀, rfl⟩
    | ok before =>
      have hSleep := run_sleep schedule interval history
        [.checked false, .sampled (.ok before)] (congrArg (· + 1) hLooks)
      dsimp only [List.cons_append, List.nil_append]
      rw [hSleep]
      cases look₁ : schedule.cancelled (3 * i + 1) with
      | true =>
        -- the load of a wait that was cut short is nothing, and the look after it hides that
        have look₂ := schedule.stays _ (3 * i + 2) (Nat.le_succ _) look₁
        have hCancelled₂ := run_isCancelled schedule history
          [.checked false, .sampled (.ok before), .waited true] (congrArg (· + 2) hLooks)
        rw [look₂] at hCancelled₂
        refine ⟨_, _, .cutShort look₀ sample₀ look₁, ?_⟩
        dsimp only [List.cons_append, List.nil_append]
        rw [hCancelled₂]
        rfl
      | false =>
        have hTicks₁ := run_ticks samples history
          [.checked false, .sampled (.ok before), .waited false] (congrArg (· + 1) hSamples)
        dsimp only [List.cons_append, List.nil_append]
        rw [hTicks₁]
        cases sample₁ : samples (2 * i + 1) with
        | error error => exact ⟨_, _, .secondFailed sample₀ look₁ sample₁, rfl⟩
        | ok now =>
          have hCancelled₂ := run_isCancelled schedule history
            [.checked false, .sampled (.ok before), .waited false, .sampled (.ok now)]
            (congrArg (· + 2) hLooks)
          dsimp only [List.cons_append, List.nil_append]
          rw [hCancelled₂]
          cases look₂ : schedule.cancelled (3 * i + 2) with
          | true => exact ⟨_, _, .cancelledAfter sample₀ sample₁ look₂, rfl⟩
          | false => exact ⟨_, _, .written sample₀ sample₁ look₂, rfl⟩

/-! ## Runs -/

/-- The ways in which a run can go that begins with round number `i`, with how it ends and what
happens in it. -/
inductive Course : Nat → Nat → Outcome → List Event → Prop where
  | unfinished (i : Nat) : Course i 0 ⟨[], .unfinished⟩ []
  | stopped {i rounds : Nat} {events : List Event}
      (last : RoundCourse samples schedule i .stopped events) :
      Course i (rounds + 1) ⟨[], .stopped⟩ events
  | failed {i rounds : Nat} {events : List Event} {error : HardwareError}
      (last : RoundCourse samples schedule i (.failed error) events) :
      Course i (rounds + 1) ⟨[], .failed error⟩ events
  | written {i rounds : Nat} {events later : List Event} {load : Float32} {outcome : Outcome}
      (first : RoundCourse samples schedule i (.written load) events)
      (rest : Course (i + 1) rounds outcome later) :
      Course i (rounds + 1) ⟨load :: outcome.loads, outcome.ending⟩
        (events ++ .printed load :: later)

/-- Every run goes one of these ways. -/
theorem run_course {rounds i : Nat} {history : History} (hLooks : looksTaken history = 3 * i)
    (hSamples : samplesTaken history = 2 * i) :
    ∃ outcome events, Course samples schedule i rounds outcome events ∧
      (run (scripted samples) (scheduled schedule) interval print rounds).run history =
        (outcome, history ++ events) := by
  induction rounds generalizing i history with
  | zero => exact ⟨_, _, .unfinished i, by rw [List.append_nil]; rfl⟩
  | succ rounds ih =>
    obtain ⟨result, events, hRound, hRun⟩ :=
      round_course samples schedule interval hLooks hSamples
    unfold run
    rw [run_state_bind, hRun]
    cases result with
    | stopped => exact ⟨_, _, .stopped hRound, rfl⟩
    | failed error => exact ⟨_, _, .failed hRound, rfl⟩
    | written load =>
      -- three looks and two samples later the next round begins
      have hLater : looksTaken (history ++ events ++ [.printed load]) = 3 * (i + 1) ∧
          samplesTaken (history ++ events ++ [.printed load]) = 2 * (i + 1) := by
        rw [looksTaken_append, looksTaken_append, samplesTaken_append, samplesTaken_append,
          hLooks, hSamples]
        cases hRound
        exact ⟨rfl, rfl⟩
      obtain ⟨outcome, later, hCourse, hRest⟩ := ih hLater.1 hLater.2
      refine ⟨_, _, .written hRound hCourse, ?_⟩
      have hPrint : (print load).run (history ++ events) =
          ((), history ++ events ++ [.printed load]) := rfl
      dsimp only
      rw [run_state_bind, hPrint, run_state_bind, hRest, List.append_assoc, List.append_assoc]
      rfl

end HardwareReport.Watch
