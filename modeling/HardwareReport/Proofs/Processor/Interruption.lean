import HardwareReport.Proofs.Processor.Watch

/-!
# Processor — an interrupted watch prints whole windows only

Two samples and the wait between them are a window. Window number `n` takes the samples `2n` and
`2n + 1` of the script and the looks `3n`, `3n + 1` and `3n + 2` of the schedule, whatever happened
before it, because a watch goes on only after a window that is complete. Everything that is said of
a run here is an induction on the ways that it can go.

Main result: `Watch.run_faithful` — the lines are the loads of the windows that were completed and
not interrupted; once the token is cancelled there is at most one more sample or one more line; and
the run ends when the token is seen cancelled or a sample fails, and not otherwise.
-/

namespace HardwareReport.Watch

variable {samples : Nat → Answer Ticks} {schedule : Schedule} {i rounds : Nat}
  {outcome : Outcome} {events : List Event}

/-- Window number `n` is completed: both its samples can be taken, and the token is not cancelled
when its load is known. -/
def Completes (samples : Nat → Answer Ticks) (schedule : Schedule) (n : Nat) : Prop :=
  ∃ before now, samples (2 * n) = .ok before ∧ samples (2 * n + 1) = .ok now ∧
    schedule.cancelled (3 * n + 2) = false

/-! ## Lines -/

theorem filterMap_load?_of_round {result : Round}
    (h : RoundCourse samples schedule i result events) : events.filterMap Event.load? = [] := by
  cases h <;> rfl

/-- The loads of a run are the lines that it printed. -/
theorem Course.filterMap_load? (h : Course samples schedule i rounds outcome events) :
    events.filterMap Event.load? = outcome.loads := by
  induction h with
  | unfinished => rfl
  | stopped last => exact filterMap_load?_of_round last
  | failed last => exact filterMap_load?_of_round last
  | written first _ ih =>
    rw [List.filterMap_append, filterMap_load?_of_round first, List.nil_append,
      List.filterMap_cons, ih]
    rfl

theorem Course.length_le (h : Course samples schedule i rounds outcome events) :
    outcome.loads.length ≤ rounds := by
  induction h with
  | unfinished => exact Nat.le_refl 0
  | stopped => exact Nat.zero_le _
  | failed => exact Nat.zero_le _
  | written _ _ ih => exact Nat.succ_le_succ ih

theorem RoundCourse.completes {load : Float32}
    (h : RoundCourse samples schedule i (.written load) events) :
    ∃ before now, samples (2 * i) = .ok before ∧ samples (2 * i + 1) = .ok now ∧
      schedule.cancelled (3 * i + 2) = false ∧ load = now.loadSince before := by
  cases h with
  | written sample₀ sample₁ look₂ => exact ⟨_, _, sample₀, sample₁, look₂, rfl⟩

/-- A round after which no line is printed had no complete window. -/
theorem RoundCourse.not_completes {result : Round}
    (h : RoundCourse samples schedule i result events) (hResult : ∀ load, result ≠ .written load) :
    ¬ Completes samples schedule i := by
  rintro ⟨before, now, hBefore, hNow, hLook⟩
  -- every other end of a round has a look or a sample that a complete window excludes
  cases h with
  | cancelledBefore look₀ =>
    rw [schedule.cancelled_eq_false_of_le (Nat.le_add_right _ 2) hLook] at look₀
    exact absurd look₀ (by simp)
  | firstFailed _ sample₀ =>
    rw [hBefore] at sample₀
    exact absurd sample₀ (by simp)
  | cutShort _ _ look₁ =>
    rw [schedule.cancelled_eq_false_of_le (Nat.le_succ _) hLook] at look₁
    exact absurd look₁ (by simp)
  | secondFailed _ _ sample₁ =>
    rw [hNow] at sample₁
    exact absurd sample₁ (by simp)
  | cancelledAfter _ _ look₂ =>
    rw [hLook] at look₂
    exact absurd look₂ (by simp)
  | written => exact hResult _ rfl

/-- The line after window number `n` gives its load, and at no look of the window was the token
cancelled. -/
theorem Course.of_getElem?_loads (h : Course samples schedule i rounds outcome events) {n : Nat}
    {load : Float32} (hLoad : outcome.loads[n]? = some load) :
    ∃ before now, samples (2 * (i + n)) = .ok before ∧ samples (2 * (i + n) + 1) = .ok now ∧
      schedule.cancelled (3 * (i + n) + 2) = false ∧ load = now.loadSince before := by
  induction h generalizing n with
  | unfinished => exact absurd hLoad (by simp)
  | stopped => exact absurd hLoad (by simp)
  | failed => exact absurd hLoad (by simp)
  | @written i rounds events later first outcome hRound _ ih =>
    cases n with
    | zero =>
      rw [List.getElem?_cons_zero, Option.some.injEq] at hLoad
      subst hLoad
      exact hRound.completes
    | succ n =>
      rw [List.getElem?_cons_succ] at hLoad
      have hNext := ih hLoad
      -- the window is one earlier in the rounds that come later
      rw [show i + 1 + n = i + (n + 1) by omega] at hNext
      exact hNext

/-- There is a line after window number `n` exactly if it and all windows before it were
completed. -/
theorem Course.lt_length_iff (h : Course samples schedule i rounds outcome events) {n : Nat}
    (hn : n < rounds) :
    n < outcome.loads.length ↔ ∀ k ≤ n, Completes samples schedule (i + k) := by
  have hStart : ∀ {i : Nat} {result : Round} {events : List Event} {n : Nat},
      RoundCourse samples schedule i result events → (∀ load, result ≠ .written load) →
      ¬ ∀ k ≤ n, Completes samples schedule (i + k) := by
    intro i result events n hRound hResult hAll
    exact hRound.not_completes hResult (hAll 0 (Nat.zero_le _))
  induction h generalizing n with
  | unfinished => exact absurd hn (Nat.not_lt_zero _)
  | stopped last =>
    exact ⟨fun h => absurd h (Nat.not_lt_zero _), fun h => absurd h (hStart last (by simp))⟩
  | failed last =>
    exact ⟨fun h => absurd h (Nat.not_lt_zero _), fun h => absurd h (hStart last (by simp))⟩
  | @written i rounds events later load outcome hRound _ ih =>
    obtain ⟨before, now, sample₀, sample₁, look₂, -⟩ := hRound.completes
    have hFirst : Completes samples schedule i := ⟨before, now, sample₀, sample₁, look₂⟩
    cases n with
    | zero =>
      refine ⟨fun _ k hk => ?_, fun _ => Nat.succ_pos _⟩
      rw [Nat.le_zero.mp hk]
      exact hFirst
    | succ n =>
      -- window number `n + 1` is window number `n` of a run that begins one round later
      have hRest := ih (Nat.lt_of_succ_lt_succ hn)
      constructor
      · intro hLength k hk
        cases k with
        | zero => exact hFirst
        | succ k =>
          rw [show i + (k + 1) = i + 1 + k by omega]
          exact hRest.mp (Nat.lt_of_succ_lt_succ hLength) k (Nat.le_of_succ_le_succ hk)
      · intro hAll
        refine Nat.succ_lt_succ (hRest.mpr fun k hk => ?_)
        rw [show i + 1 + k = i + (k + 1) by omega]
        exact hAll (k + 1) (Nat.succ_le_succ hk)

/-! ## Endings -/

/-- No look of a round that ends in a line found the token cancelled. -/
theorem RoundCourse.look?_ne_some_true {load : Float32}
    (h : RoundCourse samples schedule i (.written load) events) :
    ∀ event ∈ events, event.look? ≠ some true := by
  cases h
  simp [Event.look?]

/-- A run ends as stopped exactly if it has seen the token cancelled. -/
theorem Course.stopped_iff (h : Course samples schedule i rounds outcome events) :
    outcome.ending = .stopped ↔ ∃ event ∈ events, event.look? = some true := by
  induction h with
  | unfinished => simp
  | stopped last => cases last <;> simp [Event.look?]
  | failed last => cases last <;> simp [Event.look?]
  | @written i rounds events later load outcome first _ ih =>
    -- a round that printed a line saw no such look, so the look is in the rounds after it
    rw [ih]
    constructor
    · rintro ⟨event, hMem, hSeen⟩
      exact ⟨event, List.mem_append_right _ (List.mem_cons_of_mem _ hMem), hSeen⟩
    · rintro ⟨event, hMem, hSeen⟩
      rcases List.mem_append.mp hMem with hFirst | hLater
      · exact absurd hSeen (first.look?_ne_some_true event hFirst)
      · rcases List.mem_cons.mp hLater with rfl | hLater
        · exact absurd hSeen (by simp [Event.look?])
        · exact ⟨event, hLater, hSeen⟩

/-- A run that is unfinished has printed a line in every round, and otherwise it has not. -/
theorem Course.unfinished_iff_length (h : Course samples schedule i rounds outcome events) :
    outcome.ending = .unfinished ↔ outcome.loads.length = rounds := by
  induction h with
  | unfinished => simp
  | stopped => simp
  | failed => simp
  | written _ _ ih => rw [ih, List.length_cons, Nat.succ_inj]

/-- A run is unfinished exactly if all its windows were completed. -/
theorem Course.unfinished_iff (h : Course samples schedule i rounds outcome events) :
    outcome.ending = .unfinished ↔ ∀ n < rounds, Completes samples schedule (i + n) := by
  -- a line a round means a line in the last round, and so that every window was completed
  rw [h.unfinished_iff_length]
  constructor
  · intro hLength n hn
    exact (h.lt_length_iff hn).mp (hLength ▸ hn) n (Nat.le_refl n)
  · intro hAll
    refine Nat.le_antisymm h.length_le ?_
    cases rounds with
    | zero => exact Nat.zero_le _
    | succ last =>
      exact (h.lt_length_iff (Nat.lt_succ_self last)).mpr fun k hk =>
        hAll k (Nat.lt_succ_of_le hk)

/-- The samples of a round that ends in a line are the two of its window. -/
theorem RoundCourse.filterMap_sample? {load : Float32}
    (h : RoundCourse samples schedule i (.written load) events) :
    events.filterMap Event.sample? = [samples (2 * i), samples (2 * i + 1)] := by
  cases h with
  | written sample₀ sample₁ =>
    rw [sample₀, sample₁]
    rfl

/-- Two samples and then those of the later rounds are the samples of a run. -/
theorem range'_add_two (i count : Nat) :
    List.range' (2 * i) (count + 2) =
      2 * i :: (2 * i + 1) :: List.range' (2 * (i + 1)) count := by
  rw [List.range'_succ, List.range'_succ]
  rfl

/-- A round that ends in an error ends with its first sample that fails. -/
theorem RoundCourse.of_failed {error : HardwareError}
    (h : RoundCourse samples schedule i (.failed error) events) :
    ∃ n < 2, samples (2 * i + n) = .error error ∧
      (∀ k < n, ∃ answer, samples (2 * i + k) = .ok answer) ∧
      events.filterMap Event.sample? = (List.range' (2 * i) (n + 1)).map samples := by
  cases h with
  | firstFailed _ sample₀ =>
    refine ⟨0, by omega, sample₀, fun k hk => absurd hk (Nat.not_lt_zero k), ?_⟩
    rw [List.range'_one, List.map_singleton, sample₀]
    rfl
  | secondFailed sample₀ _ sample₁ =>
    refine ⟨1, by omega, sample₁, ?_, ?_⟩
    · intro k hk
      -- the only sample before it
      obtain rfl : k = 0 := by omega
      exact ⟨_, sample₀⟩
    · rw [range'_add_two i 0, List.map_cons, List.map_cons, sample₀, sample₁]
      rfl

/-- The samples of two stretches of a run, the first of which is a round with a line. -/
theorem filterMap_sample?_append {load : Float32} {later : List Event} {count : Nat}
    (h : RoundCourse samples schedule i (.written load) events)
    (hLater : later.filterMap Event.sample? = (List.range' (2 * (i + 1)) count).map samples) :
    (events ++ .printed load :: later).filterMap Event.sample? =
      (List.range' (2 * i) (count + 2)).map samples := by
  rw [range'_add_two, List.map_cons, List.map_cons, ← hLater, List.filterMap_append,
    h.filterMap_sample?]
  rfl

/-- The samples of a run follow the script without a gap. -/
theorem Course.filterMap_sample? (h : Course samples schedule i rounds outcome events) :
    ∃ count, events.filterMap Event.sample? = (List.range' (2 * i) count).map samples := by
  induction h with
  | unfinished => exact ⟨0, rfl⟩
  | @stopped i _ _ last =>
    cases last with
    | cancelledBefore => exact ⟨0, rfl⟩
    | cutShort _ sample₀ =>
      refine ⟨1, ?_⟩
      rw [List.range'_one, List.map_singleton, sample₀]
      rfl
    | cancelledAfter sample₀ sample₁ =>
      refine ⟨2, ?_⟩
      rw [range'_add_two i 0, List.map_cons, List.map_cons, sample₀, sample₁]
      rfl
  | failed last =>
    obtain ⟨n, -, -, -, hSamples⟩ := last.of_failed
    exact ⟨n + 1, hSamples⟩
  | written first _ ih =>
    obtain ⟨count, hCount⟩ := ih
    exact ⟨count + 2, filterMap_sample?_append first hCount⟩

/-- The last event of a run that ends in an error is the sample that failed. -/
theorem Course.getLast?_of_failed (h : Course samples schedule i rounds outcome events)
    {error : HardwareError} (hEnding : outcome.ending = .failed error) :
    events.getLast? = some (.sampled (.error error)) := by
  induction h with
  | unfinished => exact absurd hEnding (by simp)
  | stopped => exact absurd hEnding (by simp)
  | failed last =>
    obtain rfl := Ending.failed.inj hEnding
    cases last <;> rfl
  | written first _ ih =>
    rw [List.getLast?_append, List.getLast?_cons, ih hEnding]
    rfl

/-- A run that ends in an error ends with the first sample that fails, and has printed the load of
every window before it. -/
theorem Course.of_failed (h : Course samples schedule i rounds outcome events)
    {error : HardwareError} (hEnding : outcome.ending = .failed error) :
    ∃ n, samples (2 * i + n) = .error error ∧
      (∀ k < n, ∃ answer, samples (2 * i + k) = .ok answer) ∧
      events.filterMap Event.sample? = (List.range' (2 * i) (n + 1)).map samples ∧
      outcome.loads.length = n / 2 := by
  induction h with
  | unfinished => exact absurd hEnding (by simp)
  | stopped => exact absurd hEnding (by simp)
  | failed last =>
    obtain rfl := Ending.failed.inj hEnding
    obtain ⟨n, hn, hError, hBefore, hSamples⟩ := last.of_failed
    exact ⟨n, hError, hBefore, hSamples, (Nat.div_eq_of_lt hn).symm⟩
  | @written i rounds events later load outcome first _ ih =>
    obtain ⟨n, hError, hBefore, hSamples, hLength⟩ := ih hEnding
    -- the first window takes two samples that do not fail, and prints one line
    obtain ⟨before, now, sample₀, sample₁, -, -⟩ := first.completes
    refine ⟨n + 2, ?_, ?_, ?_, ?_⟩
    · rw [show 2 * i + (n + 2) = 2 * (i + 1) + n by omega]
      exact hError
    · intro k hk
      match k with
      | 0 => exact ⟨before, sample₀⟩
      | 1 => exact ⟨now, sample₁⟩
      | k + 2 =>
        rw [show 2 * i + (k + 2) = 2 * (i + 1) + k by omega]
        exact hBefore k (by omega)
    · exact filterMap_sample?_append first hSamples
    · rw [List.length_cons, hLength]
      omega

/-! ## After the token was cancelled -/

/-- A run that never finds the token uncancelled takes no sample and prints no line. -/
theorem Course.countP_isWork_eq_zero (h : Course samples schedule i rounds outcome events)
    (hLate : ∀ event ∈ events, event.look? ≠ some false) : events.countP Event.isWork = 0 := by
  -- every other round begins with a look that finds the token uncancelled
  cases h with
  | unfinished => rfl
  | stopped last =>
    cases last with
    | cancelledBefore => rfl
    | cutShort => exact absurd rfl (hLate (.checked false) (List.mem_cons_self ..))
    | cancelledAfter => exact absurd rfl (hLate (.checked false) (List.mem_cons_self ..))
  | failed last =>
    cases last with
    | firstFailed => exact absurd rfl (hLate (.checked false) (List.mem_cons_self ..))
    | secondFailed => exact absurd rfl (hLate (.checked false) (List.mem_cons_self ..))
  | written first =>
    cases first with
    | written => exact absurd rfl (hLate (.checked false) (List.mem_cons_self ..))

/-- However late it begins, a stretch of a history in which the token is never found uncancelled
up to the end has at most one sample or one line. -/
def Prompt (events : List Event) : Prop :=
  ∀ late, late <:+ events → (∀ event ∈ late, event.look? ≠ some false) →
    late.countP Event.isWork ≤ 1

/-- A history with at most one sample or one line is prompt. -/
theorem Prompt.of_countP_le (h : events.countP Event.isWork ≤ 1) : Prompt events :=
  fun _ hSuffix _ => (hSuffix.sublist.countP_le).trans h

/-- A look that found the token uncancelled may stand before a prompt history, whatever stood
before that look. -/
theorem Prompt.append_cons (front : List Event) {look : Event} {later : List Event}
    (hLook : look.look? = some false) (h : Prompt later) : Prompt (front ++ look :: later) := by
  intro late hSuffix hLate
  induction front with
  | nil =>
    rcases List.suffix_cons_iff.mp hSuffix with rfl | hLater
    · exact absurd hLook (hLate look (List.mem_cons_self ..))
    · exact h late hLater hLate
  | cons event front ih =>
    rcases List.suffix_cons_iff.mp hSuffix with rfl | hLater
    · -- a stretch that begins before the look has it in it
      have hMem : look ∈ event :: front ++ look :: later :=
        List.mem_append_right (event :: front) (List.mem_cons_self ..)
      exact absurd hLook (hLate look hMem)
    · exact ih hLater

/-- From whatever moment on the token is never found uncancelled, there is at most one sample or
one line. -/
theorem Course.prompt (h : Course samples schedule i rounds outcome events) : Prompt events := by
  induction h with
  | unfinished => exact .of_countP_le (Nat.zero_le 1)
  | stopped last =>
    cases last with
    | cancelledBefore => exact .of_countP_le (Nat.zero_le 1)
    | cutShort => exact .of_countP_le (Nat.le_refl 1)
    | cancelledAfter => exact .append_cons [_, _] rfl (.of_countP_le (Nat.le_refl 1))
  | failed last =>
    cases last with
    | firstFailed => exact .of_countP_le (Nat.le_refl 1)
    | secondFailed => exact .append_cons [_, _] rfl (.of_countP_le (Nat.le_refl 1))
  | @written i rounds events later load outcome first rest ih =>
    -- after the line there may be rounds, but not if the token is cancelled from there on
    have hRest : Prompt (.printed load :: later) := by
      intro late hSuffix hLate
      rcases List.suffix_cons_iff.mp hSuffix with rfl | hLater
      · have hNothing := rest.countP_isWork_eq_zero fun event hMem =>
          hLate event (List.mem_cons_of_mem _ hMem)
        rw [List.countP_cons, hNothing]
        exact Nat.le_refl 1
      · exact ih late hLater hLate
    cases first with
    | written => exact .append_cons [_, _, _, _] rfl hRest

/-- Nothing is sampled or printed once the token was seen cancelled. -/
theorem Course.pairwise_isWork (h : Course samples schedule i rounds outcome events) :
    events.Pairwise fun seen later => seen.look? = some true → later.isWork = false := by
  induction h with
  | unfinished => exact .nil
  | stopped last => cases last <;> simp [Event.look?, Event.isWork, Event.sample?, Event.load?]
  | failed last => cases last <;> simp [Event.look?]
  | written first rest ih =>
    rw [List.pairwise_append, List.pairwise_cons]
    refine ⟨?_, ⟨?_, ih⟩, ?_⟩
    · cases first
      simp [Event.look?]
    · intro later _ hSeen
      exact absurd hSeen (by simp [Event.look?])
    · intro seen hMem later _ hSeen
      exact absurd hSeen (first.look?_ne_some_true seen hMem)

/-! ## The whole run -/

/-- What a watch that was asked for a number of rounds owes to those who read its lines and to
those who interrupt it. -/
structure Faithful (samples : Nat → Answer Ticks) (schedule : Schedule) (rounds : Nat)
    (outcome : Outcome) (events : List Event) : Prop where
  /-- The loads of the outcome are the lines, in order. -/
  lines : events.filterMap Event.load? = outcome.loads
  /-- Every line is the load of its own window, in which no look found the token cancelled. -/
  windows : ∀ (n : Nat) (load : Float32), outcome.loads[n]? = some load →
    ∃ before now, samples (2 * n) = .ok before ∧ samples (2 * n + 1) = .ok now ∧
      (∀ look ≤ 2, schedule.cancelled (3 * n + look) = false) ∧ load = now.loadSince before
  /-- No window that was completed lacks its line, unless one before it was not. -/
  complete : ∀ n < rounds,
    (n < outcome.loads.length ↔ ∀ k ≤ n, Completes samples schedule k)
  /-- The samples follow the script, none of them skipped and none taken twice. -/
  inOrder : ∃ count, events.filterMap Event.sample? = (List.range count).map samples
  /-- Wherever in the history the token is cancelled, one sample or one line may follow, and not
  both. -/
  prompt : Prompt events
  /-- Nothing follows once the token was seen cancelled. -/
  seen : events.Pairwise fun seen later => seen.look? = some true → later.isWork = false
  /-- The run stops exactly if the token was seen cancelled. -/
  stopped : outcome.ending = .stopped ↔ ∃ event ∈ events, event.look? = some true
  /-- It fails with the first sample that fails, after the lines of all windows before that. -/
  failed : ∀ error, outcome.ending = .failed error →
    ∃ n, samples n = .error error ∧ (∀ k < n, ∃ answer, samples k = .ok answer) ∧
      events.getLast? = some (.sampled (.error error)) ∧
      events.filterMap Event.sample? = (List.range (n + 1)).map samples ∧
      outcome.loads.length = n / 2
  /-- It goes on for as long as it may unless there is a window that is not completed. -/
  unfinished : outcome.ending = .unfinished ↔ ∀ n < rounds, Completes samples schedule n

/-- A run that begins with the first round is faithful. -/
theorem Course.faithful (h : Course samples schedule 0 rounds outcome events) :
    Faithful samples schedule rounds outcome events where
  lines := h.filterMap_load?
  windows n load hLoad := by
    obtain ⟨before, now, hBefore, hNow, hLook, hEq⟩ := h.of_getElem?_loads hLoad
    rw [Nat.zero_add] at hBefore hNow hLook
    refine ⟨before, now, hBefore, hNow, fun look hLe => ?_, hEq⟩
    -- a token that was not cancelled at the last look was not at those before
    exact schedule.cancelled_eq_false_of_le (by omega) hLook
  complete n hn := by
    have hIff := h.lt_length_iff hn
    simp only [Nat.zero_add] at hIff
    exact hIff
  inOrder := by
    obtain ⟨count, hSamples⟩ := h.filterMap_sample?
    exact ⟨count, by rw [List.range_eq_range', hSamples]⟩
  prompt := h.prompt
  seen := h.pairwise_isWork
  stopped := h.stopped_iff
  failed error hEnding := by
    obtain ⟨n, hError, hBefore, hSamples, hLength⟩ := h.of_failed hEnding
    simp only [Nat.mul_zero, Nat.zero_add] at hError hBefore
    refine ⟨n, hError, hBefore, h.getLast?_of_failed hEnding, ?_, hLength⟩
    rw [List.range_eq_range', hSamples]
  unfinished := by
    have hIff := h.unfinished_iff
    simp only [Nat.zero_add] at hIff
    exact hIff

/-- **Main.** However the token is cancelled, a watch prints the loads of the windows that were
completed, in order and up to the first that was not, and then ends. -/
theorem run_faithful (samples : Nat → Answer Ticks) (schedule : Schedule) (interval : Duration)
    (rounds : Nat) :
    ∃ outcome events,
      (run (scripted samples) (scheduled schedule) interval print rounds).run [] =
        (outcome, events) ∧
      Faithful samples schedule rounds outcome events := by
  obtain ⟨outcome, events, hCourse, hRun⟩ :
      ∃ outcome events, Course samples schedule 0 rounds outcome events ∧
        (run (scripted samples) (scheduled schedule) interval print rounds).run [] =
          (outcome, [] ++ events) := run_course samples schedule interval rfl rfl
  exact ⟨outcome, events, hRun, hCourse.faithful⟩

end HardwareReport.Watch
