import HardwareReport.Proofs.Snapshot.Collect
import HardwareReport.Proofs.Snapshot.Questions

/-!
# Snapshot — what cancelling costs

Two snapshots are collected from one state, one with a token that is never cancelled and one with a
token that was. Both go the same way up to the wait for the load: the second then goes on without
the third sample. If the replies of a layer do not depend on how many samples were taken, what it
tells of the processor is the same but for the load, and so is everything after it.

The third sample may fail, though. The first snapshot then has an error in place of the report, and
it does not ask what else is asked of a processor: what was collected before is the same in both,
and whether the sections after it come out the same is up to the layer.

* `Layer.IgnoresSamples`, `Layer.IgnoresProcessor` — what the replies of a layer do not depend on;
* `Layer.FailsThird` — two samples and then an error;
* `Layer.spared_readProcessor` — the processor section, from one state;
* `foldlM_visit_elsewhere`, `foldlM_visit_repeated` — the sections after it;
* `Snapshot.PartedByThird` — two snapshots of which only the first has taken a sample that fails.

Main result: `Snapshot.cancelled_costs_load`.
-/

namespace HardwareReport

variable {σ : Type}

/-! ## Samples -/

/-- The answer to the sample of the counters that is taken after a count of others. -/
def ProcessorSource.sampleAfter (source : ProcessorSource (StateM σ)) : Nat → σ → Answer Ticks
  | 0, s => (source.ticks.run.run s).1
  | count + 1, s => source.sampleAfter count (source.ticks.run.run s).2

namespace Layer

/-- The first two samples that are taken from a state on are there, and the third fails. -/
structure FailsThird (layer : Layer (StateM σ)) (s : σ) (error : HardwareError) : Prop where
  first : ∃ ticks, layer.processor.sampleAfter 0 s = .ok ticks
  second : ∃ ticks, layer.processor.sampleAfter 1 s = .ok ticks
  third : layer.processor.sampleAfter 2 s = .error error

/-- Whether a question is for a section other than that of the processor. -/
def IsElsewhere (question : Question) : Prop :=
  question.area ≠ .processor

/-- The replies to all questions are the same whether a sample was taken before or not. -/
def IgnoresSamples (layer : Layer (StateM σ)) : Prop :=
  ∀ s, layer.Alike (fun _ => True) s (layer.processor.ticks.run.run s).2

/-- The replies to the questions for other sections are the same whether one for the processor was
asked before or not. -/
def IgnoresProcessor (layer : Layer (StateM σ)) : Prop :=
  ∀ question : Question, question.area = .processor →
    ∀ s, layer.Alike IsElsewhere s ((layer.ask question).run s).2

end Layer

/-! ## The processor section -/

theorem Token.run_sleep_steady (token : Token) (interval : Duration) (s : σ) :
    (((Token.steady token : Interrupt (StateM σ)).sleep interval).run s) = (token.cancelled, s) :=
  rfl

namespace ProcessorReport

/-- What is read of a processor besides its counters, as the report that they are missing from. -/
def around {m : Type → Type} [Monad m] (source : ProcessorSource m) (interval : Duration) :
    m (Ticks → Float32 → ProcessorReport) := do
  let identity ← source.identityOrUnknown
  let logicalCount ← source.logicalCount
  let loadAverage ← source.loadAverage
  let systemLoad ← source.systemLoad
  return fun ticks load =>
    { identity, logicalCount, loadAverage, systemLoad, ticks, load, interval }

variable (source : ProcessorSource (StateM σ)) (interrupt : Interrupt (StateM σ))
  (interval : Duration)

/-- A report is a sample and a load, either of which may fail, and what is around them. -/
theorem read_eq : read source interrupt interval = do
    let ticks ← source.ticks
    let load ← source.loadOver interrupt interval
    let report ← liftM (around source interval)
    return report ticks load :=
  rfl

theorem run_read (s : σ) :
    (read source interrupt interval).run.run s =
      match source.ticks.run.run s with
      | (.error error, s) => (.error error, s)
      | (.ok ticks, s) =>
        match (source.loadOver interrupt interval).run.run s with
        | (.error error, s) => (.error error, s)
        | (.ok load, s) =>
          (.ok (((around source interval).run s).1 ticks load),
            ((around source interval).run s).2) := by
  rw [read_eq, ExceptT.run_bind, run_state_bind]
  obtain ⟨first, s₁⟩ : Answer Ticks × σ := source.ticks.run.run s
  cases first with
  | error error => rfl
  | ok ticks =>
    dsimp only
    rw [ExceptT.run_bind, run_state_bind]
    obtain ⟨answer, s₂⟩ : Answer Float32 × σ := (source.loadOver interrupt interval).run.run s₁
    cases answer <;> rfl

/-- The load is in no other place of a report. -/
theorem around_load (s : σ) (ticks : Ticks) (load : Float32) :
    ((around source interval).run s).1 ticks 0 =
      { ((around source interval).run s).1 ticks load with load := 0 } :=
  rfl

end ProcessorReport

namespace Layer

variable {layer : Layer (StateM σ)}

theorem blind_around (interval : Duration) :
    layer.Blind (fun _ => True) (ProcessorReport.around layer.processor interval) := by
  refine .bind (.bind (.ask .identity trivial) fun answer => ?_) fun _ =>
    .bind (.ask .logicalCount trivial) fun _ => .bind (.ask .loadAverage trivial) fun _ =>
    .bind (.ask .systemLoad trivial) fun _ => .pure _
  cases answer with
  | ok identity => exact .pure identity
  | error error => exact .pure Identity.unknown

section

variable (hSamples : layer.IgnoresSamples) (hProcessor : layer.IgnoresProcessor)

include hSamples in
theorem keeps_ticks : layer.Keeps IsElsewhere layer.processor.ticks.run :=
  fun s => (hSamples s).mono fun _ _ => trivial

include hSamples in
theorem keeps_loadOver (token : Token) (interval : Duration) :
    layer.Keeps IsElsewhere (layer.processor.loadOver (Token.steady token) interval).run := by
  refine .bindAnswer (keeps_ticks hSamples) fun before =>
    .bindAnswer (.lift (.pure token.cancelled)) fun cut => ?_
  cases cut with
  | true => exact .pure _
  | false => exact .bindAnswer (keeps_ticks hSamples) fun now => .pure _

include hProcessor in
theorem keeps_around (interval : Duration) :
    layer.Keeps IsElsewhere (ProcessorReport.around layer.processor interval) := by
  refine .bind (.bind (hProcessor .identity rfl) fun answer => ?_) fun _ =>
    .bind (hProcessor .logicalCount rfl) fun _ => .bind (hProcessor .loadAverage rfl) fun _ =>
    .bind (hProcessor .systemLoad rfl) fun _ => .pure _
  cases answer with
  | ok identity => exact .pure identity
  | error error => exact .pure Identity.unknown

include hSamples hProcessor in
/-- A reading of the processor matters to the other sections in nothing, however it ends. -/
theorem keeps_readProcessor (token : Token) (options : ReportOptions) :
    layer.Keeps IsElsewhere
      (layer.readSection (Token.steady token) options .processor).run := by
  show layer.Keeps IsElsewhere
    (ProcessorReport.read layer.processor (Token.steady token) options.interval).run
  rw [ProcessorReport.read_eq]
  exact .bindAnswer (keeps_ticks hSamples) fun _ => .bindAnswer (keeps_loadOver hSamples token _)
    fun _ => .bindAnswer (.lift (keeps_around hProcessor _)) fun _ => .pure _

end

/-- What two readings of a processor come to that begin in one state, the first with a wait and the
second with one that is cut short: one failure; reports that tell the load in the first only; or a
failure of the third sample, which only the first has taken, where the second reports no load. -/
inductive Spared (layer : Layer (StateM σ)) (s : σ) :
    Answer (Section.Report .processor) × σ → Answer (Section.Report .processor) × σ → Prop where
  | failure (error : HardwareError) (t : σ) : Spared layer s (.error error, t) (.error error, t)
  | report (report : ProcessorReport) {t u : σ} (alike : layer.Alike (fun _ => True) t u) :
      Spared layer s (.ok report, t) (.ok { report with load := 0 }, u)
  | third {error : HardwareError} (report : ProcessorReport) {t u : σ}
      (failed : layer.FailsThird s error) (unloaded : report.load = 0)
      (alike : layer.IgnoresProcessor → layer.Alike IsElsewhere t u) :
      Spared layer s (.error error, t) (.ok report, u)

/-- The two readings part at the wait, if they come that far. The first goes on from there with one
sample more than the second, and both then ask the same of the processor: so whether their reports
differ is decided by this sample alone. -/
theorem spared_readProcessor (h : layer.IgnoresSamples) (options : ReportOptions) (s : σ) :
    layer.Spared s
      ((layer.readSection (Token.steady {}) options .processor).run.run s)
      ((layer.readSection (Token.steady { cancelled := true }) options .processor).run.run s) := by
  show layer.Spared s
    ((ProcessorReport.read layer.processor (Token.steady {}) options.interval).run.run s)
    ((ProcessorReport.read layer.processor (Token.steady { cancelled := true })
      options.interval).run.run s)
  rw [ProcessorReport.run_read, ProcessorReport.run_read]
  cases hFirst : layer.processor.ticks.run.run s with
  | mk first s₁ =>
  cases first with
  | error error => exact .failure error s₁
  | ok ticks =>
    dsimp only
    rw [ProcessorSource.run_loadOver, ProcessorSource.run_loadOver]
    cases hSecond : layer.processor.ticks.run.run s₁ with
    | mk second s₂ =>
    cases second with
    | error error => exact .failure error s₂
    | ok before =>
      dsimp only
      -- the first reading takes a third sample here, the second goes on from the same state
      rw [Token.run_sleep_steady, Token.run_sleep_steady]
      have hAlike := h s₂
      obtain ⟨hAround, hAfter⟩ := blind_around options.interval _ _ hAlike
      cases hThird : layer.processor.ticks.run.run s₂ with
      | mk third s₃ =>
      rw [hThird] at hAlike hAround hAfter
      dsimp only at hAlike hAround hAfter ⊢
      rw [hThird]
      cases third with
      | error error =>
        have hFails : layer.FailsThird s error :=
          ⟨⟨ticks, by rw [ProcessorSource.sampleAfter, hFirst]⟩,
            ⟨before, by rw [ProcessorSource.sampleAfter, ProcessorSource.sampleAfter, hFirst,
              hSecond]⟩,
            by rw [ProcessorSource.sampleAfter, ProcessorSource.sampleAfter,
              ProcessorSource.sampleAfter, hFirst, hSecond, hThird]⟩
        -- only the reading that was cut short goes on with questions
        refine .third _ hFails rfl fun hIgnores => ?_
        have hSample : layer.Alike IsElsewhere s₂ s₃ := hAlike.mono fun _ _ => trivial
        exact hSample.symm.trans (keeps_around hIgnores options.interval s₂)
      | ok now =>
        rw [hAround, ProcessorReport.around_load _ _ s₃ ticks (now.loadSince before)]
        exact .report _ hAfter.symm

/-! ## The other sections -/

/-- The state of a layer after sections were read. -/
def reached (layer : Layer (StateM σ)) (interrupt : Interrupt (StateM σ)) (options : ReportOptions)
    (sections : List Section) (s : σ) : σ :=
  sections.foldl (fun s area => layer.after interrupt options area s) s

/-- Only the processor section looks at the token. -/
theorem readSection_interrupt {m : Type → Type} [Monad m] (layer : Layer m)
    (interrupt other : Interrupt m) (options : ReportOptions) {area : Section}
    (hArea : area ≠ .processor) :
    layer.readSection interrupt options area = layer.readSection other options area := by
  cases area with
  | processor => exact absurd rfl hArea
  | _ => rfl

theorem answer_elsewhere (interrupt interruptOther : Interrupt (StateM σ)) (options : ReportOptions)
    {among : Question → Prop} (hAmong : ∀ question, IsElsewhere question → among question)
    {area : Section} (hArea : area ≠ .processor) {s t : σ} (hAlike : layer.Alike among s t) :
    layer.answer interrupt options area s = layer.answer interruptOther options area t ∧
      layer.Alike among (layer.after interrupt options area s)
        (layer.after interruptOther options area t) := by
  unfold answer after
  rw [readSection_interrupt layer interrupt interruptOther options hArea]
  exact blind_readSection interruptOther options hArea
    (fun question h => hAmong question (h.trans_ne hArea)) s t hAlike

end Layer

namespace Snapshot

/-- Two snapshots are the same but for the processor section: what it reports, and its errors. -/
structure SameElsewhere (snapshot other : Snapshot) : Prop where
  platform : snapshot.platform = other.platform
  report? : ∀ area, area ≠ .processor → snapshot.report? area = other.report? area
  errors : (snapshot.errors.filter fun entry => entry.area ≠ .processor) =
    other.errors.filter fun entry => entry.area ≠ .processor

namespace SameElsewhere

variable {snapshot other : Snapshot}

theorem refl (snapshot : Snapshot) : SameElsewhere snapshot snapshot :=
  ⟨rfl, fun _ _ => rfl, rfl⟩

theorem record (h : SameElsewhere snapshot other) (area : Section) (answer : Answer area.Report) :
    SameElsewhere (snapshot.record area (place area) answer)
      (other.record area (place area) answer) where
  platform := by rw [platform_record, platform_record, h.platform]
  report? := by
    intro next hNext
    by_cases hSelf : next = area
    · subst hSelf
      rw [report?_record_self, report?_record_self]
    · rw [report?_record_of_ne hSelf, report?_record_of_ne hSelf, h.report? next hNext]
  errors := by
    rw [errors_record, errors_record, List.filter_append, List.filter_append, h.errors]

/-- The processor section may be recorded with two answers. -/
theorem record_processor (h : SameElsewhere snapshot other)
    (answer answerOther : Answer (Section.Report .processor)) :
    SameElsewhere (snapshot.record .processor (place .processor) answer)
      (other.record .processor (place .processor) answerOther) where
  platform := by rw [platform_record, platform_record, h.platform]
  report? := by
    intro next hNext
    rw [report?_record_of_ne hNext, report?_record_of_ne hNext, h.report? next hNext]
  errors := by
    have hNone : ∀ answer : Answer (Section.Report .processor),
        ((failure? .processor answer).toList.filter fun entry => entry.area ≠ .processor) = [] := by
      intro answer
      cases answer <;> rfl
    rw [errors_record, errors_record, List.filter_append, List.filter_append, hNone, hNone,
      h.errors]

end SameElsewhere

variable {layer : Layer (StateM σ)} {interrupt interruptOther : Interrupt (StateM σ)}
  {options : ReportOptions}

theorem run_foldlM_visit_append (first rest : List Section) (snapshot : Snapshot) (s : σ) :
    ((first ++ rest).foldlM (visit layer interrupt options) snapshot).run s =
      (rest.foldlM (visit layer interrupt options)
        ((first.foldlM (visit layer interrupt options) snapshot).run s).1).run
        (layer.reached interrupt options first s) := by
  induction first generalizing snapshot s with
  | nil => rfl
  | cons area first ih =>
    rw [List.cons_append, run_foldlM_visit_cons, run_foldlM_visit_cons, ih]
    rfl

/-- Visits leave the report of a section alone that is not among those visited. -/
theorem report?_foldlM_visit_of_notMem {area : Section} {sections : List Section}
    (hArea : area ∉ sections) (snapshot : Snapshot) (s : σ) :
    ((sections.foldlM (visit layer interrupt options) snapshot).run s).1.report? area =
      snapshot.report? area := by
  induction sections generalizing snapshot s with
  | nil => rfl
  | cons next rest ih =>
    rw [run_foldlM_visit_cons, ih (List.not_mem_of_not_mem_cons hArea)]
    exact report?_record_of_ne (List.ne_of_not_mem_cons hArea) _ snapshot

theorem platform_foldlM_visit (sections : List Section) (snapshot : Snapshot) (s : σ) :
    ((sections.foldlM (visit layer interrupt options) snapshot).run s).1.platform =
      snapshot.platform := by
  induction sections generalizing snapshot s with
  | nil => rfl
  | cons area rest ih => rw [run_foldlM_visit_cons, ih, platform_record]

/-- Visits add to the errors, at their end, and for the sections visited only. -/
theorem errors_foldlM_visit_append (layer : Layer (StateM σ)) (interrupt : Interrupt (StateM σ))
    (options : ReportOptions) (sections : List Section) (snapshot : Snapshot) (s : σ) :
    ∃ later, ((sections.foldlM (visit layer interrupt options) snapshot).run s).1.errors =
        snapshot.errors ++ later ∧ ∀ entry ∈ later, entry.area ∈ sections := by
  induction sections generalizing snapshot s with
  | nil => exact ⟨[], (List.append_nil _).symm, fun _ h => absurd h List.not_mem_nil⟩
  | cons area rest ih =>
    obtain ⟨later, hErrors, hLater⟩ := ih
      (snapshot.record area (place area) (layer.answer interrupt options area s))
      (layer.after interrupt options area s)
    refine ⟨(failure? area (layer.answer interrupt options area s)).toList ++ later, ?_, ?_⟩
    · rw [run_foldlM_visit_cons, hErrors, errors_record, List.append_assoc]
    · intro entry hEntry
      rcases List.mem_append.mp hEntry with hHere | hThere
      · rw [area_of_mem_failure? hHere]
        exact List.mem_cons_self
      · exact List.mem_cons_of_mem area (hLater entry hThere)

section

variable {sections : List Section} (hSections : .processor ∉ sections)
include hSections

theorem foldlM_visit_interrupt (snapshot : Snapshot) :
    sections.foldlM (visit layer interrupt options) snapshot =
      sections.foldlM (visit layer interruptOther options) snapshot :=
  foldlM_visit_congr
    (fun _ hArea => layer.readSection_interrupt _ _ options fun h => hSections (h ▸ hArea)) snapshot

/-- Sections other than that of the processor add the same to snapshots from states that are alike
to their questions. -/
theorem foldlM_visit_elsewhere {among : Question → Prop}
    (hAmong : ∀ question, Layer.IsElsewhere question → among question) {snapshot other : Snapshot}
    (h : SameElsewhere snapshot other) {s t : σ} (hAlike : layer.Alike among s t) :
    SameElsewhere ((sections.foldlM (visit layer interrupt options) snapshot).run s).1
        ((sections.foldlM (visit layer interruptOther options) other).run t).1 ∧
      ∃ later,
        ((sections.foldlM (visit layer interrupt options) snapshot).run s).1.errors =
          snapshot.errors ++ later ∧
        ((sections.foldlM (visit layer interruptOther options) other).run t).1.errors =
          other.errors ++ later := by
  induction sections generalizing snapshot other s t with
  | nil => exact ⟨h, [], (List.append_nil _).symm, (List.append_nil _).symm⟩
  | cons area rest ih =>
    -- the states stay alike, so this section and those after it answer alike
    obtain ⟨hAnswer, hAfter⟩ := Layer.answer_elsewhere interrupt interruptOther options hAmong
      (List.ne_of_not_mem_cons hSections).symm hAlike
    rw [run_foldlM_visit_cons, run_foldlM_visit_cons, ← hAnswer]
    obtain ⟨hSame, later, hErrors, hErrorsOther⟩ := ih (List.not_mem_of_not_mem_cons hSections)
      (h.record area _) hAfter
    refine ⟨hSame, (failure? area (layer.answer interrupt options area s)).toList ++ later, ?_, ?_⟩
    · rw [hErrors, errors_record, List.append_assoc]
    · rw [hErrorsOther, errors_record, List.append_assoc]

end

/-- Sections are the same but for that of the processor, also if it is read many times. -/
theorem foldlM_visit_repeated (hSamples : layer.IgnoresSamples)
    (hProcessor : layer.IgnoresProcessor) (token tokenOther : Token) (sections : List Section)
    {snapshot other : Snapshot} (h : SameElsewhere snapshot other) {s t : σ}
    (hAlike : layer.Alike Layer.IsElsewhere s t) :
    SameElsewhere ((sections.foldlM (visit layer (Token.steady token) options) snapshot).run s).1
      ((sections.foldlM (visit layer (Token.steady tokenOther) options) other).run t).1 := by
  induction sections generalizing snapshot other s t with
  | nil => exact h
  | cons area rest ih =>
    rw [run_foldlM_visit_cons, run_foldlM_visit_cons]
    by_cases hArea : area = .processor
    · -- whatever the two readings come to, the states stay alike to the questions elsewhere
      subst hArea
      have hKeeps := fun token => Layer.keeps_readProcessor hSamples hProcessor token options
      exact ih (h.record_processor _ _)
        ((hKeeps token s).symm.trans (hAlike.trans (hKeeps tokenOther t)))
    · obtain ⟨hAnswer, hAfter⟩ := Layer.answer_elsewhere (Token.steady token)
        (Token.steady tokenOther) options (fun _ h => h) hArea hAlike
      rw [← hAnswer]
      exact ih (h.record area _) hAfter

/-! ## Collecting -/

theorem reached_interrupt {sections : List Section} (hSections : .processor ∉ sections) (s : σ) :
    layer.reached interrupt options sections s =
      layer.reached interruptOther options sections s := by
  refine List.foldl_ext _ _ s fun s area hArea => ?_
  unfold Layer.after
  rw [layer.readSection_interrupt interrupt interruptOther options fun h => hSections (h ▸ hArea)]

/-- A snapshot with one processor section is made of what is before it, its answer and the rest. -/
theorem collected_eq {first rest : List Section}
    (hSections : options.sections = first ++ .processor :: rest) (s : σ) :
    collected layer interrupt options s =
      ((rest.foldlM (visit layer interrupt options)
        ((collected layer interrupt { options with sections := first } s).record .processor
          (place .processor) (layer.answer interrupt options .processor
            (layer.reached interrupt options first s)))).run
        (layer.after interrupt options .processor
          (layer.reached interrupt options first s))).1 := by
  rw [collected, collect, hSections, run_foldlM_visit_append, run_foldlM_visit_cons]
  rfl

/-- Two snapshots part at the processor section: the first has an error for it and no report, the
second a report with no load. What was there before is in both, and only sections visited after it
add more, the same to both on a layer that does not mind whether the processor was asked. -/
structure PartedByThird (layer : Layer (StateM σ)) (before : Snapshot) (rest : List Section)
    (error : HardwareError) (whole cut : Snapshot) : Prop where
  unread : whole.processor = none
  unloaded : ∃ report, cut.processor = some report ∧ report.load = 0
  platform : whole.platform = before.platform ∧ cut.platform = before.platform
  report? : ∀ area, area ≠ .processor → area ∉ rest →
    whole.report? area = before.report? area ∧ cut.report? area = before.report? area
  errors : ∃ later laterCut, whole.errors = before.errors ++ ⟨.processor, error⟩ :: later ∧
    cut.errors = before.errors ++ laterCut ∧
    (∀ entry ∈ later ++ laterCut, entry.area ∈ rest) ∧
    (layer.IgnoresProcessor → SameElsewhere whole cut ∧ later = laterCut)

/-- What two snapshots come to, the first with a wait and the second with one that is cut short, if
the processor is read at most once, and then from a state: they are the same and have no report of
it; the reports tell the load in the first only; or the third sample from that state has failed,
which only the first has taken. -/
inductive Spared (layer : Layer (StateM σ)) (s : σ) (before : Snapshot) (rest : List Section) :
    Snapshot → Snapshot → Prop where
  | nothing {snapshot : Snapshot} (unread : snapshot.processor = none) :
      Spared layer s before rest snapshot snapshot
  | load {whole cut : Snapshot} (report : ProcessorReport)
      (sampled : whole.processor = some report)
      (spared : cut.processor = some { report with load := 0 }) (same : SameElsewhere whole cut)
      (errors : whole.errors = cut.errors) : Spared layer s before rest whole cut
  | third {whole cut : Snapshot} (error : HardwareError) (failed : layer.FailsThird s error)
      (parted : PartedByThird layer before rest error whole cut) :
      Spared layer s before rest whole cut

namespace Spared

variable {whole cut before : Snapshot} {rest : List Section} {s : σ}
  (h : Spared layer s before rest whole cut)
include h

theorem processor_eq (report : ProcessorReport) (hReport : whole.processor = some report) :
    cut.processor = some { report with load := 0 } := by
  cases h with
  | nothing hUnread => exact absurd (hUnread.symm.trans hReport) (by simp)
  | load read hSampled hSpared =>
    obtain rfl := Option.some.inj (hSampled.symm.trans hReport)
    exact hSpared
  | third error hFailed hParted => exact absurd (hParted.unread.symm.trans hReport) (by simp)

theorem same_or_third :
    (SameElsewhere whole cut ∧ whole.errors = cut.errors) ∨
      ∃ error, layer.FailsThird s error ∧ PartedByThird layer before rest error whole cut := by
  cases h with
  | nothing => exact .inl ⟨.refl whole, rfl⟩
  | load report hSampled hSpared hSame hErrors => exact .inl ⟨hSame, hErrors⟩
  | third error hFailed hParted => exact .inr ⟨error, hFailed, hParted⟩

end Spared

section

variable {rest : List Section}

theorem processor_foldlM_visit_record (hRest : .processor ∉ rest) (snapshot : Snapshot)
    (answer : Answer (Section.Report .processor)) (s : σ) :
    ((rest.foldlM (visit layer interrupt options)
      (snapshot.record .processor (place .processor) answer)).run s).1.processor =
        answer.toOption :=
  (report?_foldlM_visit_of_notMem hRest _ s).trans (report?_record_self .processor answer snapshot)

theorem report?_foldlM_visit_record {area : Section} (hArea : area ≠ .processor)
    (hMem : area ∉ rest) (snapshot : Snapshot) (answer : Answer (Section.Report .processor))
    (s : σ) :
    ((rest.foldlM (visit layer interrupt options)
      (snapshot.record .processor (place .processor) answer)).run s).1.report? area =
        snapshot.report? area :=
  (report?_foldlM_visit_of_notMem hMem _ s).trans (report?_record_of_ne hArea answer snapshot)

/-- Snapshots part at a third sample that fails, whatever the states are that it leaves the layer
in: only what is said under `Layer.IgnoresProcessor` is about them. -/
theorem parted_foldlM_visit (hRest : .processor ∉ rest) (before : Snapshot)
    (error : HardwareError) (report : ProcessorReport) (hUnloaded : report.load = 0) {t u : σ}
    (hAlike : layer.IgnoresProcessor → layer.Alike Layer.IsElsewhere t u) :
    PartedByThird layer before rest error
      ((rest.foldlM (visit layer interrupt options)
        (before.record .processor (place .processor) (.error error))).run t).1
      ((rest.foldlM (visit layer interruptOther options)
        (before.record .processor (place .processor) (.ok report))).run u).1 where
  unread := processor_foldlM_visit_record hRest before _ t
  unloaded := ⟨report, processor_foldlM_visit_record hRest before _ u, hUnloaded⟩
  platform := by
    rw [platform_foldlM_visit, platform_foldlM_visit, platform_record, platform_record]
    exact ⟨rfl, rfl⟩
  report? := fun _ hArea hMem => ⟨report?_foldlM_visit_record hArea hMem before _ t,
    report?_foldlM_visit_record hArea hMem before _ u⟩
  errors := by
    -- what the sections after it add need not be the same
    obtain ⟨later, hWhole, hLater⟩ := errors_foldlM_visit_append layer interrupt options rest
      (before.record .processor (place .processor) (.error error)) t
    obtain ⟨laterCut, hCut, hLaterCut⟩ := errors_foldlM_visit_append layer interruptOther options
      rest (before.record .processor (place .processor) (.ok report)) u
    refine ⟨later, laterCut, ?_, ?_, ?_, fun hProcessor => ?_⟩
    · rw [hWhole, errors_record, List.append_assoc]
      rfl
    · rw [hCut, errors_record]
      exact congrArg (· ++ laterCut) (List.append_nil _)
    · intro entry hEntry
      exact (List.mem_append.mp hEntry).elim (hLater entry) (hLaterCut entry)
    · obtain ⟨hElsewhere, same, hWholeSame, hCutSame⟩ :=
        foldlM_visit_elsewhere hRest (fun _ h => h)
          ((SameElsewhere.refl before).record_processor (.error error) (.ok report))
          (hAlike hProcessor)
      -- the errors that were added are told by what was there before and what came of it
      refine ⟨hElsewhere, ?_⟩
      rw [List.append_cancel_left (hWhole.symm.trans hWholeSame),
        List.append_cancel_left (hCut.symm.trans hCutSame)]

end

/-- The two snapshots are the same up to the processor section, which is read from one state by
both; so what they come to is what the two readings come to, and then the rest of the sections. -/
theorem spared_collected (hSamples : layer.IgnoresSamples) {first rest : List Section}
    (hSections : options.sections = first ++ .processor :: rest) (hFirst : .processor ∉ first)
    (hRest : .processor ∉ rest) (s : σ) :
    Spared layer (layer.reached (Token.steady {}) options first s)
      (collected layer (Token.steady {}) { options with sections := first } s) rest
      (collected layer (Token.steady {}) options s)
      (collected layer (Token.steady { cancelled := true }) options s) := by
  have hBefore : collected layer (Token.steady { cancelled := true })
      { options with sections := first } s =
      collected layer (Token.steady {}) { options with sections := first } s := by
    rw [collected, collect, foldlM_visit_interrupt hFirst]
    rfl
  have hReached : layer.reached (Token.steady { cancelled := true }) options first s =
      layer.reached (Token.steady {}) options first s := reached_interrupt hFirst s
  rw [collected_eq hSections, collected_eq hSections, hBefore, hReached]
  -- the two snapshots go the same way up to here
  generalize collected layer (Token.steady {}) { options with sections := first } s = before
  generalize layer.reached (Token.steady {}) options first s = r
  have hRead := layer.spared_readProcessor hSamples options r
  unfold Layer.answer Layer.after
  generalize (layer.readSection (Token.steady {}) options .processor).run.run r = x at hRead ⊢
  generalize (layer.readSection (Token.steady { cancelled := true }) options
    .processor).run.run r = y at hRead ⊢
  cases hRead with
  | failure error t =>
    have hRestSame : ∀ snapshot, rest.foldlM (visit layer (Token.steady {}) options) snapshot =
        rest.foldlM (visit layer (Token.steady { cancelled := true }) options) snapshot :=
      foldlM_visit_interrupt hRest
    rw [hRestSame]
    exact .nothing (processor_foldlM_visit_record hRest before _ t)
  | @report report t u hAlike =>
    -- nothing can tell the states apart any more
    obtain ⟨hElsewhere, later, hWhole, hCut⟩ := foldlM_visit_elsewhere hRest
      (fun _ _ => trivial) ((SameElsewhere.refl before).record_processor _ _) hAlike
    refine .load report (processor_foldlM_visit_record hRest before _ t)
      (processor_foldlM_visit_record hRest before _ u) hElsewhere ?_
    rw [hWhole, hCut]
    rfl
  | @third error report t u hFailed hUnloaded hAlike =>
    exact .third error hFailed (parted_foldlM_visit hRest before error report hUnloaded hAlike)

/-- **Cancelling costs a snapshot nothing but the load**, on a layer whose replies do not depend on
how many samples were taken:

* if the processor section is listed once at most and has a report, then it has the same report with
  no load in the snapshot that was cancelled;
* everything else is the same, unless the first two samples are there and the third fails. The
  snapshot that was not cancelled then has an error for it in place of the report. Before this
  error, both have the reports and the errors of a snapshot of the sections listed before; after
  it, only sections listed later have errors. Those errors and everything else are the same if the
  replies for other sections do not depend on whether the processor was asked anything;
* on a layer of which this can be said, everything but the processor section is the same however
  often that is listed.
-/
theorem cancelled_costs_load (layer : Layer (StateM σ)) (hSamples : layer.IgnoresSamples)
    (options : ReportOptions) (s : σ) :
    let whole := collected layer (Token.steady {}) options s
    let cut := collected layer (Token.steady { cancelled := true }) options s
    (options.sections.count .processor ≤ 1 →
      (∀ report, whole.processor = some report →
        cut.processor = some { report with load := 0 }) ∧
      ((SameElsewhere whole cut ∧ whole.errors = cut.errors) ∨
        ∃ first rest error, options.sections = first ++ .processor :: rest ∧
          layer.FailsThird (layer.reached (Token.steady {}) options first s) error ∧
          PartedByThird layer
            (collected layer (Token.steady {}) { options with sections := first } s) rest error
            whole cut)) ∧
    (layer.IgnoresProcessor → SameElsewhere whole cut) := by
  intro whole cut
  refine ⟨fun hOnce => ?once, fun hProcessor => ?repeated⟩
  case repeated =>
    exact foldlM_visit_repeated hSamples hProcessor {} { cancelled := true } options.sections
      (.refl _) (.refl s)
  case once =>
    by_cases hListed : Section.processor ∈ options.sections
    · obtain ⟨first, rest, hSections⟩ := List.append_of_mem hListed
      -- listed once, the section is in neither part around it
      have hOther : first.count .processor = 0 ∧ rest.count .processor = 0 := by
        rw [hSections, List.count_append, List.count_cons_self] at hOnce
        omega
      have hSpared := spared_collected hSamples hSections (List.count_eq_zero.mp hOther.1)
        (List.count_eq_zero.mp hOther.2) s
      refine ⟨hSpared.processor_eq, hSpared.same_or_third.imp_right ?_⟩
      rintro ⟨error, hFailed, hParted⟩
      exact ⟨first, rest, error, hSections, hFailed, hParted⟩
    · -- no section looks at the token
      have hSame : whole = cut := by
        show (options.sections.foldlM (visit layer (Token.steady {}) options) _ s).1 = _
        rw [foldlM_visit_interrupt hListed]
        rfl
      have hNone : whole.processor = none := report?_foldlM_visit_of_notMem hListed _ s
      refine ⟨fun report hReport => ?_, .inl ⟨hSame ▸ .refl _, hSame ▸ rfl⟩⟩
      rw [hNone] at hReport
      exact absurd hReport (by simp)

/-! ## Layers that fail the third sample -/

/-- The answers to samples of which the first two succeed. -/
def twoSamples (n : Nat) : Answer Ticks :=
  if n < 2 then .ok ⟨UInt64.ofNat n, 0, 0, 0⟩ else .error (.malformedData "/proc/stat" "cut off")

/-- A machine that gives two samples and no more. -/
def brittleLayer : Layer (StateM Nat) :=
  { unsteadyLayer with
    processor := { unsteadyLayer.processor with
      ticks := ExceptT.mk (modifyGet fun n => (twoSamples n, n + 1)) } }

/-- A machine that gives two samples and no more, and whose memory is larger once it was asked for
the load. -/
def growingLayer : Layer (StateM (Nat × Bool)) :=
  { unsteadyLayer.embed fun x => pure (x.run 0).1 with
    processor := {
      identity := pure .unknown
      ticks := ExceptT.mk (modifyGet fun (n, asked) => (twoSamples n, (n + 1, asked)))
      logicalCount := pure 1
      loadAverage := pure none
      systemLoad := modifyGet fun (n, _) => (0, (n, true)) }
    memory := {
      total := ExceptT.mk (modifyGet fun (n, asked) => (.ok (if asked then 2 else 1), (n, asked)))
      available := pure 0
      swapTotal := pure 0
      swapUsed := pure 0 } }

theorem ignoresSamples_unsteadyLayer : unsteadyLayer.IgnoresSamples :=
  fun _ => Layer.alike_of_constant (fun question => by cases question <;> exact ⟨_, rfl⟩) _ _

theorem alike_brittleLayer {among : Question → Prop} (s t : Nat) :
    brittleLayer.Alike among s t :=
  Layer.alike_of_constant (fun question => by cases question <;> exact ⟨_, rfl⟩) s t

theorem ignoresSamples_growingLayer : growingLayer.IgnoresSamples := by
  have hCount : ∀ (questions : List Question) (m n : Nat) (asked : Bool),
      growingLayer.replies questions (m, asked) = growingLayer.replies questions (n, asked) := by
    intro questions
    induction questions with
    | nil => exact fun _ _ _ => rfl
    | cons question rest ih =>
      intro m n asked
      rw [Layer.replies, Layer.replies]
      cases question <;> exact congrArg (List.cons _) (ih m n _)
  rintro ⟨n, asked⟩ questions -
  exact hCount questions n (n + 1) asked

/-- One machine whose samples never fail, and two of which the third does: what is asked besides
matters to the replies of the last only. -/
theorem cancelled_costs_load_brittleLayer :
    let options : ReportOptions := { sections := [.processor, .memory] }
    (∃ report, (collected unsteadyLayer (Token.steady {}) options 0).processor = some report ∧
      (collected unsteadyLayer (Token.steady { cancelled := true }) options 0).processor =
        some { report with load := 0 }) ∧
    (brittleLayer.IgnoresSamples ∧ brittleLayer.IgnoresProcessor ∧
      SameElsewhere (collected brittleLayer (Token.steady {}) options 0)
        (collected brittleLayer (Token.steady { cancelled := true }) options 0) ∧
      ∃ before error after,
        (collected brittleLayer (Token.steady {}) options 0).errors =
          before ++ ⟨.processor, error⟩ :: after ∧
        (collected brittleLayer (Token.steady { cancelled := true }) options 0).errors =
          before ++ after) ∧
    growingLayer.IgnoresSamples ∧ ∃ before error,
      PartedByThird growingLayer before [.memory] error
        (collected growingLayer (Token.steady {}) options (0, false))
        (collected growingLayer (Token.steady { cancelled := true }) options (0, false)) := by
  intro options
  have hSamples : brittleLayer.IgnoresSamples := fun s => alike_brittleLayer s _
  have hProcessor : brittleLayer.IgnoresProcessor := fun _ _ s => alike_brittleLayer s _
  have hOnce : options.sections.count .processor ≤ 1 := by decide
  refine ⟨⟨_, rfl, (cancelled_costs_load unsteadyLayer ignoresSamples_unsteadyLayer options 0).1
    hOnce |>.1 _ rfl⟩, ⟨hSamples, hProcessor, ?brittle⟩, ignoresSamples_growingLayer, ?growing⟩
  case brittle =>
    obtain ⟨hCosts, hElsewhere⟩ := cancelled_costs_load brittleLayer hSamples options 0
    refine ⟨hElsewhere hProcessor, ?_⟩
    rcases (hCosts hOnce).2 with ⟨-, hErrors⟩ | ⟨_, _, error, -, -, hParted⟩
    · exact absurd (congrArg List.length hErrors) (by decide)
    · obtain ⟨later, laterCut, hWhole, hCut, -, hSame⟩ := hParted.errors
      obtain rfl := (hSame hProcessor).2
      exact ⟨_, error, later, hWhole, hCut⟩
  case growing =>
    obtain ⟨hCosts, -⟩ :=
      cancelled_costs_load growingLayer ignoresSamples_growingLayer options (0, false)
    rcases (hCosts hOnce).2 with ⟨-, hErrors⟩ | ⟨first, rest, error, hSections, -, hParted⟩
    · exact absurd (congrArg List.length hErrors) (by decide)
    · -- the processor is listed first, so the rest is the memory
      have hRest : rest = [.memory] := by
        cases first with
        | nil => exact (List.cons.inj hSections).2.symm
        | cons area first =>
          have hTail : [Section.memory] = first ++ .processor :: rest := (List.cons.inj hSections).2
          cases first <;> simp at hTail
      exact ⟨_, error, hRest ▸ hParted⟩

/-- Cancelling costs more if the processor is read twice, as the second reading then begins one
sample earlier; and if what it is asked besides its counters changes other replies, as it is not
asked after a sample that fails. -/
theorem cancelled_costs_more :
    (unsteadyLayer.IgnoresSamples ∧
      let options : ReportOptions := { sections := [.processor, .processor] }
      ∃ report, (collected unsteadyLayer (Token.steady {}) options 0).processor = some report ∧
        (collected unsteadyLayer (Token.steady { cancelled := true }) options 0).processor ≠
          some { report with load := 0 }) ∧
    (growingLayer.IgnoresSamples ∧
      let options : ReportOptions := { sections := [.processor, .memory] }
      (collected growingLayer (Token.steady {}) options (0, false)).memory ≠
        (collected growingLayer (Token.steady { cancelled := true }) options
          (0, false)).memory) := by
  refine ⟨⟨ignoresSamples_unsteadyLayer, _, rfl, fun h => ?_⟩, ignoresSamples_growingLayer, ?_⟩
  · have hTicks := congrArg (Option.map ProcessorReport.ticks) h
    exact absurd hTicks (by decide)
  · decide

end Snapshot

end HardwareReport
