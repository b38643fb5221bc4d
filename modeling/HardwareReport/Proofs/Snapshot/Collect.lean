import HardwareReport.Proofs.Snapshot.Sections
import Mathlib.Data.List.Nodup

/-!
# Snapshot — sections do not disturb each other

A snapshot is filled section by section, and every section may fail in its own way. If the answers
of a layer for one section do not depend on what was asked for others, the sections listed are
parted into those that are there and those that are noted as errors, whatever their order.

The argument is one induction on the list of sections (`report?_foldlM_visit`,
`errors_foldlM_visit`): a visit changes nothing but its own section and the end of the errors, and
by independence the sections still to come answer as they would have answered at the start.

Main result: `Snapshot.collect_partitions`.
-/

namespace HardwareReport

variable {σ : Type}

/-! ## Answers -/

namespace Layer

/-- The answer for a section that a layer gives in a state. -/
def answer (layer : Layer (StateM σ)) (interrupt : Interrupt (StateM σ)) (options : ReportOptions)
    (area : Section) (s : σ) : Answer area.Report :=
  ((layer.readSection interrupt options area).run.run s).1

/-- The state in which the question for a section leaves a layer. -/
def after (layer : Layer (StateM σ)) (interrupt : Interrupt (StateM σ)) (options : ReportOptions)
    (area : Section) (s : σ) : σ :=
  ((layer.readSection interrupt options area).run.run s).2

/-- The answer for a section is the same whether another section is asked for before or not. -/
def SectionsIndependent (layer : Layer (StateM σ)) (interrupt : Interrupt (StateM σ))
    (options : ReportOptions) : Prop :=
  ∀ area other, area ≠ other → ∀ s,
    layer.answer interrupt options area (layer.after interrupt options other s) =
      layer.answer interrupt options area s

end Layer

namespace Snapshot

variable {layer : Layer (StateM σ)} {interrupt : Interrupt (StateM σ)} {options : ReportOptions}

/-! ## One visit -/

theorem run_visit (snapshot : Snapshot) (area : Section) (s : σ) :
    (visit layer interrupt options snapshot area).run s =
      (snapshot.record area (place area) (layer.answer interrupt options area s),
        layer.after interrupt options area s) := by
  rw [visit_eq]
  rfl

theorem run_foldlM_visit_cons (snapshot : Snapshot) (area : Section) (rest : List Section)
    (s : σ) :
    ((area :: rest).foldlM (visit layer interrupt options) snapshot).run s =
      (rest.foldlM (visit layer interrupt options)
        (snapshot.record area (place area) (layer.answer interrupt options area s))).run
        (layer.after interrupt options area s) := by
  rw [List.foldlM_cons]
  show (rest.foldlM (visit layer interrupt options)
    ((visit layer interrupt options snapshot area).run s).1).run
      ((visit layer interrupt options snapshot area).run s).2 = _
  rw [run_visit]

/-! ## Many visits -/

/-- The sections visited have the reports of their answers, the others keep what was there. -/
theorem report?_foldlM_visit (hIndependent : layer.SectionsIndependent interrupt options)
    {sections : List Section} (hNodup : sections.Nodup) (snapshot : Snapshot) (s : σ)
    (area : Section) :
    ((sections.foldlM (visit layer interrupt options) snapshot).run s).1.report? area =
      if area ∈ sections then (layer.answer interrupt options area s).toOption
      else snapshot.report? area := by
  induction sections generalizing snapshot s with
  | nil => rw [if_neg List.not_mem_nil]; rfl
  | cons first rest ih =>
    obtain ⟨hFirst, hRest⟩ := List.nodup_cons.mp hNodup
    rw [run_foldlM_visit_cons, ih hRest]
    by_cases hArea : area ∈ rest
    · -- still to come: the visit before it makes no difference
      have hne : area ≠ first := fun h => hFirst (h ▸ hArea)
      rw [if_pos hArea, if_pos (List.mem_cons_of_mem first hArea), hIndependent area first hne]
    · rw [if_neg hArea]
      by_cases hSelf : area = first
      · subst hSelf
        rw [if_pos (List.mem_cons_self ..), report?_record_self]
      · -- not visited at all
        have hNot : area ∉ first :: rest := by
          rw [List.mem_cons, not_or]
          exact ⟨hSelf, hArea⟩
        rw [if_neg hNot, report?_record_of_ne hSelf]

/-- The errors of the sections visited follow those that were there, in the order of the visits. -/
theorem errors_foldlM_visit (hIndependent : layer.SectionsIndependent interrupt options)
    {sections : List Section} (hNodup : sections.Nodup) (snapshot : Snapshot) (s : σ) :
    ((sections.foldlM (visit layer interrupt options) snapshot).run s).1.errors =
      snapshot.errors ++
        sections.filterMap fun area => failure? area (layer.answer interrupt options area s) := by
  induction sections generalizing snapshot s with
  | nil => rw [List.filterMap_nil, List.append_nil]; rfl
  | cons first rest ih =>
    obtain ⟨hFirst, hRest⟩ := List.nodup_cons.mp hNodup
    -- no later section is the first one, whose visit leaves their answers as they are
    have hLater : (rest.filterMap fun area =>
          failure? area (layer.answer interrupt options area
            (layer.after interrupt options first s))) =
        rest.filterMap fun area => failure? area (layer.answer interrupt options area s) := by
      apply List.filterMap_congr
      intro area hArea
      have hne : area ≠ first := fun h => hFirst (h ▸ hArea)
      rw [hIndependent area first hne]
    rw [run_foldlM_visit_cons, ih hRest, errors_record, hLater, List.append_assoc]
    congr 1
    rw [List.filterMap_cons]
    cases failure? first (layer.answer interrupt options first s) <;> rfl

/-- Only the sections visited are asked for: layers that answer these alike are told apart by
nothing, whatever their other sections do, and so are tokens. -/
theorem foldlM_visit_congr {m : Type → Type} [Monad m] {layer other : Layer m}
    {interrupt interruptOther : Interrupt m} {sections : List Section}
    (hSame : ∀ area ∈ sections,
      other.readSection interruptOther options area = layer.readSection interrupt options area)
    (snapshot : Snapshot) :
    sections.foldlM (visit other interruptOther options) snapshot =
      sections.foldlM (visit layer interrupt options) snapshot := by
  induction sections generalizing snapshot with
  | nil => rfl
  | cons area rest ih =>
    have hFirst := hSame area (List.mem_cons_self ..)
    have hRest := fun a ha => hSame a (List.mem_cons_of_mem area ha)
    rw [List.foldlM_cons, List.foldlM_cons, visit_eq, visit_eq, hFirst]
    congr 1
    funext next
    exact ih hRest next

/-! ## Collecting -/

theorem report?_empty (platform : Platform) (area : Section) :
    ({ platform } : Snapshot).report? area = none := by
  cases area <;> rfl

/-- The snapshot that a layer gives in a state. -/
def collected (layer : Layer (StateM σ)) (interrupt : Interrupt (StateM σ))
    (options : ReportOptions) (s : σ) : Snapshot :=
  ((collect layer interrupt options).run s).1

/-- A section listed has the report of its answer, and no other section has one. -/
theorem report?_collected (hIndependent : layer.SectionsIndependent interrupt options)
    (hNodup : options.sections.Nodup) (s : σ) (area : Section) :
    (collected layer interrupt options s).report? area =
      if area ∈ options.sections then (layer.answer interrupt options area s).toOption
      else none := by
  rw [collected, collect, report?_foldlM_visit hIndependent hNodup, report?_empty]

/-- The errors are those of the sections listed, in their order. -/
theorem errors_collected (hIndependent : layer.SectionsIndependent interrupt options)
    (hNodup : options.sections.Nodup) (s : σ) :
    (collected layer interrupt options s).errors =
      options.sections.filterMap fun area =>
        failure? area (layer.answer interrupt options area s) := by
  rw [collected, collect, errors_foldlM_visit hIndependent hNodup, List.nil_append]

/-- A section is asked for in the same way whichever others are listed. -/
theorem readSection_sections {m : Type → Type} [Monad m] (layer : Layer m)
    (interrupt : Interrupt m) (options : ReportOptions) (sections : List Section)
    (area : Section) :
    layer.readSection interrupt { options with sections } area =
      layer.readSection interrupt options area := by
  cases area <;> rfl

/-- The report of a section is the same in whichever list it stands. -/
theorem report?_collected_of_mem (hIndependent : layer.SectionsIndependent interrupt options)
    {sections : List Section} (hNodup : sections.Nodup) {area : Section} (hArea : area ∈ sections)
    (s : σ) :
    (collected layer interrupt { options with sections } s).report? area =
      (layer.answer interrupt options area s).toOption := by
  have hOther : layer.SectionsIndependent interrupt { options with sections } := by
    intro a b hne s
    unfold Layer.answer Layer.after
    rw [readSection_sections, readSection_sections]
    exact hIndependent a b hne s
  rw [report?_collected hOther hNodup, if_pos hArea, Layer.answer, readSection_sections]
  rfl

/-- There are errors exactly if a section has failed. -/
theorem filterMap_failure?_ne_nil_iff {sections : List Section}
    (answer : (area : Section) → Answer area.Report) :
    (sections.filterMap fun area => failure? area (answer area)) ≠ [] ↔
      ∃ area ∈ sections, ∃ error, answer area = .error error := by
  constructor
  · intro h
    obtain ⟨entry, hEntry⟩ := List.exists_mem_of_ne_nil _ h
    obtain ⟨area, hArea, hFailure⟩ := List.mem_filterMap.mp hEntry
    cases h : answer area with
    | ok report =>
      rw [h, failure?] at hFailure
      exact absurd hFailure (by simp)
    | error error => exact ⟨area, hArea, error, h⟩
  · rintro ⟨area, hArea, error, h⟩
    have hFailure : failure? area (answer area) = some ⟨area, error⟩ := by rw [h, failure?]
    exact List.ne_nil_of_mem (List.mem_filterMap.mpr ⟨area, hArea, hFailure⟩)

/-- **Sections are parted into reports and errors.** For a layer whose answers for one section do
not depend on what was asked for others, and sections listed once each:

* a section has a report exactly if it is listed and its answer is one, and then it is that answer;
* the report is the one of a snapshot of that section alone, and of any other list with the section
  in it, in whatever order and whichever others fail;
* the errors are those of the sections whose answer is one, in the order of the list;
* sections not listed are not asked for: the computation is the same on any layer that has other
  questions in their place;
* in data, a section has a key exactly if it has a report, and there is a key for errors exactly if
  a section listed has failed. -/
theorem collect_partitions (layer : Layer (StateM σ)) (interrupt : Interrupt (StateM σ))
    (options : ReportOptions) (hIndependent : layer.SectionsIndependent interrupt options)
    (hNodup : options.sections.Nodup) (s : σ) :
    (∀ area report, (collected layer interrupt options s).report? area = some report ↔
      area ∈ options.sections ∧ layer.answer interrupt options area s = .ok report) ∧
    (∀ area ∈ options.sections, (collected layer interrupt options s).report? area =
      (collected layer interrupt { options with sections := [area] } s).report? area) ∧
    (∀ sections : List Section, sections.Nodup → ∀ area ∈ sections, area ∈ options.sections →
      (collected layer interrupt options s).report? area =
        (collected layer interrupt { options with sections } s).report? area) ∧
    (collected layer interrupt options s).errors =
      options.sections.filterMap (fun area =>
        failure? area (layer.answer interrupt options area s)) ∧
    (∀ other : Layer (StateM σ), other.platform = layer.platform →
      (∀ area ∈ options.sections,
        other.readSection interrupt options area = layer.readSection interrupt options area) →
      collect other interrupt options = collect layer interrupt options) ∧
    (∀ area : Section, area.name ∈ (collected layer interrupt options s).toJson.keys ↔
      ((collected layer interrupt options s).report? area).isSome) ∧
    ("errors" ∈ (collected layer interrupt options s).toJson.keys ↔
      ∃ area ∈ options.sections, ∃ error,
        layer.answer interrupt options area s = .error error) := by
  have hReport := report?_collected hIndependent hNodup s
  have hErrors := errors_collected hIndependent hNodup s
  -- by independence, a section listed is answered as it would be at the start
  have hListed : ∀ area ∈ options.sections, (collected layer interrupt options s).report? area =
      (layer.answer interrupt options area s).toOption := by
    intro area hArea
    rw [hReport area, if_pos hArea]
  refine ⟨?_, ?_, ?_, hErrors, ?_, name_mem_keys_toJson _, ?_⟩
  · intro area report
    rw [hReport area]
    by_cases hArea : area ∈ options.sections
    · rw [if_pos hArea]
      cases layer.answer interrupt options area s with
      | ok value => simp [Except.toOption, hArea]
      | error error => simp [Except.toOption]
    · rw [if_neg hArea]
      simp [hArea]
  · intro area hArea
    have hAlone := report?_collected_of_mem hIndependent (List.nodup_singleton area)
      (List.mem_singleton_self area) s
    rw [hListed area hArea, hAlone]
  · intro sections hOther area hIn hArea
    rw [hListed area hArea, report?_collected_of_mem hIndependent hOther hIn]
  · intro other hPlatform hSame
    rw [collect, collect, hPlatform]
    exact foldlM_visit_congr hSame _
  · rw [errors_mem_keys_toJson, hErrors]
    exact filterMap_failure?_ne_nil_iff fun area => layer.answer interrupt options area s

/-! ## An independent layer -/

/-- A machine whose memory cannot be read, and whose counters move on with every sample. -/
def unsteadyLayer : Layer (StateM Nat) where
  platform := .linux
  processor := {
    identity := pure .unknown
    ticks := ExceptT.mk (modifyGet fun n => (.ok ⟨UInt64.ofNat n, 0, 0, 0⟩, n + 1))
    logicalCount := pure 1
    loadAverage := pure none
    systemLoad := pure 0 }
  memory := {
    total := throw (.nativeQuery "memory" 5 "no memory")
    available := pure 0
    swapTotal := pure 0
    swapUsed := pure 0 }
  system := {
    manufacturer := pure none
    model := pure none
    serialNumber := pure none
    firmware := pure {} }
  sensors := { temperatures := pure [], fanSpeeds := pure [] }
  disks := pure []
  displays := pure []
  network := pure []
  sound := pure []
  power := pure []
  usb _ := pure []

/-- Only the processor section moves the counters on, and only its answer shows them. -/
theorem sectionsIndependent_unsteadyLayer (interrupt : Interrupt (StateM Nat))
    (options : ReportOptions) :
    unsteadyLayer.SectionsIndependent interrupt options := by
  intro area other hne s
  cases area with
  | processor =>
    cases other with
    | processor => exact absurd rfl hne
    | _ => rfl
  | _ => rfl

/-- A machine whose memory cannot be read. -/
theorem collect_partitions_unsteadyLayer :
    let options : ReportOptions := { sections := [.memory, .processor, .usb] }
    let snapshot := collected unsteadyLayer (Token.steady {}) options 0
    unsteadyLayer.SectionsIndependent (Token.steady {}) options ∧ options.sections.Nodup ∧
      snapshot.report? .usb = some [] ∧
      snapshot.errors = [⟨.memory, .nativeQuery "memory" 5 "no memory"⟩] := by
  intro options snapshot
  have hIndependent := sectionsIndependent_unsteadyLayer (Token.steady {}) options
  have hNodup : options.sections.Nodup := by decide
  obtain ⟨hReport, -, -, hErrors, -⟩ :=
    collect_partitions unsteadyLayer (Token.steady {}) options hIndependent hNodup 0
  refine ⟨hIndependent, hNodup, (hReport .usb []).mpr ⟨by decide, rfl⟩, ?_⟩
  rw [hErrors]
  rfl

end Snapshot

end HardwareReport
