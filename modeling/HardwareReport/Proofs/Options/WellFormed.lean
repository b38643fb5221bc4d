import HardwareReport.Proofs.Options.Precedence
import Mathlib.Data.List.Induction
import Mathlib.Data.List.Nodup

/-!
# Options — well-formed options

Whoever collects a report relies on options that are sane: an interval that is not too short, and
sections that are listed once each, and at least one. A merge gives nothing else. Where it takes the
sections from, each section is listed where it is first mentioned, and nothing that is mentioned is
lost: a name that the configuration lists and that is no section's fails the merge.

* `ReportOptions.Mentions` — the sections that arguments and configuration come to, with all
  repetitions;
* `ReportOptions.WellFormed` — what holds of options for sections that are mentioned;
* `ReportOptions.firstOccurrences_concat` — one more mention, from which all that is said of
  `firstOccurrences` follows.

Main result: `ReportOptions.merge_wellFormed`.
-/

namespace HardwareReport

/-! ## Names of sections -/

/-- A name is that of a section but for the case of ASCII letters. -/
def Section.IsNamed (name : String) (s : Section) : Prop :=
  Text.sameAsciiCaseless name.toList s.name.toList = true

instance (name : String) (s : Section) : Decidable (Section.IsNamed name s) :=
  inferInstanceAs (Decidable (Text.sameAsciiCaseless name.toList s.name.toList = true))

theorem Section.lowerAscii_name (s : Section) :
    Text.lowerAscii s.name.toList = s.name.toList := by
  cases s <;> decide

theorem Section.ofName?_eq_some_iff {name : String} {s : Section} :
    ofName? name = some s ↔ s.name = name := by
  constructor
  · intro h
    have hFound := List.find?_some h
    exact beq_iff_eq.mp hFound
  · rintro rfl
    exact ofName?_name s

/-- The section that is found for a name in any case is the one that it is the name of. -/
theorem Section.ofNameAnyCase?_eq_some_iff {name : String} {s : Section} :
    ofNameAnyCase? name = some s ↔ IsNamed name s := by
  rw [ofNameAnyCase?, ofName?_eq_some_iff, IsNamed, Text.sameAsciiCaseless, beq_iff_eq,
    lowerAscii_name, ← String.toList_inj, String.toList_ofList]
  exact eq_comm

namespace ReportOptions

/-! ## First mentions -/

section FirstOccurrences

variable {mentioned : List Section} {s : Section}

/-- A section that is mentioned last is put at the end if it was not mentioned before. -/
theorem firstOccurrences_concat (mentioned : List Section) (s : Section) :
    firstOccurrences (mentioned ++ [s]) =
      if s ∈ firstOccurrences mentioned then firstOccurrences mentioned
      else firstOccurrences mentioned ++ [s] := by
  rw [firstOccurrences, List.foldl_append, List.foldl_cons, List.foldl_nil, ← firstOccurrences]
  simp only [List.contains_iff_mem]

theorem mem_firstOccurrences_iff : s ∈ firstOccurrences mentioned ↔ s ∈ mentioned := by
  induction mentioned using List.reverseRecOn with
  | nil => exact Iff.rfl
  | append_singleton mentioned last ih =>
    rw [firstOccurrences_concat, List.mem_append, List.mem_singleton, ← ih]
    split_ifs with hLast
    · exact ⟨.inl, fun h => h.elim id fun hSame => hSame ▸ hLast⟩
    · rw [List.mem_append, List.mem_singleton]

theorem nodup_firstOccurrences (mentioned : List Section) :
    (firstOccurrences mentioned).Nodup := by
  induction mentioned using List.reverseRecOn with
  | nil => exact List.nodup_nil
  | append_singleton mentioned last ih =>
    rw [firstOccurrences_concat]
    split_ifs with hLast
    · exact ih
    · exact List.nodup_append.mpr ⟨ih, List.nodup_singleton last, fun a ha b hb hab =>
        hLast (List.mem_singleton.mp hb ▸ hab ▸ ha)⟩

/-- Sections are put in the order of their first mentions. -/
theorem pairwise_firstOccurrences (mentioned : List Section) :
    (firstOccurrences mentioned).Pairwise fun a b => mentioned.idxOf a < mentioned.idxOf b := by
  induction mentioned using List.reverseRecOn with
  | nil => exact .nil
  | append_singleton mentioned last ih =>
    -- a mention at the end does not move the first mentions of others
    have hEarlier : (firstOccurrences mentioned).Pairwise fun a b =>
        (mentioned ++ [last]).idxOf a < (mentioned ++ [last]).idxOf b := by
      refine ih.imp_of_mem fun ha hb hLess => ?_
      rw [List.idxOf_append_of_mem (mem_firstOccurrences_iff.mp ha),
        List.idxOf_append_of_mem (mem_firstOccurrences_iff.mp hb)]
      exact hLess
    rw [firstOccurrences_concat]
    split_ifs with hLast
    · exact hEarlier
    · refine List.pairwise_append.mpr ⟨hEarlier, List.pairwise_singleton _ _, fun a ha b hb => ?_⟩
      obtain rfl := List.mem_singleton.mp hb
      rw [mem_firstOccurrences_iff] at ha hLast
      rw [List.idxOf_append_of_mem ha, List.idxOf_append_of_notMem hLast]
      exact Nat.lt_add_right _ (List.idxOf_lt_length_of_mem ha)

theorem firstOccurrences_eq_nil_iff : firstOccurrences mentioned = [] ↔ mentioned = [] := by
  simp only [List.eq_nil_iff_forall_not_mem, mem_firstOccurrences_iff]

end FirstOccurrences

/-! ## The sections that are mentioned -/

/-- The sections that arguments and configuration come to: those of the arguments if there are any,
else those that the names of the configuration stand for, name by name, else all. -/
inductive Mentions (asked : List Section) : Option (List String) → List Section → Prop where
  | arguments {setting : Option (List String)} (hSome : asked ≠ []) : Mentions asked setting asked
  | config {names : List String} {sections : List Section} (hNone : asked = [])
      (hNamed : List.Forall₂ Section.IsNamed names sections) : Mentions asked (some names) sections
  | all (hNone : asked = []) : Mentions asked none Section.all

theorem settingSection_eq_ok_iff {name : String} {s : Section} :
    settingSection name = .ok s ↔ Section.IsNamed name s := by
  rw [← Section.ofNameAnyCase?_eq_some_iff, settingSection]
  cases Section.ofNameAnyCase? name with
  | some other => simp
  | none => simp

/-- Names are read one by one, and none is left out. -/
theorem mapM_settingSection_eq_ok_iff {names : List String} {sections : List Section} :
    names.mapM settingSection = .ok sections ↔ List.Forall₂ Section.IsNamed names sections := by
  induction names generalizing sections with
  | nil =>
    rw [List.mapM_nil, List.forall₂_nil_left_iff]
    exact ⟨fun h => (Except.ok.inj h).symm, fun h => h ▸ rfl⟩
  | cons name rest ih =>
    rw [List.mapM_cons, Answer.bind_eq_ok_iff, List.forall₂_cons_left_iff]
    refine exists_congr fun s => ?_
    rw [settingSection_eq_ok_iff, Answer.bind_eq_ok_iff]
    simp only [ih]
    -- the two say the same with the parts in another order
    constructor
    · rintro ⟨hName, others, hOthers, hAll⟩
      exact ⟨others, hName, hOthers, (Except.ok.inj hAll).symm⟩
    · rintro ⟨others, hName, hOthers, rfl⟩
      exact ⟨hName, others, hOthers, rfl⟩

/-- The sections to report are the first mentions, if anything is mentioned. -/
theorem chooseSections_eq_ok_iff {asked : List Section} {setting : Option (List String)}
    {chosen : List Section} : chooseSections asked setting = .ok chosen ↔
      ∃ mentioned, Mentions asked setting mentioned ∧ mentioned ≠ [] ∧
        chosen = firstOccurrences mentioned := by
  constructor
  · intro h
    match asked, setting, h with
    | first :: rest, _, h =>
      exact ⟨_, .arguments (by simp), by simp, (Except.ok.inj h).symm⟩
    | [], none, h =>
      -- in the list of all sections none stands twice
      exact ⟨Section.all, .all rfl, by decide, (Except.ok.inj h).symm.trans (by decide)⟩
    | [], some [], h => exact absurd h (by simp [chooseSections, settingSections, Except.map])
    | [], some (name :: rest), h =>
      obtain ⟨sections, hRead, rfl⟩ := Answer.map_eq_ok_iff.mp h
      have hNamed := mapM_settingSection_eq_ok_iff.mp hRead
      refine ⟨sections, .config rfl hNamed, ?_, rfl⟩
      rintro rfl
      exact absurd hNamed (by simp)
  · rintro ⟨mentioned, hMentions, hSome, rfl⟩
    cases hMentions with
    | arguments _ =>
      obtain ⟨first, rest, rfl⟩ := List.exists_cons_of_ne_nil hSome
      rfl
    | @config names _ hNone hNamed =>
      subst hNone
      obtain ⟨name, rest, rfl⟩ : ∃ name rest, names = name :: rest := by
        refine List.exists_cons_of_ne_nil ?_
        rintro rfl
        exact hSome (List.forall₂_nil_left_iff.mp hNamed)
      exact Answer.map_eq_ok_iff.mpr ⟨_, mapM_settingSection_eq_ok_iff.mpr hNamed, rfl⟩
    | all hNone =>
      subst hNone
      decide

/-! ## The interval -/

theorem shortest_le_of_checkInterval {source : SettingSource} {interval chosen : Duration}
    (h : checkInterval source interval = .ok chosen) :
    (Duration.ofMilliseconds 100).nanoseconds ≤ chosen.nanoseconds := by
  unfold checkInterval at h
  split_ifs at h with hShort
  obtain rfl := Except.ok.inj h
  exact Nat.le_of_not_lt hShort

theorem shortest_le_of_readInterval {source : SettingSource} {text : String} {chosen : Duration}
    (h : readInterval source text = .ok chosen) :
    (Duration.ofMilliseconds 100).nanoseconds ≤ chosen.nanoseconds := by
  unfold readInterval at h
  split at h
  · exact shortest_le_of_checkInterval h
  · exact absurd h (by simp)

/-- No interval is chosen that is too short. -/
theorem shortest_le_of_chooseInterval {argument : Option String}
    {setting : Option IntervalSetting} {chosen : Duration}
    (h : chooseInterval argument setting = .ok chosen) :
    (Duration.ofMilliseconds 100).nanoseconds ≤ chosen.nanoseconds := by
  match argument, setting, h with
  | some text, _, h => exact shortest_le_of_readInterval h
  | none, some (.text text), h => exact shortest_le_of_readInterval h
  | none, some (.milliseconds count), h => exact shortest_le_of_checkInterval h
  | none, none, h =>
    obtain rfl := Except.ok.inj h
    decide

/-! ## All options -/

/-- What holds of options for sections that are mentioned. -/
structure WellFormed (mentioned : List Section) (options : ReportOptions) : Prop where
  interval : (Duration.ofMilliseconds 100).nanoseconds ≤ options.interval.nanoseconds
  sections_ne_nil : options.sections ≠ []
  nodup : options.sections.Nodup
  mem_iff : ∀ s, s ∈ options.sections ↔ s ∈ mentioned
  /-- Sections are listed in the order of their first mentions. -/
  ordered : options.sections.Pairwise fun a b => mentioned.idxOf a < mentioned.idxOf b

variable {arguments : Arguments} {config : Config} {options : ReportOptions}

/-- A merge succeeds with the interval and the sections that it chooses. -/
theorem merge_eq_ok_iff : merge arguments config = .ok options ↔
    ∃ interval sections, chooseInterval arguments.interval config.settings.interval = .ok interval ∧
      chooseSections arguments.sections config.settings.sections = .ok sections ∧
      options = {
        interval
        sections
        usbTree := chooseFlag arguments.usbTree config.settings.usbTree
        json := chooseFlag arguments.json config.settings.json
        watch := arguments.watch } := by
  rw [merge_eq]
  cases chooseInterval arguments.interval config.settings.interval with
  | error error => simp
  | ok interval =>
    cases chooseSections arguments.sections config.settings.sections with
    | error error => simp
    | ok sections => simp [eq_comm]

/-- **A merge gives well-formed options or none**: none if there is no interval to choose or if no
section is mentioned, which is so if the configuration lists a name that is no section's. -/
theorem merge_wellFormed (arguments : Arguments) (config : Config) :
    (∀ options, merge arguments config = .ok options →
      ∃ mentioned, Mentions arguments.sections config.settings.sections mentioned ∧
        WellFormed mentioned options) ∧
    ((∃ options, merge arguments config = .ok options) ↔
      (∃ interval,
        chooseInterval arguments.interval config.settings.interval = .ok interval) ∧
      ∃ mentioned, Mentions arguments.sections config.settings.sections mentioned ∧
        mentioned ≠ []) := by
  constructor
  · intro options h
    obtain ⟨interval, sections, hInterval, hSections, rfl⟩ := merge_eq_ok_iff.mp h
    obtain ⟨mentioned, hMentions, hSome, rfl⟩ := chooseSections_eq_ok_iff.mp hSections
    exact ⟨mentioned, hMentions, {
      interval := shortest_le_of_chooseInterval hInterval
      sections_ne_nil := fun hNil => hSome (firstOccurrences_eq_nil_iff.mp hNil)
      nodup := nodup_firstOccurrences mentioned
      mem_iff := fun _ => mem_firstOccurrences_iff
      ordered := pairwise_firstOccurrences mentioned }⟩
  -- a merge succeeds exactly if both of its choices do
  · constructor
    · rintro ⟨options, h⟩
      obtain ⟨interval, sections, hInterval, hSections, -⟩ := merge_eq_ok_iff.mp h
      obtain ⟨mentioned, hMentions, hSome, -⟩ := chooseSections_eq_ok_iff.mp hSections
      exact ⟨⟨interval, hInterval⟩, mentioned, hMentions, hSome⟩
    · rintro ⟨⟨interval, hInterval⟩, mentioned, hMentions, hSome⟩
      have hSections := chooseSections_eq_ok_iff.mpr ⟨mentioned, hMentions, hSome, rfl⟩
      exact ⟨_, merge_eq_ok_iff.mpr ⟨interval, _, hInterval, hSections, rfl⟩⟩

/-- A configuration that names a section twice, in two spellings. -/
def spelledTwice : Config where
  flags := some { sections := some ["USB", "memory", "Usb"], interval := some (.milliseconds 250) }

/-- Settings that name a section twice, in two spellings. -/
theorem merge_wellFormed_spelledTwice :
    merge {} spelledTwice =
        .ok { interval := .ofMilliseconds 250, sections := [.usb, .memory] } ∧
      Mentions [] spelledTwice.settings.sections [.usb, .memory, .usb] ∧
      ∃ mentioned, Mentions [] spelledTwice.settings.sections mentioned ∧
        WellFormed mentioned
          { interval := .ofMilliseconds 250, sections := [.usb, .memory] } := by
  have hMerge : merge {} spelledTwice =
      .ok { interval := .ofMilliseconds 250, sections := [.usb, .memory] } := by decide
  have hNamed : List.Forall₂ Section.IsNamed ["USB", "memory", "Usb"] [.usb, .memory, .usb] :=
    .cons (by decide) (.cons (by decide) (.cons (by decide) .nil))
  exact ⟨hMerge, .config rfl hNamed, (merge_wellFormed {} spelledTwice).1 _ hMerge⟩

end ReportOptions

end HardwareReport
