import HardwareReport.Options.Merge
import HardwareReport.Proofs.Answer

/-!
# Options — arguments come before the configuration

What the configuration says on a setting that the arguments give is not looked at, whatever it is.
So two configurations that differ only there cannot be told apart, and an error is blamed on the
source that the faulty setting was taken from.

Each setting is followed by itself, once as a comparison of two configurations and once as the
errors that it can end in; a merge takes the settings one after the other.

* `Config.settings` — what a configuration sets;
* `Arguments.Agree` — two configurations that say the same where the arguments say nothing;
* `ReportOptions.Blamed` — what the error of a merge tells about arguments and configuration.

Main result: `ReportOptions.merge_precedence`.
-/

namespace HardwareReport

/-- What a configuration sets. -/
def Config.settings (config : Config) : FlagSettings :=
  config.flags.getD {}

/-- Two configurations agree on every setting that the arguments leave open. -/
structure Arguments.Agree (arguments : Arguments) (config other : Config) : Prop where
  interval : arguments.interval = none → config.settings.interval = other.settings.interval
  sections : arguments.sections = [] → config.settings.sections = other.settings.sections
  usbTree : arguments.usbTree = false → config.settings.usbTree = other.settings.usbTree
  json : arguments.json = false → config.settings.json = other.settings.json

namespace ReportOptions

variable {arguments : Arguments} {config : Config} {error : OptionError}

/-! ## The interval -/

section Interval

variable {argument : Option String} {setting other : Option IntervalSetting}
  {source : SettingSource} {text : String} {interval : Duration}

/-- An interval of the arguments hides the one of the configuration. -/
theorem chooseInterval_congr (h : argument = none → setting = other) :
    chooseInterval argument setting = chooseInterval argument other := by
  cases argument with
  | none => rw [h rfl]
  | some text => rfl

/-- An interval from a source is at fault because it cannot be read or because it is too short. -/
def IntervalFault (source : SettingSource) (error : OptionError) : Prop :=
  error = .intervalInvalid source ∨ error = .intervalTooShort source

theorem IntervalFault.kind_eq (h : IntervalFault source error) :
    error.kind = OptionError.kindOfSource source := by
  rcases h with rfl | rfl <;> rfl

theorem intervalFault_of_checkInterval (h : checkInterval source interval = .error error) :
    IntervalFault source error := by
  unfold checkInterval at h
  split at h
  · exact .inr (Except.error.inj h).symm
  · exact absurd h (by simp)

theorem intervalFault_of_readInterval (h : readInterval source text = .error error) :
    IntervalFault source error := by
  unfold readInterval at h
  split at h
  · exact intervalFault_of_checkInterval h
  · exact .inl (Except.error.inj h).symm

/-- The interval is at fault in the source that it is taken from. -/
theorem intervalFault_of_chooseInterval (h : chooseInterval argument setting = .error error) :
    IntervalFault (if argument.isSome then .arguments else .config) error := by
  cases argument with
  | some text => exact intervalFault_of_readInterval h
  | none =>
    match setting, h with
    | none, h => exact absurd h (by simp [chooseInterval])
    | some (.text text), h => exact intervalFault_of_readInterval h
    | some (.milliseconds count), h => exact intervalFault_of_checkInterval h

end Interval

/-! ## The sections -/

section Sections

variable {asked : List Section} {setting other : Option (List String)} {names : List String}

/-- Sections of the arguments hide those of the configuration. -/
theorem chooseSections_congr (h : asked = [] → setting = other) :
    chooseSections asked setting = chooseSections asked other := by
  cases asked with
  | nil => rw [h rfl]
  | cons first rest => rfl

/-- Sections are at fault because there are none or because there is no such section. -/
def SectionFault (error : OptionError) : Prop :=
  error = .noSections ∨ ∃ name, error = .unknownSection name

theorem SectionFault.kind_eq (h : SectionFault error) : error.kind = .config := by
  rcases h with rfl | ⟨name, rfl⟩ <;> rfl

theorem sectionFault_of_mapM (h : names.mapM settingSection = .error error) :
    SectionFault error := by
  obtain ⟨name, -, hName⟩ := Answer.exists_of_mapM_eq_error h
  unfold settingSection at hName
  split at hName
  · exact absurd hName (by simp)
  · exact .inr ⟨name, (Except.error.inj hName).symm⟩

/-- Sections are at fault only in the configuration, and only if the arguments ask for none. -/
theorem of_chooseSections_eq_error (h : chooseSections asked setting = .error error) :
    asked = [] ∧ SectionFault error := by
  match asked, setting, h with
  | _ :: _, _, h => exact absurd h (by simp [chooseSections])
  | [], none, h => exact absurd h (by simp [chooseSections])
  | [], some [], h => exact ⟨rfl, .inl (Except.error.inj h).symm⟩
  | [], some (name :: rest), h =>
    -- naming a section twice is no fault
    have hNames : (name :: rest).mapM settingSection = .error error := Answer.map_eq_error_iff.mp h
    exact ⟨rfl, sectionFault_of_mapM hNames⟩

end Sections

/-! ## All options -/

/-- A flag of the arguments hides the one of the configuration. -/
theorem chooseFlag_congr {argument : Bool} {setting other : Option Bool}
    (h : argument = false → setting = other) :
    chooseFlag argument setting = chooseFlag argument other := by
  cases argument with
  | false => rw [h rfl]
  | true => rfl

/-- A merge takes the interval first, then the sections, and then the flags, which cannot be at
fault. -/
theorem merge_eq (arguments : Arguments) (config : Config) :
    merge arguments config =
      match chooseInterval arguments.interval config.settings.interval with
      | .error error => .error error
      | .ok interval =>
        match chooseSections arguments.sections config.settings.sections with
        | .error error => .error error
        | .ok sections => .ok {
            interval
            sections
            usbTree := chooseFlag arguments.usbTree config.settings.usbTree
            json := chooseFlag arguments.json config.settings.json
            watch := arguments.watch } := by
  -- once both choices are made nothing is left to fail
  unfold merge
  change (chooseInterval arguments.interval config.settings.interval >>= fun interval =>
    chooseSections arguments.sections config.settings.sections >>= fun sections => _) = _
  cases chooseInterval arguments.interval config.settings.interval with
  | error error => rfl
  | ok interval =>
    cases chooseSections arguments.sections config.settings.sections with
    | error error => rfl
    | ok sections => rfl

/-- Configurations that agree where the arguments say nothing lead to the same options or to the
same error. -/
theorem merge_congr {other : Config} (h : arguments.Agree config other) :
    merge arguments config = merge arguments other := by
  rw [merge_eq, merge_eq, chooseInterval_congr h.interval, chooseSections_congr h.sections,
    chooseFlag_congr h.usbTree, chooseFlag_congr h.json]

/-- A merge fails with the fault of the interval, or with that of the sections if the interval has
none. -/
theorem merge_eq_error_cases (h : merge arguments config = .error error) :
    chooseInterval arguments.interval config.settings.interval = .error error ∨
      (∃ interval, chooseInterval arguments.interval config.settings.interval = .ok interval) ∧
        chooseSections arguments.sections config.settings.sections = .error error := by
  rw [merge_eq] at h
  cases hInterval : chooseInterval arguments.interval config.settings.interval with
  | error fault =>
    rw [hInterval] at h
    exact .inl (congrArg Except.error (Except.error.inj h))
  | ok interval =>
    rw [hInterval] at h
    cases hSections : chooseSections arguments.sections config.settings.sections with
    | error fault =>
      rw [hSections] at h
      exact .inr ⟨⟨interval, rfl⟩, congrArg Except.error (Except.error.inj h)⟩
    | ok sections =>
      rw [hSections] at h
      exact absurd h (by simp)

/-- Without a configuration nothing but an interval of the arguments can be at fault. -/
theorem exists_merge_default
    (h : ∀ text, arguments.interval = some text → ∃ interval,
      readInterval .arguments text = .ok interval) :
    ∃ options, merge arguments {} = .ok options := by
  have hInterval : ∃ interval, chooseInterval arguments.interval none = .ok interval := by
    cases hText : arguments.interval with
    | none => exact ⟨_, rfl⟩
    | some text => exact h text hText
  have hSections : ∃ sections, chooseSections arguments.sections none = .ok sections := by
    cases arguments.sections with
    | nil => exact ⟨_, rfl⟩
    | cons first rest => exact ⟨_, rfl⟩
  obtain ⟨interval, hInterval⟩ := hInterval
  obtain ⟨sections, hSections⟩ := hSections
  have hNone : (({} : Config).settings.interval = none) ∧ ({} : Config).settings.sections = none :=
    ⟨rfl, rfl⟩
  rw [merge_eq, hNone.1, hNone.2, hInterval, hSections]
  exact ⟨_, rfl⟩

/-- What the error of a merge tells. -/
structure Blamed (arguments : Arguments) (error : OptionError) : Prop where
  /-- An error in the arguments is there whatever the configuration is. -/
  argument : error.kind = .argument → ∀ other, merge arguments other = .error error
  /-- An error in the configuration is not there without one. -/
  config : error.kind = .config → ∃ options, merge arguments {} = .ok options
  /-- The settings themselves are at fault, and not how they were come by. -/
  settings : error.kind ≠ .other
  /-- The interval of the configuration is at fault only if the arguments give none. -/
  interval : IntervalFault .config error → arguments.interval = none
  /-- The sections of the configuration are at fault only if the arguments ask for none. -/
  sections : SectionFault error → arguments.sections = []

/-- An error is blamed on the right source if an interval of the arguments is at fault. -/
theorem Blamed.of_argument {text : String} (hText : arguments.interval = some text)
    (h : readInterval .arguments text = .error error) : Blamed arguments error := by
  have hKind : error.kind = .argument := (intervalFault_of_readInterval h).kind_eq
  exact {
    argument := fun _ other => by
      have hChoose : chooseInterval (some text) other.settings.interval = .error error := h
      rw [merge_eq, hText, hChoose]
    config := fun hConfig => absurd (hKind.symm.trans hConfig) (by decide)
    settings := by rw [hKind]; decide
    interval := fun hFault => absurd (hKind.symm.trans hFault.kind_eq) (by decide)
    sections := fun hFault => absurd (hKind.symm.trans hFault.kind_eq) (by decide) }

/-- And so it is if the configuration is at fault, but no interval of the arguments. -/
theorem Blamed.of_config (hKind : error.kind = .config)
    (hRead : ∀ text, arguments.interval = some text → ∃ interval,
      readInterval .arguments text = .ok interval)
    (hInterval : IntervalFault .config error → arguments.interval = none)
    (hSections : SectionFault error → arguments.sections = []) : Blamed arguments error where
  argument h := absurd (hKind.symm.trans h) (by decide)
  config _ := exists_merge_default hRead
  settings := by rw [hKind]; decide
  interval := hInterval
  sections := hSections

/-- The error of a merge is blamed on the right source. -/
theorem blamed_of_merge (h : merge arguments config = .error error) : Blamed arguments error := by
  rcases merge_eq_error_cases h with hInterval | ⟨⟨interval, hInterval⟩, hSections⟩
  · cases hText : arguments.interval with
    | some text =>
      rw [hText] at hInterval
      exact .of_argument hText hInterval
    | none =>
      -- without an argument the interval is that of the configuration
      rw [hText] at hInterval
      have hFault : IntervalFault .config error := intervalFault_of_chooseInterval hInterval
      refine .of_config hFault.kind_eq ?_ (fun _ => hText) ?_
      · intro text hSome
        exact absurd (hText.symm.trans hSome) (by simp)
      · -- an error about the interval is none about the sections
        rintro (rfl | ⟨name, rfl⟩)
        · exact absurd hFault (by simp [IntervalFault])
        · exact absurd hFault (by simp [IntervalFault])
  · -- the interval has been chosen by then, so one of the arguments can be read
    obtain ⟨hAsked, hFault⟩ := of_chooseSections_eq_error hSections
    refine .of_config hFault.kind_eq ?_ ?_ (fun _ => hAsked)
    · intro text hText
      rw [hText] at hInterval
      exact ⟨interval, hInterval⟩
    · rintro (rfl | rfl)
      · exact absurd hFault (by simp [SectionFault])
      · exact absurd hFault (by simp [SectionFault])

/-- **Main.** What the arguments say comes before what the configuration says. Configurations that
agree where the arguments say nothing cannot be told apart, and every error is blamed on the source
that it comes from, so that a setting of the configuration is never reported that an argument
overrides. -/
theorem merge_precedence (arguments : Arguments) (config : Config) :
    (∀ other, arguments.Agree config other → merge arguments config = merge arguments other) ∧
      ∀ error, merge arguments config = .error error → Blamed arguments error :=
  ⟨fun _ => merge_congr, fun _ => blamed_of_merge⟩

/-- An argument before a setting that could not be read, and an empty list of sections that is to
blame. -/
theorem merge_precedence_overridden :
    (Arguments.Agree { interval := some "2s" } { flags := some { interval := some (.text "soon") } }
        {} ∧
      merge { interval := some "2s" } { flags := some { interval := some (.text "soon") } } =
        merge { interval := some "2s" } {}) ∧
    merge {} { flags := some { sections := some [] } } = .error .noSections ∧
      Blamed {} .noSections := by
  have hAgree : Arguments.Agree { interval := some "2s" }
      { flags := some { interval := some (.text "soon") } } {} :=
    ⟨fun hNone => absurd hNone (by simp), fun _ => rfl, fun _ => rfl, fun _ => rfl⟩
  have hError : merge {} { flags := some { sections := some [] } } = .error .noSections := rfl
  exact ⟨⟨hAgree, (merge_precedence _ _).1 _ hAgree⟩, hError, (merge_precedence _ _).2 _ hError⟩

end ReportOptions

end HardwareReport
