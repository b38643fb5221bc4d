import HardwareReport.Proofs.Options.Precedence
import HardwareReport.Proofs.Text.Numeral
import HardwareReport.Proofs.Text.Trim

/-!
# Options — intervals in milliseconds

An interval in milliseconds can be asked for in several ways: as a number in the configuration, and
as text there or among the arguments, where the number may have a plus sign, zeros in front and
white space around it, or stand before the unit `ms`. All of these come to the same options, or to
the same complaint that the interval is too short, made of the source that asked for it.

* `Interval.Written` — the texts that stand for a number of milliseconds;
* `Config.withInterval` — a configuration with another setting for the interval;
* `ReportOptions.mergeWith` — what a merge comes to with a given interval.

Main result: `ReportOptions.merge_milliseconds`.
-/

namespace HardwareReport

open Text (isBlank IsNumeral)

/-! ## Reading -/

namespace Interval

/-- A text stands for a number of milliseconds: it is a numeral, or a number as it is printed and
the unit, if the nanoseconds that it comes to fit sixty-four bits. White space may stand around
it. -/
inductive Written : String → Nat → Prop where
  | number {text : String} {before numeral after : List Char} {n : Nat}
      (parts : text.toList = before ++ (numeral ++ after)) (front : ∀ c ∈ before, isBlank c = true)
      (back : ∀ c ∈ after, isBlank c = true) (isNumeral : IsNumeral numeral n) : Written text n
  | withUnit {text : String} {before after : List Char} {n : Nat}
      (parts : text.toList = before ++ ((Nat.toDigits 10 n ++ ['m', 's']) ++ after))
      (front : ∀ c ∈ before, isBlank c = true) (back : ∀ c ∈ after, isBlank c = true)
      (fits : n * 1000000 < UInt64.size) : Written text n

variable {n value : Nat} {total : Duration} {digits : List Char}

theorem fits?_eq_some (h : n < UInt64.size) : fits? n = some n := by
  rw [fits?, if_pos h]

/-- A text without white space is read as a whole. -/
theorem trimEnds_of_blank {s before body after : List Char} (parts : s = before ++ (body ++ after))
    (front : ∀ c ∈ before, isBlank c = true) (back : ∀ c ∈ after, isBlank c = true)
    (hBody : ∀ c ∈ body, isBlank c = false) : Text.trimEnds isBlank s = body :=
  Text.Trims.trimEnds_eq ⟨parts, front, back, fun c hc => hBody c (List.mem_of_mem_head? hc),
    fun c hc => hBody c (List.mem_of_mem_getLast? hc)⟩

/-- The digits of a number whose value fits are taken up one after the other. -/
theorem foldlM_step?_digits (hDigits : ∀ c ∈ digits, c.isDigit = true)
    (hFits : Nat.ofDigitChars 10 digits value < UInt64.size) :
    digits.foldlM step? (total, .whole value) =
      some (total, .whole (Nat.ofDigitChars 10 digits value)) := by
  induction digits generalizing value with
  | nil => rfl
  | cons c rest ih =>
    obtain ⟨hDigit, hRest⟩ := List.forall_mem_cons.mp hDigits
    rw [Nat.ofDigitChars_cons, Nat.mul_comm 10 value] at hFits ⊢
    -- the digits that follow only make the number greater
    have hSmall := Nat.lt_of_le_of_lt (Text.le_ofDigitChars rest _) hFits
    have hStep : step? (total, .whole value) c =
        some (total, .whole (value * 10 + (c.toNat - '0'.toNat))) := by
      simp only [step?, Text.digitValue?, hDigit, if_true, pushDigit?, fits?_eq_some hSmall,
        Option.map_some]
    rw [List.foldlM_cons, hStep]
    exact ih hRest hFits

/-- A number that fits is taken up as a whole. -/
theorem foldlM_step?_number (hSome : digits ≠ []) (hDigits : ∀ c ∈ digits, c.isDigit = true)
    (hFits : Nat.ofDigitChars 10 digits 0 < UInt64.size) :
    digits.foldlM step? (total, .between) =
      some (total, .whole (Nat.ofDigitChars 10 digits 0)) := by
  obtain ⟨c, rest, rfl⟩ := List.exists_cons_of_ne_nil hSome
  obtain ⟨hDigit, hRest⟩ := List.forall_mem_cons.mp hDigits
  rw [Nat.ofDigitChars_cons] at hFits ⊢
  have hStep : step? (total, .between) c =
      some (total, .whole (10 * 0 + (c.toNat - '0'.toNat))) := by
    simp only [step?, Text.digitValue?, hDigit, if_true, Nat.mul_zero, Nat.zero_add]
  rw [List.foldlM_cons, hStep]
  exact foldlM_step?_digits hRest hFits

/-- Nanoseconds that fit are taken apart and put together again. -/
theorem add?_zero {count : Nat} (h : count < UInt64.size) : add? ⟨0⟩ 0 count = some ⟨count⟩ := by
  have hSeconds : count / 1000000000 < UInt64.size := Nat.lt_of_le_of_lt (Nat.div_le_self _ _) h
  simp only [add?, Duration.subsecond, Duration.seconds, Nat.zero_mod, Nat.zero_div, Nat.zero_add,
    fits?_eq_some h, fits?_eq_some hSeconds, Option.bind_eq_bind, Option.bind_some, Option.pure_def,
    Nat.div_add_mod']

-- The unit is a variable in the next two: with its scale in place of it, comparing the sides takes
-- a product of a variable and that scale apart.
theorem addWhole?_eq {unit : TimeUnit} {whole : Nat} (hBelow : unit.belowSecond = true)
    (h : whole * unit.scale < UInt64.size) :
    addWhole? total unit whole = add? total 0 (whole * unit.scale) := by
  rw [addWhole?, fits?_eq_some h, Option.bind_eq_bind, Option.bind_some, if_pos hBelow]

theorem addAmount?_eq {unit : TimeUnit} {whole : Nat} {name : String}
    (hUnit : TimeUnit.ofName? name = some unit) :
    addAmount? total ⟨whole, none⟩ name = addWhole? total unit whole := by
  rw [addAmount?, hUnit, Option.bind_eq_bind, Option.bind_some]
  exact bind_pure _

/-- The unit of a thousandth of a second. -/
def millisecond : TimeUnit where
  names := ["millis", "msec", "ms"]
  scale := 1000000
  belowSecond := true
  fineScale := some 1000000
  fineInNanoseconds := true

theorem ofName?_ms : TimeUnit.ofName? "ms" = some millisecond := rfl

/-- An amount of milliseconds that fits is what it says. -/
theorem addAmount?_milliseconds (h : n * 1000000 < UInt64.size) :
    addAmount? ⟨0⟩ ⟨n, none⟩ "ms" = some (.ofMilliseconds n) := by
  rw [addAmount?_eq ofName?_ms, addWhole?_eq rfl h]
  exact add?_zero h

/-- A number that is printed is taken up as that number. -/
theorem foldlM_step?_toDigits (hFits : n < UInt64.size) :
    (Nat.toDigits 10 n).foldlM step? (total, .between) = some (total, .whole n) := by
  have hDigits : ∀ c ∈ Nat.toDigits 10 n, c.isDigit = true := fun c hc =>
    Nat.isDigit_of_mem_toDigits (by decide) (by decide) hc
  have hValue : Nat.ofDigitChars 10 (Nat.toDigits 10 n) 0 = n :=
    Nat.ofDigitChars_toDigits (by decide) (by decide)
  have hRead := @foldlM_step?_number total _ Nat.toDigits_ne_nil hDigits (hValue.symm ▸ hFits)
  rw [hValue] at hRead
  exact hRead

theorem foldlM_step?_ms : ['m', 's'].foldlM step? (total, .whole n) =
    some (total, .unit ⟨n, none⟩ ['m', 's']) :=
  rfl

theorem finish?_ms :
    finish? (total, .unit ⟨n, none⟩ ['m', 's']) = addAmount? total ⟨n, none⟩ "ms" :=
  rfl

/-- A number and the unit are read as that number of milliseconds. -/
theorem readUnits?_milliseconds (h : n * 1000000 < UInt64.size) :
    readUnits? (Nat.toDigits 10 n ++ ['m', 's']) = some (.ofMilliseconds n) := by
  have hFits : n < UInt64.size := Nat.lt_of_le_of_lt (Nat.le_mul_of_pos_right n (by decide)) h
  have hSome : (Nat.toDigits 10 n ++ ['m', 's']).isEmpty = false := by simp
  have hState : (Nat.toDigits 10 n ++ ['m', 's']).foldlM step? (⟨0⟩, .between) =
      some (⟨0⟩, .unit ⟨n, none⟩ ['m', 's']) := by
    rw [List.foldlM_append, foldlM_step?_toDigits hFits, Option.bind_eq_bind, Option.bind_some,
      foldlM_step?_ms]
  rw [readUnits?, hSome, hState, if_neg Bool.false_ne_true, Option.bind_eq_bind, Option.bind_some,
    finish?_ms]
  exact addAmount?_milliseconds h

/-- Nothing but a sign and digits is in a numeral. -/
theorem not_isNumeral_of_mem {s : List Char} (h : 'm' ∈ s) : ¬ IsNumeral s n := by
  intro hNumeral
  cases hNumeral with
  | plain _ hDigits => exact absurd (hDigits _ h) (by decide)
  | signed _ hDigits =>
    rcases List.mem_cons.mp h with hSign | hRest
    · exact absurd hSign (by decide)
    · exact absurd (hDigits _ hRest) (by decide)

/-- What stands for a number of milliseconds is read as that. -/
theorem read?_of_written {text : String} (h : Written text n) (hn : n < UInt64.size) :
    read? text = some (.ofMilliseconds n) := by
  cases h with
  | number parts front back isNumeral =>
    -- a plain number is read without units being looked for
    have hTrimmed := trimEnds_of_blank parts front back isNumeral.isBlank_eq_false
    have hNat : (UInt64.ofNat n).toNat = n := UInt64.toNat_ofNat_of_lt' hn
    rw [← hNat] at isNumeral
    have hRead := Text.readUInt64_eq_ok_iff.mpr isNumeral
    simp only [read?, hTrimmed, hRead, hNat]
  | @withUnit before after n parts front back fits =>
    have hBody : ∀ c ∈ Nat.toDigits 10 n ++ ['m', 's'], isBlank c = false := by
      intro c hc
      rcases List.mem_append.mp hc with hDigit | hUnit
      · exact (Text.isNumeral_toDigits n).isBlank_eq_false c hDigit
      · rcases List.mem_cons.mp hUnit with rfl | hLast
        · decide
        · rw [List.mem_singleton.mp hLast]
          decide
    have hTrimmed := trimEnds_of_blank parts front back hBody
    have hUnits := readUnits?_milliseconds fits
    simp only [read?, hTrimmed]
    cases hRead : Text.readUInt64 (Nat.toDigits 10 n ++ ['m', 's']) with
    | error fault => exact hUnits
    | ok value =>
      -- with its unit it is no plain number
      exact absurd (Text.readUInt64_eq_ok_iff.mp hRead) (not_isNumeral_of_mem (by simp))

end Interval

/-! ## Merging -/

/-- The configuration with another setting for the interval. -/
def Config.withInterval (setting : Option IntervalSetting) (config : Config) : Config where
  flags := some { config.settings with interval := setting }

theorem Config.settings_withInterval (setting : Option IntervalSetting) (config : Config) :
    (config.withInterval setting).settings = { config.settings with interval := setting } :=
  rfl

namespace ReportOptions

variable {arguments : Arguments} {config : Config} {n : Nat}

/-- What arguments and configuration come to with a given interval, whatever they say of it. -/
def mergeWith (interval : Duration) (arguments : Arguments) (config : Config) :
    Except OptionError ReportOptions :=
  (merge { arguments with interval := none } (config.withInterval none)).map fun options =>
    { options with interval }

/-- An interval that is chosen takes its place among the options. -/
theorem merge_of_interval {argument : Option String} {setting : Option IntervalSetting}
    {interval : Duration} (h : chooseInterval argument setting = .ok interval) :
    merge { arguments with interval := argument } (config.withInterval setting) =
      mergeWith interval arguments config := by
  have hDefault : chooseInterval none none = .ok (.ofMilliseconds 1000) := rfl
  rw [mergeWith, merge_eq, merge_eq, Config.settings_withInterval, Config.settings_withInterval, h,
    hDefault]
  -- bad sections are a fault on both sides
  cases chooseSections arguments.sections config.settings.sections with
  | error error => rfl
  | ok sections => rfl

/-- A fault of the interval is what a merge fails with. -/
theorem merge_of_fault {argument : Option String} {setting : Option IntervalSetting}
    {error : OptionError} (h : chooseInterval argument setting = .error error) :
    merge { arguments with interval := argument } (config.withInterval setting) = .error error := by
  rw [merge_eq, Config.settings_withInterval, h]

theorem checkInterval_ofMilliseconds (source : SettingSource) (n : Nat) :
    checkInterval source (.ofMilliseconds n) =
      if n < 100 then .error (.intervalTooShort source) else .ok (.ofMilliseconds n) := by
  have hShort : (Duration.ofMilliseconds n).nanoseconds < Interval.shortest.nanoseconds ↔
      n < 100 := by
    simp only [Interval.shortest, Duration.ofMilliseconds]
    omega
  simp only [checkInterval, hShort]

/-- An interval in milliseconds comes from a source. -/
inductive Asks (n : Nat) : Option String → Option IntervalSetting → SettingSource → Prop where
  | argument {text : String} (setting : Option IntervalSetting)
      (written : Interval.Written text n) : Asks n (some text) setting .arguments
  | text {text : String} (written : Interval.Written text n) :
      Asks n none (some (.text text)) .config
  | number : Asks n none (some (.milliseconds n)) .config

/-- However an interval in milliseconds is asked for, it is only its length that is looked at. -/
theorem chooseInterval_of_asks {argument : Option String} {setting : Option IntervalSetting}
    {source : SettingSource} (h : Asks n argument setting source) (hn : n < UInt64.size) :
    chooseInterval argument setting =
      if n < 100 then .error (.intervalTooShort source) else .ok (.ofMilliseconds n) := by
  rw [← checkInterval_ofMilliseconds]
  cases h with
  | argument setting written =>
    simp only [chooseInterval, readInterval, Interval.read?_of_written written hn]
  | text written =>
    simp only [chooseInterval, settingInterval, readInterval,
      Interval.read?_of_written written hn]
  | number => rfl

/-- **All ways to ask for an interval in milliseconds agree.** Whether a text among the arguments, a
text in the configuration or a number there stands for it, an interval that is long enough takes its
place among the options that the rest comes to, and one that is too short is a fault of the
source. -/
theorem merge_milliseconds {argument : Option String} {setting : Option IntervalSetting}
    {source : SettingSource} (hAsks : Asks n argument setting source) (hn : n < UInt64.size)
    (arguments : Arguments) (config : Config) :
    (100 ≤ n → merge { arguments with interval := argument } (config.withInterval setting) =
      mergeWith (.ofMilliseconds n) arguments config) ∧
    (n < 100 → merge { arguments with interval := argument } (config.withInterval setting) =
        .error (.intervalTooShort source) ∧
      (OptionError.intervalTooShort source).kind = OptionError.kindOfSource source) := by
  -- wherever it stands, the same interval or the same fault is chosen
  have hChoose := chooseInterval_of_asks hAsks hn
  constructor
  · intro hLong
    rw [if_neg (by omega)] at hChoose
    exact merge_of_interval hChoose
  · intro hShort
    rw [if_pos hShort] at hChoose
    exact ⟨merge_of_fault hChoose, rfl⟩

/-- A quarter of a second as a number and as a duration, and a number that is too short. -/
theorem merge_milliseconds_quarterSecond :
    Interval.Written " +0250\n" 250 ∧ Interval.Written "250ms" 250 ∧
      merge { interval := some " +0250\n", json := true }
          (Config.withInterval (some (.text "soon")) {}) =
        mergeWith (.ofMilliseconds 250) { json := true } {} ∧
      merge { json := true } (Config.withInterval (some (.text "250ms")) {}) =
        mergeWith (.ofMilliseconds 250) { json := true } {} ∧
      merge { json := true } (Config.withInterval (some (.milliseconds 99)) {}) =
        .error (.intervalTooShort .config) := by
  have hDigits : ∀ c ∈ ['0', '2', '5', '0'], c.isDigit = true := fun c hc =>
    List.all_eq_true.mp (by decide : ['0', '2', '5', '0'].all Char.isDigit = true) c hc
  have hNumeral : IsNumeral ['+', '0', '2', '5', '0'] 250 := .signed (by decide) hDigits
  -- the same span as a number with a sign, and with a unit
  have hNumber : Interval.Written " +0250\n" 250 :=
    .number (by decide : " +0250\n".toList = [' '] ++ (['+', '0', '2', '5', '0'] ++ ['\n']))
      (List.forall_mem_singleton.mpr (by decide)) (List.forall_mem_singleton.mpr (by decide))
      hNumeral
  have hUnit : Interval.Written "250ms" 250 :=
    .withUnit (by decide : "250ms".toList = [] ++ ((Nat.toDigits 10 250 ++ ['m', 's']) ++ []))
      (List.forall_mem_nil _) (List.forall_mem_nil _) (by decide)
  have hFits : 250 < UInt64.size := by decide
  refine ⟨hNumber, hUnit, ?_, ?_, ?_⟩
  · exact (merge_milliseconds (.argument (some (.text "soon")) hNumber) hFits { json := true }
      {}).1 (by decide)
  · exact (merge_milliseconds (.text hUnit) hFits { json := true } {}).1 (by decide)
  · exact ((merge_milliseconds .number (by decide : 99 < UInt64.size) { json := true } {}).2
      (by decide)).1

end ReportOptions

end HardwareReport
