import HardwareReport.Snapshot.Data

/-!
# Snapshot — section by section

Ten sections have ten types of report, and each its own place in a snapshot, its own question to a
layer and its own field in data. Here the section is a parameter of them all, so that what holds of
every section is said once.

* `Section.Report`, `Snapshot.report?`, `Snapshot.place` — what a section holds, and where;
* `Layer.readSection`, `Snapshot.visit_eq` — a visit asks for one section and puts the answer in
  its place;
* `Snapshot.keys_toJson` — the keys of a snapshot in data.
-/

namespace HardwareReport

/-! ## Places -/

/-- What is reported of a section. -/
def Section.Report : Section → Type
  | .processor => ProcessorReport
  | .memory => MemoryReport
  | .system => SystemReport
  | .sensors => SensorsReport
  | .disks => List Disk
  | .displays => List Display
  | .network => List NetworkInterface
  | .sound => List SoundCard
  | .power => List PowerSource
  | .usb => List UsbDevice

/-- The question that a section puts to a layer. -/
def Layer.readSection {m : Type → Type} [Monad m] (layer : Layer m) (interrupt : Interrupt m)
    (options : ReportOptions) : (area : Section) → ExceptT HardwareError m area.Report
  | .processor => ProcessorReport.read layer.processor interrupt options.interval
  | .memory => MemoryReport.read layer.memory
  | .system => SystemReport.read layer.system
  | .sensors => SensorsReport.read layer.sensors
  | .disks => layer.disks
  | .displays => layer.displays
  | .network => layer.network
  | .sound => layer.sound
  | .power => layer.power
  | .usb => layer.usb options.usbTree

namespace Snapshot

/-- The report of a section, if there is one. -/
def report? (snapshot : Snapshot) : (area : Section) → Option area.Report
  | .processor => snapshot.processor
  | .memory => snapshot.memory
  | .system => snapshot.system
  | .sensors => snapshot.sensors
  | .disks => snapshot.disks
  | .displays => snapshot.displays
  | .network => snapshot.network
  | .sound => snapshot.sound
  | .power => snapshot.power
  | .usb => snapshot.usb

/-- The snapshot with the report of a section replaced. -/
def place : (area : Section) → Option area.Report → Snapshot → Snapshot
  | .processor, value, snapshot => { snapshot with processor := value }
  | .memory, value, snapshot => { snapshot with memory := value }
  | .system, value, snapshot => { snapshot with system := value }
  | .sensors, value, snapshot => { snapshot with sensors := value }
  | .disks, value, snapshot => { snapshot with disks := value }
  | .displays, value, snapshot => { snapshot with displays := value }
  | .network, value, snapshot => { snapshot with network := value }
  | .sound, value, snapshot => { snapshot with sound := value }
  | .power, value, snapshot => { snapshot with power := value }
  | .usb, value, snapshot => { snapshot with usb := value }

theorem report?_place_self (area : Section) (value : Option area.Report) (snapshot : Snapshot) :
    (place area value snapshot).report? area = value := by
  cases area <;> rfl

/-- Replacing one report leaves every other as it is. -/
theorem report?_place_of_ne {area other : Section} (hne : other ≠ area)
    (value : Option area.Report) (snapshot : Snapshot) :
    (place area value snapshot).report? other = snapshot.report? other := by
  cases area <;> cases other <;> first | rfl | exact absurd rfl hne

theorem errors_place (area : Section) (value : Option area.Report) (snapshot : Snapshot) :
    (place area value snapshot).errors = snapshot.errors := by
  cases area <;> rfl

theorem platform_place (area : Section) (value : Option area.Report) (snapshot : Snapshot) :
    (place area value snapshot).platform = snapshot.platform := by
  cases area <;> rfl

/-! ## Records -/

/-- What an answer adds to the errors. -/
def failure? {α : Type} (area : Section) : Answer α → Option SectionError
  | .ok _ => none
  | .error error => some ⟨area, error⟩

/-- The errors are no place of a section. -/
theorem report?_with_errors (area : Section) (errors : List SectionError) (snapshot : Snapshot) :
    ({ snapshot with errors } : Snapshot).report? area = snapshot.report? area := by
  cases area <;> rfl

theorem report?_record_self (area : Section) (answer : Answer area.Report) (snapshot : Snapshot) :
    (snapshot.record area (place area) answer).report? area = answer.toOption := by
  cases answer with
  | ok report => exact report?_place_self area (some report) snapshot
  | error error =>
    rw [record, report?_with_errors, report?_place_self]
    rfl

/-- Recording one section leaves the report of every other as it is. -/
theorem report?_record_of_ne {area other : Section} (hne : other ≠ area)
    (answer : Answer area.Report) (snapshot : Snapshot) :
    (snapshot.record area (place area) answer).report? other = snapshot.report? other := by
  cases answer with
  | ok report => exact report?_place_of_ne hne (some report) snapshot
  | error error =>
    rw [record, report?_with_errors, report?_place_of_ne hne]

theorem errors_record (area : Section) (answer : Answer area.Report) (snapshot : Snapshot) :
    (snapshot.record area (place area) answer).errors =
      snapshot.errors ++ (failure? area answer).toList := by
  cases answer with
  | ok report =>
    rw [record, errors_place, failure?, Option.toList_none, List.append_nil]
  | error error =>
    rw [record, errors_place, failure?, Option.toList_some]

theorem area_of_mem_failure? {α : Type} {area : Section} {answer : Answer α} {entry : SectionError}
    (h : entry ∈ (failure? area answer).toList) : entry.area = area := by
  cases answer with
  | ok report => exact absurd h List.not_mem_nil
  | error error =>
    obtain rfl := List.mem_singleton.mp h
    rfl

theorem platform_record (area : Section) (answer : Answer area.Report) (snapshot : Snapshot) :
    (snapshot.record area (place area) answer).platform = snapshot.platform := by
  cases answer with
  | ok report => exact platform_place area (some report) snapshot
  | error error => exact platform_place area none snapshot

/-- A visit asks for one section and puts the answer in its place. -/
theorem visit_eq {m : Type → Type} [Monad m] (layer : Layer m) (interrupt : Interrupt m)
    (options : ReportOptions) (snapshot : Snapshot) (area : Section) :
    visit layer interrupt options snapshot area = do
      let answer ← (layer.readSection interrupt options area).run
      return snapshot.record area (place area) answer := by
  cases area <;> rfl

end Snapshot

/-! ## Keys in data -/

/-- The keys of an object, in order. -/
def Json.keys : Json → List String
  | .object fields => fields.map Prod.fst
  | _ => []

theorem Section.name_injective {a b : Section} (h : a.name = b.name) : a = b := by
  have hFound := ofName?_name a
  rw [h, ofName?_name b] at hFound
  exact (Option.some.inj hFound).symm

namespace Snapshot

theorem keys_sectionField {α : Type} (area : Section) (toJson : α → Json) (report : Option α) :
    (sectionField area toJson report).map Prod.fst =
      if report.isSome then [area.name] else [] := by
  cases report <;> rfl

/-- A snapshot in data has the platform, then the sections that are there in the order of a full
report, then the errors if there are any. -/
theorem keys_toJson (snapshot : Snapshot) :
    snapshot.toJson.keys =
      "platform" ::
        (Section.all.flatMap fun area => if (snapshot.report? area).isSome then [area.name] else [])
        ++ if snapshot.errors.isEmpty then [] else ["errors"] := by
  have hErrors : (errorField snapshot.errors).map Prod.fst =
      if snapshot.errors.isEmpty then [] else ["errors"] := by
    unfold errorField
    split <;> rfl
  simp only [toJson, Json.keys, fields, List.map_append, keys_sectionField, hErrors, Section.all,
    List.flatMap_cons, List.flatMap_nil, report?, List.append_assoc, List.map_cons,
    List.cons_append, List.nil_append, List.append_nil]
  -- the two sides name the types of the reports differently
  rfl

/-- A section has a key exactly when its report is there. -/
theorem name_mem_keys_toJson (snapshot : Snapshot) (area : Section) :
    area.name ∈ snapshot.toJson.keys ↔ (snapshot.report? area).isSome := by
  have hPlatform : area.name ≠ "platform" := by cases area <;> decide
  have hErrors : area.name ≠ "errors" := by cases area <;> decide
  have hLast : area.name ∉ (if snapshot.errors.isEmpty then [] else ["errors"]) := by
    split
    · exact List.not_mem_nil
    · exact fun h => hErrors (List.mem_singleton.mp h)
  -- no section is called like one of the other keys
  rw [keys_toJson, List.mem_append, List.mem_cons, List.mem_flatMap]
  constructor
  · rintro ((h | ⟨other, -, hOther⟩) | h)
    · exact absurd h hPlatform
    · split at hOther
      · next hSome =>
        rw [Section.name_injective (List.mem_singleton.mp hOther)]
        exact hSome
      · exact absurd hOther List.not_mem_nil
    · exact absurd h hLast
  · intro h
    refine Or.inl (Or.inr ⟨area, Section.mem_all area, ?_⟩)
    rw [if_pos h]
    exact List.mem_singleton_self area.name

/-- There is a key for the errors exactly when there are errors. -/
theorem errors_mem_keys_toJson (snapshot : Snapshot) :
    "errors" ∈ snapshot.toJson.keys ↔ snapshot.errors ≠ [] := by
  -- no section has a name that could be taken for it
  have hNames : ∀ area : Section, "errors" ≠ area.name := by
    intro area
    cases area <;> decide
  rw [keys_toJson, List.mem_append, List.mem_cons, List.mem_flatMap]
  constructor
  · rintro ((h | ⟨area, -, hArea⟩) | h)
    · exact absurd h (by decide)
    · split at hArea
      · exact absurd (List.mem_singleton.mp hArea) (hNames area)
      · exact absurd hArea List.not_mem_nil
    · split at h
      · exact absurd h List.not_mem_nil
      · next hSome => exact fun hNil => hSome (List.isEmpty_iff.mpr hNil)
  · intro h
    right
    rw [if_neg (fun hNil => h (List.isEmpty_iff.mp hNil))]
    exact List.mem_singleton_self "errors"

end Snapshot

end HardwareReport
