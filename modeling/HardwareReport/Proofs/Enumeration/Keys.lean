import HardwareReport.Proofs.Enumeration.Entries
import HardwareReport.Proofs.Text.ByteOrder
import HardwareReport.Windows.RegistryKey

/-!
# Enumerations — registry keys in another order

The keys in a key are yielded in an order of the system's own as well. A key is opened by its name,
and the names of keys are put in order before anything is made of them. The reports from the
registry come out the same.

* `Registry.SameBut`, `Registry.Reordered` — two registries that differ in the order of keys only;
* `SameBut.bind_openKey_eq`, `SameBut.sortedKeys_eq` — what is opened, and what is listed;
* `SameBut.displays_eq`, `SameBut.soundCards_eq` — what is made of it;
* `RegistryKey.Reordered` — two registries in memory that do.
-/

namespace HardwareReport.Windows

namespace Registry

variable {Key KeyOther : Type} {registry : Registry Key} {other : Registry KeyOther}
  {related : Key → KeyOther → Prop} {key : Key} {keyOther : KeyOther}

/-- Two registries give the same answers for keys that are related, but for the order of names.
Whatever is opened from keys that are related is related again. -/
structure SameBut (registry : Registry Key) (other : Registry KeyOther)
    (related : Key → KeyOther → Prop) : Prop where
  root : related registry.root other.root
  subkey : ∀ key keyOther, related key keyOther → ∀ path,
    Answer.Alike related (registry.subkey key path) (other.subkey keyOther path)
  subkeyNames : ∀ key keyOther, related key keyOther →
    Answer.Alike List.Perm (registry.subkeyNames key) (other.subkeyNames keyOther)
  text : ∀ key keyOther, related key keyOther → registry.text key = other.text keyOther
  bytes : ∀ key keyOther, related key keyOther → registry.bytes key = other.bytes keyOther

/-- Two registries are the same but for the order in which the system yields the keys in keys. -/
def Reordered (registry : Registry Key) (other : Registry KeyOther) : Prop :=
  ∃ related, SameBut registry other related

namespace SameBut

/-! ## Opening and listing -/

/-- Related keys are opened alike, and so is what may not be opened. -/
theorem openKey (h : SameBut registry other related) (hKey : related key keyOther)
    (path : String) :
    Answer.Alike (Option.Rel related) (registry.openKey key path)
      (other.openKey keyOther path) := by
  have hFound := h.subkey key keyOther hKey path
  rw [Registry.openKey, Registry.openKey]
  generalize registry.subkey key path = found at hFound ⊢
  generalize other.subkey keyOther path = foundOther at hFound ⊢
  cases hFound with
  | ok hInner => exact .ok (.some hInner)
  | error fault =>
    dsimp only
    split_ifs
    · exact .ok .none
    · exact .error _

/-- The same is made of a key that is opened in both registries if it is of keys that are
related. -/
theorem bind_openKey_eq {α : Type} (h : SameBut registry other related)
    (hKey : related key keyOther) (path : String) {next : Option Key → Answer α}
    {nextOther : Option KeyOther → Answer α} (hNone : next none = nextOther none)
    (hSome : ∀ a b, related a b → next (some a) = nextOther (some b)) :
    registry.openKey key path >>= next = other.openKey keyOther path >>= nextOther := by
  refine (h.openKey hKey path).bind_eq fun a b hOpened => ?_
  cases hOpened with
  | none => exact hNone
  | some hInner => exact hSome _ _ hInner

/-- **Keys are listed in one order.** -/
theorem sortedKeys_eq (h : SameBut registry other related) (hKey : related key keyOther) :
    registry.sortedKeys key = other.sortedKeys keyOther := by
  have hNames := h.subkeyNames key keyOther hKey
  rw [sortedKeys, sortedKeys]
  generalize registry.subkeyNames key = names at hNames ⊢
  generalize other.subkeyNames keyOther = namesOther at hNames ⊢
  cases hNames with
  | ok hPerm =>
    exact congrArg Except.ok
      (Text.mergeSort_eq_of_perm (fun name => name) hPerm fun _ _ _ _ hSame => hSame)
  | error fault => rfl

theorem textValue_eq (h : SameBut registry other related) (hKey : related key keyOther)
    (name : String) : registry.textValue key name = other.textValue keyOther name := by
  rw [textValue, textValue, h.text key keyOther hKey]

theorem bytesValue_eq (h : SameBut registry other related) (hKey : related key keyOther)
    (name : String) : registry.bytesValue key name = other.bytesValue keyOther name := by
  rw [bytesValue, bytesValue, h.bytes key keyOther hKey]

/-! ## Monitors -/

theorem instanceEdid_eq (h : SameBut registry other related) (hKey : related key keyOther) :
    registry.instanceEdid key = other.instanceEdid keyOther := by
  rw [instanceEdid, instanceEdid]
  refine h.bind_openKey_eq hKey _ rfl fun _ _ _ => ?_
  exact h.bind_openKey_eq hKey _ rfl fun _ _ hParameters => h.bytesValue_eq hParameters _

theorem instanceDisplay_eq (h : SameBut registry other related) (hKey : related key keyOther)
    (monitor : String) :
    registry.instanceDisplay monitor key = other.instanceDisplay monitor keyOther := by
  funext name
  rw [instanceDisplay, instanceDisplay]
  refine h.bind_openKey_eq hKey _ rfl fun _ _ hInner => ?_
  dsimp only
  rw [h.instanceEdid_eq hInner]

theorem monitorDisplays_eq (h : SameBut registry other related) (hKey : related key keyOther) :
    registry.monitorDisplays key = other.monitorDisplays keyOther := by
  funext monitor
  rw [monitorDisplays, monitorDisplays]
  refine h.bind_openKey_eq hKey _ rfl fun _ _ hInner => ?_
  dsimp only
  rw [h.sortedKeys_eq hInner, h.instanceDisplay_eq hInner]

theorem displays_eq (h : SameBut registry other related) : registry.displays = other.displays := by
  rw [displays, displays]
  refine h.bind_openKey_eq h.root _ rfl fun _ _ hInner => ?_
  dsimp only
  rw [h.sortedKeys_eq hInner, h.monitorDisplays_eq hInner]

/-! ## Sound -/

theorem driverCard_eq (h : SameBut registry other related) (hKey : related key keyOther) :
    registry.driverCard key = other.driverCard keyOther := by
  funext name
  rw [driverCard, driverCard]
  refine h.bind_openKey_eq hKey _ rfl fun _ _ hDriver => ?_
  simp only [h.textValue_eq hDriver]

theorem soundCards_eq (h : SameBut registry other related) :
    registry.soundCards = other.soundCards := by
  rw [soundCards, soundCards]
  refine h.bind_openKey_eq h.root _ rfl fun _ _ hInner => ?_
  dsimp only
  rw [h.sortedKeys_eq hInner, h.driverCard_eq hInner]

end SameBut

end Registry

/-! ## Registries in memory -/

namespace RegistryKey

/-- Two registries are the same but for the order in which the system yields the keys in keys, none
of which has the name of another. -/
inductive Reordered : RegistryKey → RegistryKey → Prop where
  | key (openFault listFault : Option Fault) (values : List (String × RegistryValue))
      {keys others : List (String × RegistryKey)} (distinct : (keys.map Prod.fst).Nodup)
      (names : (keys.map Prod.fst).Perm (others.map Prod.fst))
      (inside : ∀ name a b, (name, a) ∈ keys → (name, b) ∈ others → Reordered a b) :
      Reordered (.key openFault listFault values keys) (.key openFault listFault values others)

namespace Reordered

variable {key other : RegistryKey}

theorem of_sameEntries {keys others : List (String × RegistryKey)}
    (h : SameEntries Reordered keys others) (openFault listFault : Option Fault)
    (values : List (String × RegistryValue)) :
    Reordered (.key openFault listFault values keys) (.key openFault listFault values others) :=
  .key openFault listFault values h.distinct h.names h.inside

/-- A path cannot be opened in both registries, for the same cause, or leads to keys that differ in
the order of keys only. -/
theorem openPath (h : Reordered key other) (path : List String) :
    Answer.Alike Reordered (key.openPath path) (other.openPath path) := by
  induction path generalizing key other with
  | nil =>
    rw [RegistryKey.openPath, RegistryKey.openPath]
    exact .ok h
  | cons name rest ih =>
    obtain @⟨_, _, _, keys, others, hDistinct, hNames, hInside⟩ := h
    have hFound := (SameEntries.mk hDistinct hNames hInside).lookup name
    rw [RegistryKey.openPath, RegistryKey.openPath]
    generalize keys.lookup name = found at hFound ⊢
    generalize others.lookup name = foundOther at hFound ⊢
    cases hFound with
    | none => exact .error Fault.notFound
    | some hInner =>
      -- a key that cannot be opened ends the way in both
      obtain ⟨openFault, _, _, _, _, _⟩ := id hInner
      cases openFault with
      | some fault => exact .error fault
      | none => exact ih hInner

theorem names_alike (h : Reordered key other) : Answer.Alike List.Perm key.names other.names := by
  obtain ⟨_, listFault, _, _, hNames, _⟩ := h
  cases listFault with
  | some fault => exact .error fault
  | none => exact .ok hNames

theorem value_eq (h : Reordered key other) : key.value = other.value := by
  obtain ⟨_, _, _, _, _, _⟩ := h
  rfl

theorem asRegistry (h : Reordered key other) :
    Registry.Reordered key.asRegistry other.asRegistry := by
  refine ⟨Reordered, h, fun _ _ hKey path => hKey.openPath _, fun _ _ hKey => hKey.names_alike,
    fun a b hKey => ?_, fun a b hKey => ?_⟩
  · show (fun name => (a.value name).asText) = fun name => (b.value name).asText
    rw [hKey.value_eq]
  · show (fun name => (a.value name).asBytes) = fun name => (b.value name).asBytes
    rw [hKey.value_eq]

end Reordered

end RegistryKey

end HardwareReport.Windows
