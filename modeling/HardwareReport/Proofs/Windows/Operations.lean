import HardwareReport.Proofs.Answer
import HardwareReport.Windows.Registry

/-!
# Windows — operations on the registry

What is made of the registry is made of three operations: a key is opened, the keys in a key are
listed, a value is read. The system may refuse each of them. Not every refusal is a failure: a key
that is missing or may not be opened is passed over, and so is a value that is missing.

* `Operation`, `Operation.failure?` — an operation, and why it fails if it does;
* `ifOpened`, `forEachKey` — the operations on the way through the registry;
* `Ends` — an answer is that of the operations it is made of: it is the failure of the first of them
  that fails.
-/

namespace HardwareReport.Windows.Registry

variable {Key : Type}

/-- An operation on the registry. -/
inductive Operation (Key : Type) where
  | openKey (parent : Key) (path : String)
  | listKeys (key : Key)
  | readValue (key : Key) (name : String)

namespace Operation

/-- What is asked for, as a failure tells it. -/
def query : Operation Key → String
  | .openKey _ path => "registry " ++ path
  | .listKeys _ => "registry subkeys"
  | .readValue _ name => "registry value " ++ name

/-- Why nothing came of it, if nothing did. -/
def faultOf? {α : Type} : Except Fault α → Option Fault
  | .ok _ => none
  | .error fault => some fault

/-- Why the system refuses the operation, if it does. -/
def fault? (registry : Registry Key) : Operation Key → Option Fault
  | .openKey parent path => faultOf? (registry.subkey parent path)
  | .listKeys key => faultOf? (registry.subkeyNames key)
  | .readValue key name => faultOf? (registry.bytes key name)

/-- Whether the report goes on after such a refusal. -/
def isPassedOver : Operation Key → Fault → Bool
  | .openKey _ _, fault => fault.isNotFound || fault.isDenied
  | .listKeys _, _ => false
  | .readValue _ _, fault => fault.isNotFound

/-- Why the operation fails, if it does. -/
def failure? (registry : Registry Key) (operation : Operation Key) : Option Fault :=
  (operation.fault? registry).filter fun fault => !operation.isPassedOver fault

/-- The failure of the operation, if it fails. -/
def error? (registry : Registry Key) (operation : Operation Key) : Option HardwareError :=
  (operation.failure? registry).map (HardwareError.ofFault operation.query)

section Refusals

variable {registry : Registry Key} {operation : Operation Key} {fault : Fault}

theorem faultOf?_eq_some_iff {α : Type} {outcome : Except Fault α} :
    faultOf? outcome = some fault ↔ outcome = .error fault := by
  cases outcome <;> simp [faultOf?]

theorem error?_of_done (h : operation.fault? registry = none) :
    operation.error? registry = none := by
  rw [error?, failure?, h]
  rfl

theorem error?_of_passedOver (h : operation.fault? registry = some fault)
    (hPassed : operation.isPassedOver fault = true) : operation.error? registry = none := by
  rw [error?, failure?, h, Option.filter_some, hPassed]
  rfl

theorem error?_of_failed (h : operation.fault? registry = some fault)
    (hFailed : operation.isPassedOver fault = false) :
    operation.error? registry = some (.ofFault operation.query fault) := by
  rw [error?, failure?, h, Option.filter_some, hFailed]
  rfl

end Refusals

end Operation

/-! ## Ways through the registry -/

variable (registry : Registry Key)

/-- A key is opened and, if there is one that may be opened, further operations are made on it. -/
def ifOpened (parent : Key) (path : String) (next : Key → List (Operation Key)) :
    List (Operation Key) :=
  .openKey parent path ::
    match registry.subkey parent path with
    | .ok key => next key
    | .error _ => []

/-- The keys in a key are listed, and operations are made for each name, in order. -/
def forEachKey (key : Key) (each : String → List (Operation Key)) : List (Operation Key) :=
  .listKeys key ::
    match registry.sortedKeys key with
    | .ok names => names.flatMap each
    | .error _ => []

/-- An answer is a failure if and only if it is that of the first operation that fails. -/
def Ends {α : Type} (operations : List (Operation Key)) (answer : Answer α) : Prop :=
  ∀ error, answer = .error error ↔
    operations.findSome? (Operation.error? registry) = some error

variable {registry}

namespace Ends

variable {α β : Type} {operation : Operation Key} {operations more : List (Operation Key)}
  {answer : Answer α}

theorem nil (a : α) : Ends registry [] (.ok a : Answer α) := fun error => by simp

theorem skip (hNone : operation.error? registry = none) (h : Ends registry operations answer) :
    Ends registry (operation :: operations) answer := by
  intro error
  rw [List.findSome?_cons, hNone]
  exact h error

theorem fail {error : HardwareError} (hError : operation.error? registry = some error) :
    Ends registry (operation :: operations) (.error error : Answer α) := by
  intro other
  rw [List.findSome?_cons, hError]
  simp

/-- One answer after the other is made of the operations of one before those of the other. -/
theorem bind {next : α → Answer β} (h : Ends registry operations answer)
    (hNext : ∀ a, Ends registry more (next a)) :
    Ends registry (operations ++ more) (answer >>= next) := by
  intro error
  rw [List.findSome?_append]
  cases answer with
  | error fault =>
    -- the failure is found in the first part, so what comes later does not count
    rw [(h fault).mp rfl]
    show Except.error fault = Except.error error ↔ some fault = some error
    simp
  | ok a =>
    have hNone : operations.findSome? (Operation.error? registry) = none := by
      refine Option.eq_none_iff_forall_ne_some.mpr fun fault hFault => ?_
      exact absurd ((h fault).mpr hFault) (by simp)
    rw [hNone, Option.none_or]
    exact hNext a error

theorem map (h : Ends registry operations answer) (f : α → β) :
    Ends registry operations (answer >>= fun a => pure (f a)) := by
  rw [← List.append_nil operations]
  exact h.bind fun a => nil (f a)

/-- An answer for each element of a list is made of the operations for one after the other. -/
theorem mapM {list : List α} {each : α → List (Operation Key)} {ask : α → Answer β}
    (h : ∀ a, Ends registry (each a) (ask a)) :
    Ends registry (list.flatMap each) (list.mapM ask) := by
  induction list with
  | nil => exact nil []
  | cons first rest ih =>
    rw [List.flatMap_cons, List.mapM_cons]
    exact (h first).bind fun b => ih.map _

/-! ## Operations and their answers -/

variable {key : Key} {path name : String}

/-- What comes after a key is opened is made on the key or, if it is passed over, not at all. -/
theorem ifOpened {after : Option Key → Answer α} {each : Key → List (Operation Key)}
    (hNone : ∃ a, after none = .ok a)
    (hSome : ∀ inner, Ends registry (each inner) (after (some inner))) :
    Ends registry (registry.ifOpened key path each) (registry.openKey key path >>= after) := by
  unfold Registry.ifOpened openKey
  cases hOpened : registry.subkey key path with
  | ok inner =>
    have hDone : (Operation.openKey key path).fault? registry = none := by
      rw [Operation.fault?, hOpened]
      rfl
    exact skip (Operation.error?_of_done hDone) (hSome inner)
  | error fault =>
    have hFault : (Operation.openKey key path).fault? registry = some fault :=
      Operation.faultOf?_eq_some_iff.mpr hOpened
    dsimp only
    cases hPassed : fault.isNotFound || fault.isDenied with
    | true =>
      -- the way ends here, and with an answer
      obtain ⟨a, ha⟩ := hNone
      refine skip (Operation.error?_of_passedOver hFault hPassed) ?_
      show Ends registry [] (after none)
      rw [ha]
      exact nil a
    | false => exact fail (Operation.error?_of_failed hFault hPassed)

-- Listing has no refusal that is passed over, so there are two cases and not three.
/-- What is made for each of some keys comes after they were listed. -/
theorem forEachKey {after : List String → Answer α} {each : String → List (Operation Key)}
    (h : ∀ names : List String, Ends registry (names.flatMap each) (after names)) :
    Ends registry (registry.forEachKey key each) (registry.sortedKeys key >>= after) := by
  unfold Registry.forEachKey sortedKeys
  cases hNames : registry.subkeyNames key with
  | ok names =>
    have hDone : (Operation.listKeys key).fault? registry = none := by
      rw [Operation.fault?, hNames]
      rfl
    exact skip (Operation.error?_of_done hDone) (h _)
  | error fault =>
    have hFault : (Operation.listKeys key).fault? registry = some fault :=
      Operation.faultOf?_eq_some_iff.mpr hNames
    exact fail (Operation.error?_of_failed hFault rfl)

/-- A value that is missing is passed over, and any other refusal is the failure. -/
theorem bytesValue : Ends registry [.readValue key name] (registry.bytesValue key name) := by
  unfold Registry.bytesValue
  cases hValue : registry.bytes key name with
  | ok value =>
    have hDone : (Operation.readValue key name).fault? registry = none := by
      rw [Operation.fault?, hValue]
      rfl
    exact skip (Operation.error?_of_done hDone) (nil _)
  | error fault =>
    have hFault : (Operation.readValue key name).fault? registry = some fault :=
      Operation.faultOf?_eq_some_iff.mpr hValue
    show Ends registry _ (if fault.isNotFound then .ok none else _)
    cases hMissing : fault.isNotFound with
    | true => exact skip (Operation.error?_of_passedOver hFault hMissing) (nil none)
    | false => exact fail (Operation.error?_of_failed hFault hMissing)

/-! ## Failures -/

/-- If no operation fails there is an answer. -/
theorem exists_eq_ok (h : Ends registry operations answer)
    (hNone : ∀ operation ∈ operations, operation.failure? registry = none) :
    ∃ a, answer = .ok a := by
  cases answer with
  | ok a => exact ⟨a, rfl⟩
  | error error =>
    obtain ⟨_, operation, _, rfl, hError, -⟩ := List.findSome?_eq_some_iff.mp ((h error).mp rfl)
    obtain ⟨fault, hFault, -⟩ := Option.map_eq_some_iff.mp hError
    rw [hNone operation (by simp)] at hFault
    exact absurd hFault (by simp)

/-- The first operation that fails is the failure of the whole. -/
theorem eq_error {before after : List (Operation Key)} {fault : Fault}
    (h : Ends registry (before ++ operation :: after) answer)
    (hBefore : ∀ earlier ∈ before, earlier.failure? registry = none)
    (hFault : operation.failure? registry = some fault) :
    answer = .error (.ofFault operation.query fault) := by
  refine (h _).mpr (List.findSome?_eq_some_iff.mpr ⟨before, operation, after, rfl, ?_,
    fun earlier hEarlier => ?_⟩)
  · rw [Operation.error?, hFault]
    rfl
  · rw [Operation.error?, hBefore earlier hEarlier]
    rfl

end Ends

end HardwareReport.Windows.Registry
