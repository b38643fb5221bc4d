import HardwareReport.Proofs.Enumeration.Devices
import HardwareReport.Proofs.Enumeration.Files
import HardwareReport.Proofs.Enumeration.Keys

/-!
# Enumerations — order

The system enumerates directories, registry keys and devices in orders of its own. What is reported
of them does not depend on any of these.

Main result: `enumeration_order_irrelevant` — the reports that are made of files, of registry keys
and of the device tree, each from two enumerations of the same things.
-/

namespace HardwareReport

/-- **The order of an enumeration does not matter.** Of two directory trees or two registries that
differ in it the reports are the same, or fail for the same cause. Of two device trees that differ
in it the list of USB devices is the same or there is none, if no two devices have the same id. -/
theorem enumeration_order_irrelevant :
    (∀ tree other : FileTree.Node, tree.Reordered other → ∀ root : FileTree.Path,
      Linux.usbRecords tree root = Linux.usbRecords other root ∧
      Linux.displays tree root = Linux.displays other root ∧
      Linux.soundCards tree root = Linux.soundCards other root ∧
      Linux.fanSpeeds tree root = Linux.fanSpeeds other root) ∧
    (∀ (Key KeyOther : Type) (registry : Windows.Registry Key) (other : Windows.Registry KeyOther),
      registry.Reordered other →
      registry.displays = other.displays ∧ registry.soundCards = other.soundCards) ∧
    (∀ root other : Windows.DeviceNode, Windows.DeviceNode.Reordered root other →
      Windows.DeviceNode.DistinctIds root → ∀ locateCode : Windows.ManagerCode,
      (∃ records, Windows.DeviceTree.usbRecords locateCode root = .ok records ∧
        Windows.DeviceTree.usbRecords locateCode other = .ok records) ∨
      ∃ error errorOther, Windows.DeviceTree.usbRecords locateCode root = .error error ∧
        Windows.DeviceTree.usbRecords locateCode other = .error errorOther) := by
  refine ⟨fun tree other h root => ?files, fun _ _ registry other h => ?keys,
    fun root other h hIds => ?devices⟩
  case files =>
    exact ⟨h.usbRecords_eq root, h.displays_eq root, h.soundCards_eq root, h.fanSpeeds_eq root⟩
  case keys =>
    -- the keys of the two registries need not be of one type
    obtain ⟨related, hSame⟩ := h
    exact ⟨hSame.displays_eq, hSame.soundCards_eq⟩
  case devices => exact h.usbRecords_eq hIds

/-! ## Two outputs, two monitors, two sticks -/

/-- A tree with nothing but outputs, of which the monitors have descriptions of one byte. -/
def outputTree (outputs : List (String × UInt8)) : FileTree.Node :=
  .directory none (outputs.map fun output =>
    (output.1, .directory none [("edid", .file (.ok ⟨#[output.2]⟩))]))

/-- A registry with nothing but drivers, each with a description. -/
def driverRegistry (drivers : List (String × String)) : Windows.RegistryKey :=
  (Windows.RegistryKey.pathOf Windows.Registry.mediaPath).foldr
    (fun name key => .key none none [] [(name, key)])
    (.key none none [] (drivers.map fun driver =>
      (driver.1, .key none none [("DriverDesc", .text driver.2)] [])))

/-- A computer with sticks at a hub. -/
def stickTree (ids : List String) : Windows.DeviceNode :=
  .node (Windows.plainFacts "HTREE\\ROOT\\0") [.node (Windows.plainFacts "USB\\ROOT_HUB30\\1")
    (ids.map fun id => .node (Windows.plainFacts id) [])]

theorem outputTree_reordered {outputs others : List (String × UInt8)}
    (hDistinct : (outputs.map Prod.fst).Nodup) (h : outputs.Perm others) :
    (outputTree outputs).Reordered (outputTree others) := by
  refine .of_sameEntries (.of_perm ?_ (h.map _) ?_) none
  · rw [List.map_map]
    exact hDistinct
  · rw [List.forall_mem_map]
    exact fun output _ => .of_sameEntries (.single (.file _) "edid") none

theorem driverRegistry_reordered {drivers others : List (String × String)}
    (hDistinct : (drivers.map Prod.fst).Nodup) (h : drivers.Perm others) :
    (driverRegistry drivers).Reordered (driverRegistry others) := by
  rw [driverRegistry, driverRegistry]
  induction Windows.RegistryKey.pathOf Windows.Registry.mediaPath with
  | nil =>
    refine .of_sameEntries (.of_perm ?_ (h.map _) ?_) none none []
    · rw [List.map_map]
      exact hDistinct
    · rw [List.forall_mem_map]
      exact fun driver _ => .key none none _ List.nodup_nil (.refl _) (by simp)
  | cons name rest ih => exact .of_sameEntries (.single ih name) none none []

theorem stickTree_reordered {ids others : List String} (h : ids.Perm others) :
    Windows.DeviceNode.Reordered (stickTree ids) (stickTree others) := by
  have hCodes : ∀ ids : List String,
      ∀ device ∈ ids.map fun id => (.node (Windows.plainFacts id) [] : Windows.DeviceNode),
        device.value.siblingCode = 0 := by
    intro ids
    rw [List.forall_mem_map]
    exact fun _ _ => rfl
  refine .of_below rfl (by simp [Windows.plainFacts, Tree.value])
    (by simp [Windows.plainFacts, Tree.value]) (.cons ?_ .nil)
  exact .of_below rfl (hCodes ids) (hCodes others) (.of_perm (h.map _))

/-- Two outputs, with their monitors. -/
def twoOutputs : List (String × UInt8) := [("card0-HDMI-A-1", 2), ("card0-DP-1", 1)]

/-- Two drivers for sound. -/
def twoDrivers : List (String × String) := [("0001", "Speakers"), ("0000", "Headset")]

/-- Two sticks of one kind. -/
def twoSticks : List String := ["USB\\VID_0781&PID_5583\\8", "USB\\VID_0781&PID_5583\\7"]

/-- Two outputs, two drivers and two sticks, listed one way and the other. -/
theorem enumeration_order_irrelevant_twoOfEach :
    ((outputTree twoOutputs).Reordered (outputTree twoOutputs.reverse) ∧
      Linux.displays (outputTree twoOutputs) [] =
        Linux.displays (outputTree twoOutputs.reverse) []) ∧
    ((driverRegistry twoDrivers).Reordered (driverRegistry twoDrivers.reverse) ∧
      (driverRegistry twoDrivers).asRegistry.soundCards =
        (driverRegistry twoDrivers.reverse).asRegistry.soundCards) ∧
    (Windows.DeviceNode.Reordered (stickTree twoSticks) (stickTree twoSticks.reverse) ∧
      Windows.DeviceNode.DistinctIds (stickTree twoSticks) ∧
      ∃ records, Windows.DeviceTree.usbRecords 0 (stickTree twoSticks) = .ok records ∧
        Windows.DeviceTree.usbRecords 0 (stickTree twoSticks.reverse) = .ok records) := by
  obtain ⟨hFiles, hKeys, hDevices⟩ := enumeration_order_irrelevant
  have hOutputs := outputTree_reordered (by decide) (List.reverse_perm twoOutputs).symm
  have hDrivers := driverRegistry_reordered (by decide) (List.reverse_perm twoDrivers).symm
  have hSticks := stickTree_reordered (List.reverse_perm twoSticks).symm
  have hIds : Windows.DeviceNode.DistinctIds (stickTree twoSticks) :=
    .of_nodup (by decide +kernel)
  refine ⟨⟨hOutputs, (hFiles _ _ hOutputs []).2.1⟩,
    ⟨hDrivers, (hKeys _ _ _ _ hDrivers.asRegistry).2⟩, hSticks, hIds,
    (hDevices _ _ hSticks hIds 0).resolve_right ?_⟩
  -- the sticks can be walked, so that there is no failure
  rintro ⟨error, -, hError, -⟩
  have hWalk : (Windows.DeviceTree.walk none (stickTree twoSticks)).isOk = true := by
    decide +kernel
  rw [Windows.DeviceTree.usbRecords, if_neg (by decide)] at hError
  rw [Answer.map_eq_error_iff.mp hError] at hWalk
  exact Bool.false_ne_true hWalk

end HardwareReport
