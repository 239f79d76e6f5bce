import Rflow.Foundation.Keyed
import Rflow.Runtime.OwnScreens

/-!
# Merging reports into the inventory

A merge puts the entries of the reporting device offline, updates those of reported screens in
place, and appends what was not listed.  Where the entries belong to their devices and ids are
distinct, the two merges differ in what they make of an entry that is already listed: the one for
peers writes every field, the one for this device leaves the primary flag as it is.
-/

namespace Rflow

open Foundation

/-! ## One report -/

/-- A screen as its device reports it. -/
structure ScreenReport where
  stableId : String
  name : String
  logicalSize : ScreenSize
  primary : Bool
  deriving DecidableEq

def DetectedScreen.report (screen : DetectedScreen) : ScreenReport where
  stableId := screen.stableId
  name := screen.name
  logicalSize := screen.logicalSize
  primary := screen.primary

def WireScreenDescriptor.report (screen : WireScreenDescriptor) : ScreenReport where
  stableId := screen.stableId
  name := screen.name
  logicalSize := { width := screen.width, height := screen.height }
  primary := screen.primary

namespace ScreenReport

/-- The id of the reported screen. -/
def key (device : DeviceId) (report : ScreenReport) : ScreenId :=
  ScreenId.ofDevice device.topologyId report.stableId

/-- The entry that mirrors a report. -/
def entry (device : DeviceId) (deviceName : String) (thisDevice : Bool) (report : ScreenReport) :
    ScreenDescriptor where
  screenId := report.key device
  deviceId := device.topologyId
  deviceName := deviceName
  name := report.name
  logicalSize := report.logicalSize
  primary := report.primary
  online := true
  thisDevice := thisDevice

theorem entry_owned {device : DeviceId} {deviceName : String} {thisDevice : Bool}
    (report : ScreenReport) : (report.entry device deviceName thisDevice).Owned :=
  ⟨device, report.stableId, rfl, rfl⟩

theorem distinct_key {device : DeviceId} {reports : List ScreenReport}
    (distinct : Keyed.Distinct stableId reports) : Keyed.Distinct (key device) reports := by
  have keyed := List.Nodup.map (f := ScreenId.ofDevice device.topologyId)
    (fun _ _ same => (ScreenId.ofDevice_inj.mp same).2) distinct
  rwa [List.map_map] at keyed

end ScreenReport

/-- The entry with its screen offline. -/
def ScreenDescriptor.offline (screen : ScreenDescriptor) (thisDevice : Bool) : ScreenDescriptor :=
  { screen with online := false, thisDevice }

/-! ## The two updates of a listed entry -/

/-- What the merge for this device makes of a listed entry. -/
def localUpdate (deviceName : String) (report : ScreenReport) (node : ScreenDescriptor) :
    ScreenDescriptor :=
  { node with
    deviceName
    name := report.name
    logicalSize := report.logicalSize
    online := true
    thisDevice := true }

/-- What the merge for a peer makes of a listed entry. -/
def remoteUpdate (device : DeviceId) (deviceName : String) (report : ScreenReport)
    (existing : ScreenDescriptor) : ScreenDescriptor :=
  { existing with
    deviceId := device.topologyId
    deviceName
    name := report.name
    logicalSize := report.logicalSize
    primary := report.primary
    online := true
    thisDevice := false }

/-- An update keeps which screen an entry of the device is about, makes the same of the entry again
after that was put offline, and makes the entry that mirrors a report of itself. -/
structure Updates (device : DeviceId) (deviceName : String) (thisDevice : Bool)
    (update : ScreenReport → ScreenDescriptor → ScreenDescriptor) : Prop where
  screenId : ∀ report screen, (update report screen).screenId = screen.screenId
  deviceId : ∀ report screen, screen.deviceId = device.topologyId →
    (update report screen).deviceId = device.topologyId
  again : ∀ report screen,
    update report ((update report screen).offline thisDevice) = update report screen
  entry : ∀ report, update report ((report.entry device deviceName thisDevice).offline thisDevice) =
    report.entry device deviceName thisDevice

theorem localUpdate_updates (device : DeviceId) (deviceName : String) :
    Updates device deviceName true (localUpdate deviceName) :=
  ⟨fun _ _ => rfl, fun _ _ own => own, fun _ _ => rfl, fun _ => rfl⟩

theorem remoteUpdate_updates (device : DeviceId) (deviceName : String) :
    Updates device deviceName false (remoteUpdate device deviceName) :=
  ⟨fun _ _ => rfl, fun _ _ _ => rfl, fun _ _ => rfl, fun _ => rfl⟩

/-- Updating the first match among items with distinct keys is putting under the key. -/
theorem upsert_eq_put {α β κ : Type} [DecidableEq κ] {key : α → κ} {reportKey : β → κ}
    {update : β → α → α} {make : β → α} {report : β} {items : List α} {isMatch : α → Bool}
    (distinct : Keyed.Distinct key items)
    (matches_iff : ∀ item ∈ items, isMatch item = true ↔ key item = reportKey report) :
    upsert isMatch (update report) (make report) items =
      Keyed.put key reportKey update make items report := by
  induction items with
  | nil => rfl
  | cons item rest induction =>
      obtain ⟨fresh, remaining⟩ := List.nodup_cons.mp distinct
      obtain ⟨head_iff, rest_iff⟩ := List.forall_mem_cons.mp matches_iff
      rw [upsert]
      by_cases same : key item = reportKey report
      · have unchanged : rest.map (fun other =>
            if key other = reportKey report then update report other else other) = rest := by
          refine (List.map_congr_left fun other member => if_neg ?_).trans (List.map_id rest)
          exact fun again => fresh (same.trans again.symm ▸ List.mem_map_of_mem member)
        rw [if_pos (head_iff.mpr same), Keyed.put, if_pos (by simp [same]), List.map_cons,
          if_pos same, unchanged]
      · rw [if_neg (fun matched => same (head_iff.mp matched)), induction remaining rest_iff]
        unfold Keyed.put
        by_cases listed : reportKey report ∈ rest.map key
        · have listedToo : reportKey report ∈ (item :: rest).map key :=
            List.mem_cons_of_mem _ listed
          rw [if_pos listed, if_pos listedToo, List.map_cons, if_neg same]
        · have unlisted : reportKey report ∉ (item :: rest).map key := by
            simpa [Ne.symm same] using listed
          rw [if_neg listed, if_neg unlisted, List.cons_append]

/-! ## One merge -/

namespace ScreenInventory

/-- The inventory with the device's entries offline. -/
def cleared (inventory : ScreenInventory) (device : DeviceId) (thisDevice : Bool) :
    ScreenInventory :=
  inventory.onDevice device.topologyId fun screen => screen.offline thisDevice

/-- Enter one report, with an update of listed entries. -/
def enter (device : DeviceId) (deviceName : String) (thisDevice : Bool)
    (update : ScreenReport → ScreenDescriptor → ScreenDescriptor) (inventory : ScreenInventory)
    (report : ScreenReport) : ScreenInventory where
  screens := Keyed.put ScreenDescriptor.screenId (ScreenReport.key device) update
    (ScreenReport.entry device deviceName thisDevice) inventory.screens report

/-- Merge the reports of a device, with an update of listed entries. -/
def merge (inventory : ScreenInventory) (device : DeviceId) (deviceName : String)
    (thisDevice : Bool) (update : ScreenReport → ScreenDescriptor → ScreenDescriptor)
    (reports : List ScreenReport) : ScreenInventory :=
  reports.foldl (enter device deviceName thisDevice update) (inventory.cleared device thisDevice)

end ScreenInventory

section Merge

open ScreenInventory

variable {inventory base : ScreenInventory} {device : DeviceId} {deviceName : String}
  {thisDevice : Bool} {update : ScreenReport → ScreenDescriptor → ScreenDescriptor}
  {reports : List ScreenReport} {report : ScreenReport} {screen : ScreenDescriptor}

theorem Updates.respects (updates : Updates device deviceName thisDevice update) :
    Keyed.Respects ScreenDescriptor.screenId (ScreenReport.key device) update
      (ScreenReport.entry device deviceName thisDevice) :=
  ⟨updates.screenId, fun _ => rfl⟩

theorem Updates.distinct_enter (updates : Updates device deviceName thisDevice update)
    (distinct : base.DistinctScreens) :
    (base.enter device deviceName thisDevice update report).DistinctScreens :=
  Keyed.Distinct.put distinct updates.respects

theorem Updates.owned_enter (updates : Updates device deviceName thisDevice update)
    (owned : base.Owned) : (base.enter device deviceName thisDevice update report).Owned := by
  refine Keyed.forall_put owned (fun old listed same => ?_) (ScreenReport.entry_owned report)
  exact ⟨device, report.stableId, updates.deviceId report old ((owned old listed).deviceId_eq same),
    (updates.screenId report old).trans same⟩

/-- A merge loop enters the reports, when each of its steps does so among owned entries with
distinct ids. -/
theorem Updates.foldl_eq_enter {β : Type} {step : ScreenInventory → β → ScreenInventory}
    {reportOf : β → ScreenReport} (updates : Updates device deviceName thisDevice update)
    (step_eq : ∀ base screen, base.DistinctScreens → base.Owned →
      step base screen = base.enter device deviceName thisDevice update (reportOf screen))
    (distinct : base.DistinctScreens) (owned : base.Owned) (screens : List β) :
    screens.foldl step base =
      (screens.map reportOf).foldl (enter device deviceName thisDevice update) base := by
  induction screens generalizing base with
  | nil => rfl
  | cons screen rest induction =>
      rw [List.foldl_cons, List.map_cons, List.foldl_cons, step_eq base screen distinct owned]
      exact induction (updates.distinct_enter distinct) (updates.owned_enter owned)

theorem mergeLocalScreen_eq (base : ScreenInventory) (screen : DetectedScreen)
    (distinct : base.DistinctScreens) (owned : base.Owned) :
    mergeLocalScreen deviceName device.topologyId base screen =
      base.enter device deviceName true (localUpdate deviceName) screen.report := by
  refine congrArg ScreenInventory.mk ?_
  change upsert _ (localUpdate deviceName screen.report)
    (screen.report.entry device deviceName true) base.screens = _
  refine upsert_eq_put distinct fun node listed => ?_
  rw [Bool.and_eq_true, decide_eq_true_eq, decide_eq_true_eq]
  exact ⟨And.left, fun same => ⟨same, (owned node listed).deviceId_eq same⟩⟩

theorem mergeRemoteScreen_eq (base : ScreenInventory) (screen : WireScreenDescriptor)
    (distinct : base.DistinctScreens) (_ : base.Owned) :
    mergeRemoteScreen deviceName device.topologyId base screen =
      base.enter device deviceName false (remoteUpdate device deviceName) screen.report := by
  refine congrArg ScreenInventory.mk ?_
  change upsert _ (remoteUpdate device deviceName screen.report)
    (screen.report.entry device deviceName false) base.screens = _
  exact upsert_eq_put distinct fun _ _ => decide_eq_true_iff

/-- Putting entries offline changes neither what they are about nor whose they are. -/
theorem ScreenInventory.Owned.contained_cleared (owned : inventory.Owned) :
    Contained device inventory (inventory.cleared device thisDevice) :=
  owned.contained_onDevice fun _ => rfl

theorem mergeLocalInventory_eq (distinct : inventory.DistinctScreens) (owned : inventory.Owned)
    (screens : List DetectedScreen) :
    mergeLocalInventory inventory deviceName device screens =
      inventory.merge device deviceName true (localUpdate deviceName)
        (screens.map DetectedScreen.report) := by
  have cleared : Contained device inventory (inventory.cleared device true) :=
    owned.contained_cleared
  exact (localUpdate_updates device deviceName).foldl_eq_enter mergeLocalScreen_eq
    (cleared.distinct distinct) cleared.owned screens

theorem mergeRemoteInventory_eq (distinct : inventory.DistinctScreens) (owned : inventory.Owned)
    (peer : PeerSummary) (screens : ReportedScreens) :
    mergeRemoteInventory inventory peer screens =
      inventory.merge peer.deviceId peer.displayName false
        (remoteUpdate peer.deviceId peer.displayName)
        (screens.screens.map WireScreenDescriptor.report) := by
  have cleared : Contained peer.deviceId inventory (inventory.cleared peer.deviceId false) :=
    owned.contained_cleared
  exact (remoteUpdate_updates peer.deviceId peer.displayName).foldl_eq_enter mergeRemoteScreen_eq
    (cleared.distinct distinct) cleared.owned screens.screens

/-! ## The merged inventory -/

/-- A listed entry as it is put offline for the merge. -/
theorem mem_cleared (member : screen ∈ inventory.screens)
    (own : screen.deviceId = device.topologyId) :
    screen.offline thisDevice ∈ (inventory.cleared device thisDevice).screens :=
  List.mem_map.mpr ⟨screen, member, if_pos own⟩

theorem eq_of_mem_cleared (member : screen ∈ (inventory.cleared device thisDevice).screens)
    (own : screen.deviceId = device.topologyId) :
    screen.offline thisDevice = screen := by
  obtain ⟨old, _, rfl⟩ := List.mem_map.mp member
  split_ifs at own ⊢
  · rfl
  · contradiction

@[simp]
theorem map_screenId_cleared :
    (inventory.cleared device thisDevice).screens.map ScreenDescriptor.screenId =
      inventory.screens.map ScreenDescriptor.screenId := by
  have keeps : ∀ screen : ScreenDescriptor,
      (screen.offline thisDevice).identity = screen.identity := fun _ => rfl
  have same : (inventory.cleared device thisDevice).screens.map ScreenDescriptor.identity =
      inventory.screens.map ScreenDescriptor.identity := identity_onDevice keeps device.topologyId
  have ids := congrArg (List.map Prod.fst) same
  rwa [List.map_map, List.map_map] at ids

/-- A merge keeps the ids distinct and the entries with their devices. -/
theorem Updates.merge_keeps (updates : Updates device deviceName thisDevice update)
    (distinct : inventory.DistinctScreens) (owned : inventory.Owned)
    (reports : List ScreenReport) :
    (inventory.merge device deviceName thisDevice update reports).DistinctScreens ∧
      (inventory.merge device deviceName thisDevice update reports).Owned := by
  have entered : ∀ base : ScreenInventory, base.DistinctScreens → base.Owned →
      (reports.foldl (enter device deviceName thisDevice update) base).DistinctScreens ∧
        (reports.foldl (enter device deviceName thisDevice update) base).Owned := by
    induction reports with
    | nil => exact fun base distinct owned => ⟨distinct, owned⟩
    | cons report rest induction =>
        intro base distinct owned
        exact induction _ (updates.distinct_enter distinct) (updates.owned_enter owned)
  have cleared : Contained device inventory (inventory.cleared device thisDevice) :=
    owned.contained_cleared
  exact entered _ (cleared.distinct distinct) cleared.owned

/-- What a merge makes of the entries: those of reported screens updated where they stand, and new
ones behind. -/
theorem Updates.merge_screens (updates : Updates device deviceName thisDevice update)
    (reported : Keyed.Distinct ScreenReport.stableId reports) :
    (inventory.merge device deviceName thisDevice update reports).screens =
      (inventory.cleared device thisDevice).screens.map (Keyed.refresh ScreenDescriptor.screenId
          (ScreenReport.key device) update reports) ++
        (reports.filter fun report =>
          report.key device ∉ inventory.screens.map ScreenDescriptor.screenId).map
            (ScreenReport.entry device deviceName thisDevice) := by
  have screens : ∀ base : ScreenInventory,
      (reports.foldl (enter device deviceName thisDevice update) base).screens =
        reports.foldl (Keyed.put ScreenDescriptor.screenId (ScreenReport.key device) update
          (ScreenReport.entry device deviceName thisDevice)) base.screens :=
    fun base => (List.foldl_hom ScreenInventory.screens fun _ _ => rfl).symm
  rw [merge, screens, Keyed.foldl_put updates.respects (ScreenReport.distinct_key reported),
    map_screenId_cleared]

section Merged

variable (updates : Updates device deviceName thisDevice update)
  (distinct : inventory.DistinctScreens) (owned : inventory.Owned)
  (reported : Keyed.Distinct ScreenReport.stableId reports)

include updates owned reported

/-- The entry of a listed screen in the merged inventory. -/
theorem Updates.mem_merge_of_reported (member : report ∈ reports)
    (listed : screen ∈ inventory.screens) (same : screen.screenId = report.key device) :
    update report (screen.offline thisDevice) ∈
      (inventory.merge device deviceName thisDevice update reports).screens := by
  have cleared : screen.offline thisDevice ∈ (inventory.cleared device thisDevice).screens :=
    mem_cleared listed ((owned screen listed).deviceId_eq same)
  rw [updates.merge_screens reported]
  refine List.mem_append_left _ (List.mem_map.mpr ⟨_, cleared, ?_⟩)
  exact Keyed.refresh_of_reported (ScreenReport.distinct_key reported) member same.symm

omit owned in
theorem Updates.mem_merge_of_unlisted (member : report ∈ reports)
    (unlisted : report.key device ∉ inventory.screens.map ScreenDescriptor.screenId) :
    report.entry device deviceName thisDevice ∈
      (inventory.merge device deviceName thisDevice update reports).screens := by
  rw [updates.merge_screens reported]
  exact List.mem_append_right _ (List.mem_map_of_mem
    (List.mem_filter.mpr ⟨member, decide_eq_true unlisted⟩))

omit owned in
/-- The entry of a screen that is not reported only goes offline. -/
theorem Updates.mem_merge_of_unreported (listed : screen ∈ inventory.screens)
    (own : screen.deviceId = device.topologyId)
    (unreported : screen.screenId ∉ reports.map (ScreenReport.key device)) :
    screen.offline thisDevice ∈
      (inventory.merge device deviceName thisDevice update reports).screens := by
  rw [updates.merge_screens reported]
  refine List.mem_append_left _ (List.mem_map.mpr ⟨_, mem_cleared listed own, ?_⟩)
  exact Keyed.refresh_of_unreported unreported

omit owned in
theorem Updates.eq_of_unreported
    (member : screen ∈ (inventory.merge device deviceName thisDevice update reports).screens)
    (own : screen.deviceId = device.topologyId)
    (unreported : screen.screenId ∉ reports.map (ScreenReport.key device)) :
    screen.offline thisDevice = screen := by
  rw [updates.merge_screens reported] at member
  rcases List.mem_append.mp member with old | new
  · obtain ⟨before, cleared, rfl⟩ := List.mem_map.mp old
    rw [updates.respects.key_refresh] at unreported
    rw [Keyed.refresh_of_unreported unreported] at own ⊢
    exact eq_of_mem_cleared cleared own
  · obtain ⟨report, selected, rfl⟩ := List.mem_map.mp new
    exact absurd (List.mem_map_of_mem (List.mem_filter.mp selected).1) unreported

/-- Every reported screen is listed after the merge. -/
theorem Updates.key_mem_merge (member : report ∈ reports) :
    report.key device ∈ (inventory.merge device deviceName thisDevice update reports).screens.map
      ScreenDescriptor.screenId := by
  by_cases listed : report.key device ∈ inventory.screens.map ScreenDescriptor.screenId
  · obtain ⟨screen, there, same⟩ := List.mem_map.mp listed
    exact List.mem_map.mpr ⟨_, updates.mem_merge_of_reported owned reported member there same,
      (updates.screenId _ _).trans same⟩
  · exact List.mem_map.mpr ⟨_, updates.mem_merge_of_unlisted reported member listed, rfl⟩

include distinct

/-- The entry that mirrors a report is listed exactly when updating makes that of the entry
before. -/
theorem Updates.entry_mem_merge_iff (member : report ∈ reports) :
    report.entry device deviceName thisDevice ∈
        (inventory.merge device deviceName thisDevice update reports).screens ↔
      ∀ screen ∈ inventory.screens, screen.screenId = report.key device →
        update report (screen.offline thisDevice) =
          report.entry device deviceName thisDevice := by
  constructor
  · intro mirrored screen listed same
    exact (updates.merge_keeps distinct owned reports).1.eq_of_key
      (updates.mem_merge_of_reported owned reported member listed same) mirrored
      ((updates.screenId _ _).trans same)
  · intro updated
    by_cases listed : report.key device ∈ inventory.screens.map ScreenDescriptor.screenId
    · obtain ⟨screen, there, same⟩ := List.mem_map.mp listed
      rw [← updated screen there same]
      exact updates.mem_merge_of_reported owned reported member there same
    · exact updates.mem_merge_of_unlisted reported member listed

/-- The entry of a reported screen is what an update makes of it once it was put offline. -/
theorem Updates.update_of_reported (member : report ∈ reports)
    (listed : screen ∈ (inventory.merge device deviceName thisDevice update reports).screens)
    (same : screen.screenId = report.key device) :
    update report (screen.offline thisDevice) = screen := by
  have mergedDistinct := (updates.merge_keeps distinct owned reports).1
  by_cases known : report.key device ∈ inventory.screens.map ScreenDescriptor.screenId
  · obtain ⟨old, there, sameOld⟩ := List.mem_map.mp known
    have updated := updates.mem_merge_of_reported owned reported member there sameOld
    have key : (update report (old.offline thisDevice)).screenId = report.key device :=
      (updates.screenId report _).trans sameOld
    have sameScreen : update report (old.offline thisDevice) = screen :=
      mergedDistinct.eq_of_key updated listed (key.trans same.symm)
    rw [← sameScreen]
    exact updates.again report _
  · have new := updates.mem_merge_of_unlisted reported member known
    obtain rfl := mergedDistinct.eq_of_key new listed same.symm
    exact updates.entry report

/-- Merging the same reports again changes nothing. -/
theorem Updates.merge_merge :
    (inventory.merge device deviceName thisDevice update reports).merge device deviceName thisDevice
      update reports = inventory.merge device deviceName thisDevice update reports := by
  have mergedOwned := (updates.merge_keeps distinct owned reports).2
  have appended : reports.filter (fun report => report.key device ∉
      (inventory.merge device deviceName thisDevice update reports).screens.map
        ScreenDescriptor.screenId) = [] := by
    refine List.filter_eq_nil_iff.mpr fun report member unlisted => ?_
    exact of_decide_eq_true unlisted (updates.key_mem_merge owned reported member)
  have refreshed : ∀ screen ∈ (inventory.merge device deviceName thisDevice update reports).screens,
      Keyed.refresh ScreenDescriptor.screenId (ScreenReport.key device) update reports
        (if screen.deviceId = device.topologyId then
          screen.offline thisDevice else screen) = screen := by
    intro screen listed
    by_cases mentioned : screen.screenId ∈ reports.map (ScreenReport.key device)
    · obtain ⟨report, member, same⟩ := List.mem_map.mp mentioned
      rw [if_pos ((mergedOwned screen listed).deviceId_eq same.symm)]
      have updated : Keyed.refresh ScreenDescriptor.screenId (ScreenReport.key device) update
          reports (screen.offline thisDevice) = update report (screen.offline thisDevice) :=
        Keyed.refresh_of_reported (ScreenReport.distinct_key reported) member same
      rw [updated]
      exact updates.update_of_reported distinct owned reported member listed same.symm
    · split_ifs with own
      · rw [updates.eq_of_unreported reported listed own mentioned]
        exact Keyed.refresh_of_unreported mentioned
      · exact Keyed.refresh_of_unreported mentioned
  let merged := inventory.merge device deviceName thisDevice update reports
  have screens : (merged.merge device deviceName thisDevice update reports).screens = _ :=
    updates.merge_screens reported
  rw [appended, List.map_nil, List.append_nil, cleared, onDevice, List.map_map] at screens
  exact congrArg ScreenInventory.mk
    (screens.trans ((List.map_congr_left refreshed).trans (List.map_id _)))

end Merged

/-! ## Mirroring a report -/

/-- A merge mirrors the report of a device: the inventory is valid, each reported screen has the one
entry that the report says, the device's other entries are kept but offline, and merging again
changes nothing. -/
structure MirrorsReport (merge : ScreenInventory → ScreenInventory) (inventory : ScreenInventory)
    (device : DeviceId) (deviceName : String) (thisDevice : Bool) (reports : List ScreenReport) :
    Prop where
  valid : (merge inventory).validate = .ok ()
  reported : ∀ report ∈ reports,
    (merge inventory).screens.filter (fun screen => screen.screenId = report.key device) =
      [report.entry device deviceName thisDevice]
  kept : ∀ screen ∈ inventory.screensOf device,
    screen.screenId ∉ reports.map (ScreenReport.key device) →
      screen.offline thisDevice ∈ (merge inventory).screens
  offline : ∀ screen ∈ (merge inventory).screensOf device,
    screen.screenId ∉ reports.map (ScreenReport.key device) → screen.online = false
  again : merge (merge inventory) = merge inventory

/-- A merge mirrors a report exactly when its update of each listed entry writes what was
reported. -/
theorem Updates.mirrors_iff (updates : Updates device deviceName thisDevice update)
    (distinct : inventory.DistinctScreens) (owned : inventory.Owned)
    (reported : Keyed.Distinct ScreenReport.stableId reports) :
    MirrorsReport (fun inventory => inventory.merge device deviceName thisDevice update reports)
        inventory device deviceName thisDevice reports ↔
      ∀ report ∈ reports, ∀ screen ∈ inventory.screens, screen.screenId = report.key device →
        update report (screen.offline thisDevice) = report.entry device deviceName thisDevice := by
  obtain ⟨mergedDistinct, mergedOwned⟩ := updates.merge_keeps distinct owned reports
  have single : ∀ report : ScreenReport,
      (inventory.merge device deviceName thisDevice update reports).screens.filter
          (fun screen => screen.screenId = report.key device) =
            [report.entry device deviceName thisDevice] ↔
        report.entry device deviceName thisDevice ∈
          (inventory.merge device deviceName thisDevice update reports).screens := by
    intro report
    have key : (report.entry device deviceName thisDevice).screenId = report.key device := rfl
    rw [← key]
    exact mergedDistinct.filter_key_iff
  have own : ∀ {inventory : ScreenInventory} {screen : ScreenDescriptor},
      screen ∈ inventory.screensOf device →
        screen ∈ inventory.screens ∧ screen.deviceId = device.topologyId := by
    intro inventory screen member
    simpa [screensOf] using member
  constructor
  · intro mirrors report member
    exact (updates.entry_mem_merge_iff distinct owned reported member).mp
      ((single report).mp (mirrors.reported report member))
  · intro updated
    refine ⟨mergedOwned.validate_eq_ok_iff.mpr mergedDistinct, fun report member => ?_,
      fun screen member unreported => ?_, fun screen member unreported => ?_,
      updates.merge_merge distinct owned reported⟩
    · exact (single report).mpr ((updates.entry_mem_merge_iff distinct owned reported member).mpr
        (updated report member))
    · obtain ⟨listed, ours⟩ := own member
      exact updates.mem_merge_of_unreported reported listed ours unreported
    · obtain ⟨listed, ours⟩ := own member
      have same := updates.eq_of_unreported reported listed ours unreported
      exact (congrArg ScreenDescriptor.online same).symm

/-- On the inventories of a merge, one that agrees with it mirrors the same reports. -/
theorem MirrorsReport.congr {merge other : ScreenInventory → ScreenInventory}
    (same : merge inventory = other inventory)
    (sameAgain : merge (merge inventory) = other (other inventory)) :
    MirrorsReport merge inventory device deviceName thisDevice reports ↔
      MirrorsReport other inventory device deviceName thisDevice reports := by
  constructor
  · intro mirrors
    exact ⟨same ▸ mirrors.valid, same ▸ mirrors.reported, same ▸ mirrors.kept,
      same ▸ mirrors.offline, sameAgain.symm.trans (mirrors.again.trans same)⟩
  · intro mirrors
    exact ⟨same ▸ mirrors.valid, same ▸ mirrors.reported, same ▸ mirrors.kept,
      same ▸ mirrors.offline, sameAgain.trans (mirrors.again.trans same.symm)⟩

theorem localUpdate_eq_entry_iff (same : screen.screenId = report.key device)
    (own : screen.deviceId = device.topologyId) :
    localUpdate deviceName report (screen.offline true) = report.entry device deviceName true ↔
      screen.primary = report.primary := by
  simp [localUpdate, ScreenDescriptor.offline, ScreenReport.entry, same, own]

theorem remoteUpdate_eq_entry (same : screen.screenId = report.key device) :
    remoteUpdate device deviceName report (screen.offline false) =
      report.entry device deviceName false := by
  simp [remoteUpdate, ScreenDescriptor.offline, ScreenReport.entry, same]

/-- The merge for a peer mirrors the report.  The one for this device does exactly when every listed
entry of a reported screen already has the primary flag that is reported. -/
theorem merges_mirror_iff (valid : inventory.validate = .ok ()) (owned : inventory.Owned)
    (peer : PeerSummary) (report : ReportedScreens) (device : DeviceId) (deviceName : String)
    {screens : List DetectedScreen} (distinct : (screens.map DetectedScreen.stableId).Nodup) :
    MirrorsReport (fun inventory => mergeRemoteInventory inventory peer report) inventory
        peer.deviceId peer.displayName false (report.screens.map WireScreenDescriptor.report) ∧
      (MirrorsReport (fun inventory => mergeLocalInventory inventory deviceName device screens)
          inventory device deviceName true (screens.map DetectedScreen.report) ↔
        ∀ screen ∈ screens, ∀ listed ∈ inventory.screens,
          listed.screenId = .ofDevice device.topologyId screen.stableId →
            listed.primary = screen.primary) := by
  have distinctScreens := owned.validate_eq_ok_iff.mp valid
  constructor
  · have updates := remoteUpdate_updates peer.deviceId peer.displayName
    have reported : Keyed.Distinct ScreenReport.stableId
        (report.screens.map WireScreenDescriptor.report) := by
      rw [Keyed.Distinct, List.map_map]
      exact report.accepted.distinct
    have merged := mergeRemoteInventory_eq distinctScreens owned peer report
    obtain ⟨mergedDistinct, mergedOwned⟩ := updates.merge_keeps distinctScreens owned
      (report.screens.map WireScreenDescriptor.report)
    refine (MirrorsReport.congr merged ?_).mpr
      ((updates.mirrors_iff distinctScreens owned reported).mpr
        fun _ _ _ _ same => remoteUpdate_eq_entry same)
    rw [merged]
    exact mergeRemoteInventory_eq mergedDistinct mergedOwned peer report
  · have updates := localUpdate_updates device deviceName
    have reported : Keyed.Distinct ScreenReport.stableId (screens.map DetectedScreen.report) := by
      rw [Keyed.Distinct, List.map_map]
      exact distinct
    have merged : mergeLocalInventory inventory deviceName device screens = _ :=
      mergeLocalInventory_eq distinctScreens owned screens
    obtain ⟨mergedDistinct, mergedOwned⟩ := updates.merge_keeps distinctScreens owned
      (screens.map DetectedScreen.report)
    refine (MirrorsReport.congr merged ?_).trans
      ((updates.mirrors_iff distinctScreens owned reported).trans ?_)
    · rw [merged]
      exact mergeLocalInventory_eq mergedDistinct mergedOwned screens
    · rw [List.forall_mem_map]
      refine forall₂_congr fun screen _ => forall₃_congr fun listed member same => ?_
      exact localUpdate_eq_entry_iff same ((owned listed member).deviceId_eq same)

def mirroredDevice : DeviceId := ⟨List.replicate 32 12, List.length_replicate⟩

/-- The only screen of the device, as it is listed. -/
def listedScreen : ScreenReport where
  stableId := "1"
  name := "A"
  logicalSize := { width := 1920, height := 1080 }
  primary := true

/-- The same screen as it is found now. -/
def foundScreen (primary : Bool) : DetectedScreen where
  stableId := "1"
  name := "A"
  logicalSize := { width := 1920, height := 1080 }
  x := 0
  y := 0
  primary := primary

/-- The sample device lists its screen as the primary one and reports that it no longer is. -/
theorem local_merge_keeps_primary :
    ScreenInventory.validate { screens := [listedScreen.entry mirroredDevice "host" true] } =
        .ok () ∧
      Owned { screens := [listedScreen.entry mirroredDevice "host" true] } ∧
      (mergeLocalInventory { screens := [listedScreen.entry mirroredDevice "host" true] } "host"
        mirroredDevice [foundScreen false]).screens =
          [listedScreen.entry mirroredDevice "host" true] ∧
      ¬ MirrorsReport
        (fun inventory => mergeLocalInventory inventory "host" mirroredDevice [foundScreen false])
        { screens := [listedScreen.entry mirroredDevice "host" true] } mirroredDevice "host" true
        [(foundScreen false).report] := by
  have owned : Owned { screens := [listedScreen.entry mirroredDevice "host" true] } := by
    intro other member
    obtain rfl := List.mem_singleton.mp member
    exact listedScreen.entry_owned
  have merged : (mergeLocalInventory
      { screens := [listedScreen.entry mirroredDevice "host" true] } "host" mirroredDevice
        [foundScreen false]).screens = [listedScreen.entry mirroredDevice "host" true] := by
    simp [mergeLocalInventory, mergeLocalScreen, onDevice, upsert, ScreenReport.entry,
      ScreenReport.key, listedScreen, foundScreen]
  refine ⟨owned.validate_eq_ok_iff.mpr (List.nodup_singleton _), owned, merged, fun mirrors => ?_⟩
  have one := mirrors.reported (foundScreen false).report List.mem_cons_self
  rw [merged] at one
  have primary := congrArg (List.map ScreenDescriptor.primary) one
  simp [ScreenReport.entry, ScreenReport.key, DetectedScreen.report, listedScreen,
    foundScreen] at primary

/-- The report of one screen. -/
def singleReport : ReportedScreens where
  screens := [{ stableId := "1", name := "A", width := 1920, height := 1080, primary := true }]
  accepted := ⟨by simp, by simp, by simp; decide, by simp, by simp⟩

theorem merges_mirror_iff_unlisted :
    MirrorsReport
        (fun inventory => mergeRemoteInventory inventory
          { deviceId := mirroredDevice, displayName := "host" } singleReport)
        { screens := [] } mirroredDevice "host" false [(foundScreen true).report] ∧
      MirrorsReport
        (fun inventory => mergeLocalInventory inventory "host" mirroredDevice [foundScreen true])
        { screens := [] } mirroredDevice "host" true [(foundScreen true).report] := by
  have owned : Owned { screens := [] } := fun _ member => absurd member List.not_mem_nil
  have distinct : ([foundScreen true].map DetectedScreen.stableId).Nodup := List.nodup_singleton _
  obtain ⟨remote, mirrored⟩ := merges_mirror_iff (owned.validate_eq_ok_iff.mpr List.nodup_nil) owned
    { deviceId := mirroredDevice, displayName := "host" } singleReport mirroredDevice "host"
    distinct
  exact ⟨remote, mirrored.mpr fun _ _ _ member => absurd member List.not_mem_nil⟩

end Merge
end Rflow
