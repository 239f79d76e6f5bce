import Rflow.Core.Validation
import Rflow.Foundation.Machine

/-!
# Layouts reached by edits

From the default layout, commands lead to sound layouts exactly when no replacement joins a screen
to itself and no size override is empty: `ScreenLayout.validate` leaves these two checks out, while
`ScreenLayout.link` makes the first one.
-/

namespace Rflow

open Foundation

/-! ## Calls that return -/

theorem checkScreenIds_returns {ε : Type} {blank : ε} {duplicate : ScreenId → ε}
    {seen ids : List ScreenId} : (checkScreenIds blank duplicate seen ids).Returns := by
  induction ids generalizing seen with
  | nil => exact Outcome.returns_ok
  | cons id rest induction =>
      simp only [checkScreenIds]
      split_ifs
      · exact Outcome.returns_err
      · exact Outcome.returns_err
      · exact induction

namespace ScreenLayout

variable {layout next : ScreenLayout} {inventory : ScreenInventory}

theorem checkLinks_returns {occupied : List ScreenEdge} {links : List ScreenLink} :
    (checkLinks inventory occupied links).Returns := by
  have checkEndpoint_returns (occupied : List ScreenEdge) (endpoint : ScreenEdge) :
      (checkEndpoint inventory occupied endpoint).Returns := by
    unfold checkEndpoint
    split_ifs <;> simp
  induction links generalizing occupied with
  | nil => exact Outcome.returns_ok
  | cons link rest induction =>
      refine (checkEndpoint_returns _ _).bind fun _ _ =>
          (checkEndpoint_returns _ _).bind fun _ _ => ?_
      split_ifs
      · exact Outcome.returns_err
      · exact induction

theorem checkOverrides_returns {overridden : List ScreenId} {values : List ScreenSizeOverride} :
    (checkOverrides inventory overridden values).Returns := by
  induction values generalizing overridden with
  | nil => exact Outcome.returns_ok
  | cons value rest induction =>
      simp only [checkOverrides]
      split_ifs
      · exact Outcome.returns_err
      · exact Outcome.returns_err
      · exact induction

theorem validate_returns (layout : ScreenLayout) (inventory : ScreenInventory) :
    (layout.validate inventory).Returns :=
  Outcome.returns_require.bind fun _ _ => checkScreenIds_returns.bind fun _ _ =>
    checkLinks_returns.bind fun _ _ => checkOverrides_returns

theorem link_returns {fromEdge toEdge : ScreenEdge} {replace : Bool} :
    (layout.link inventory fromEdge toEdge replace).Returns := by
  simp only [link]
  split_ifs <;> try exact Outcome.returns_err
  all_goals split <;> simp

theorem apply_returns (layout : ScreenLayout) (inventory : ScreenInventory)
    (command : LayoutCommand) : (layout.apply inventory command).Returns := by
  have finish (edited : ScreenLayout) : (do
      let next := { edited with revision := saturatingSucc layout.revision }
      next.validate inventory
      pure next).Returns :=
    (validate_returns _ _).bind fun _ _ => Outcome.returns_ok
  refine (validate_returns layout inventory).bind fun _ _ => ?_
  cases command with
  | place screenId anchorId position replace => exact link_returns.bind fun _ _ => finish _
  | link => exact link_returns.bind fun _ _ => finish _
  | unlink =>
      dsimp only
      split_ifs
      · exact Outcome.returns_err
      · exact finish _
  | unplace =>
      dsimp only
      split_ifs
      · exact Outcome.returns_err
      · exact finish _
  | setSizeOverride =>
      dsimp only
      split_ifs
      · exact Outcome.returns_err
      · exact finish _
  | replace => exact finish _

/-! ## What a command does -/

@[simp]
theorem wellFormed_revision {revision : Nat} :
    { layout with revision }.WellFormed inventory ↔ layout.WellFormed inventory :=
  ⟨fun ⟨schema, ids, links, known, distinct⟩ => ⟨schema, ids, links, known, distinct⟩,
    fun ⟨schema, ids, links, known, distinct⟩ => ⟨schema, ids, links, known, distinct⟩⟩

/-- What a command makes of the links and overrides of a layout. -/
inductive Edits (layout : ScreenLayout) (inventory : ScreenInventory) :
    LayoutCommand → ScreenLayout → Prop
  | place {screenId anchorId : ScreenId} {position : RelativePosition} {replace : Bool}
      {edited : ScreenLayout}
      (linked : layout.link inventory { screenId := anchorId, edge := (placementEdges position).1 }
        { screenId, edge := (placementEdges position).2 } replace = .ok edited) :
      Edits layout inventory (.place screenId anchorId position replace) edited
  | link {fromEdge toEdge : ScreenEdge} {replace : Bool} {edited : ScreenLayout}
      (linked : layout.link inventory fromEdge toEdge replace = .ok edited) :
      Edits layout inventory (.link fromEdge toEdge replace) edited
  | unlink {edge : ScreenEdge} (known : inventory.contains edge.screenId = true) :
      Edits layout inventory (.unlink edge)
        { layout with
          links := layout.links.filter fun link => link.fromEdge ≠ edge ∧ link.toEdge ≠ edge }
  | unplace {screenId : ScreenId} (known : inventory.contains screenId = true) :
      Edits layout inventory (.unplace screenId)
        { layout with links := layout.links.filter fun link => !link.touches screenId }
  | setSizeOverride {screenId : ScreenId} {size : Option ScreenSize}
      (known : inventory.contains screenId = true) :
      Edits layout inventory (.setSizeOverride screenId size)
        { layout with
          sizeOverrides := (layout.sizeOverrides.filter fun entry => entry.screenId ≠ screenId) ++
            (size.map fun size => { screenId, size }).toList }
  | replace {replacement : ScreenLayout} : Edits layout inventory (.replace replacement) replacement

/-- A command succeeds when what it makes of a valid layout is valid. -/
theorem apply_eq_ok {command : LayoutCommand} :
    layout.apply inventory command = .ok next ↔
      layout.WellFormed inventory ∧ ∃ edited, layout.Edits inventory command edited ∧
        edited.WellFormed inventory ∧
        next = { edited with revision := saturatingSucc layout.revision } := by
  have finish_eq_ok {edited : ScreenLayout} : (do
      let next := { edited with revision := saturatingSucc layout.revision }
      next.validate inventory
      pure next) = .ok next ↔
        edited.WellFormed inventory ∧
          next = { edited with revision := saturatingSucc layout.revision } := by
    simp only [Outcome.check_bind_eq_ok, validate_eq_ok, wellFormed_revision, Outcome.pure_eq,
      Outcome.ok.injEq]
    exact and_congr_right fun _ => eq_comm
  rw [apply, Outcome.check_bind_eq_ok, validate_eq_ok]
  refine and_congr_right fun _ => ?_
  constructor
  · intro applied
    cases command with
    | place screenId anchorId position replace =>
        obtain ⟨edited, linked, finished⟩ := Outcome.bind_eq_ok.mp applied
        exact ⟨edited, .place linked, finish_eq_ok.mp finished⟩
    | link fromEdge toEdge replace =>
        obtain ⟨edited, linked, finished⟩ := Outcome.bind_eq_ok.mp applied
        exact ⟨edited, .link linked, finish_eq_ok.mp finished⟩
    | unlink edge =>
        dsimp only at applied
        split_ifs at applied with unknown
        exact ⟨_, .unlink (by simpa using unknown), finish_eq_ok.mp applied⟩
    | unplace screenId =>
        dsimp only at applied
        split_ifs at applied with unknown
        exact ⟨_, .unplace (by simpa using unknown), finish_eq_ok.mp applied⟩
    | setSizeOverride screenId size =>
        dsimp only at applied
        split_ifs at applied with unknown
        exact ⟨_, .setSizeOverride (by simpa using unknown), finish_eq_ok.mp applied⟩
    | replace replacement => exact ⟨replacement, .replace, finish_eq_ok.mp applied⟩
  · rintro ⟨edited, edits, finished⟩
    have finished := finish_eq_ok.mpr finished
    cases edits with
    | place linked => exact Outcome.bind_eq_ok.mpr ⟨edited, linked, finished⟩
    | link linked => exact Outcome.bind_eq_ok.mpr ⟨edited, linked, finished⟩
    | unlink known => exact (if_neg (Bool.not_eq_false _ ▸ known)).trans finished
    | unplace known => exact (if_neg (Bool.not_eq_false _ ▸ known)).trans finished
    | setSizeOverride known => exact (if_neg (Bool.not_eq_false _ ▸ known)).trans finished
    | replace => exact finished

/-! ## What commands keep -/

/-- No link joins a screen to itself, and the size overrides are positive. -/
structure Tidy (layout : ScreenLayout) : Prop where
  loopless : ∀ link ∈ layout.links, link.fromEdge.screenId ≠ link.toEdge.screenId
  positive : ∀ value ∈ layout.sizeOverrides, value.size.Positive

/-- A well-formed layout: links join known, different screens by facing edges, each edge in one link
at most, and each screen has one size override at most, a positive one. -/
structure Sound (layout : ScreenLayout) (inventory : ScreenInventory) : Prop where
  links : LinksWellFormed (· ∈ inventory.screens.map ScreenDescriptor.screenId) layout.links
  loopless : ∀ link ∈ layout.links, link.fromEdge.screenId ≠ link.toEdge.screenId
  overridesDistinct : (layout.sizeOverrides.map ScreenSizeOverride.screenId).Nodup
  overridesPositive : ∀ value ∈ layout.sizeOverrides, value.size.Positive

/-- What validation leaves to be checked. -/
theorem WellFormed.sound_iff (wellFormed : layout.WellFormed inventory) :
    layout.Sound inventory ↔ layout.Tidy :=
  ⟨fun sound => ⟨sound.loopless, sound.overridesPositive⟩, fun tidy =>
    ⟨wellFormed.links, tidy.loopless, wellFormed.overridesDistinct, tidy.positive⟩⟩

@[simp]
theorem tidy_revision {revision : Nat} : { layout with revision }.Tidy ↔ layout.Tidy :=
  ⟨fun ⟨loopless, positive⟩ => ⟨loopless, positive⟩,
    fun ⟨loopless, positive⟩ => ⟨loopless, positive⟩⟩

theorem wellFormed_default (valid : inventory.validate = .ok ()) :
    (default : ScreenLayout).WellFormed inventory :=
  ⟨rfl, ScreenInventory.validate_eq_ok.mp valid, linksWellFormed_nil _, by simp [default],
    by simp [default]⟩

theorem tidy_default : (default : ScreenLayout).Tidy := ⟨by simp [default], by simp [default]⟩

/-- Fewer links are as tidy. -/
theorem Tidy.filter (tidy : layout.Tidy) (kept : ScreenLink → Bool) :
    { layout with links := layout.links.filter kept }.Tidy :=
  ⟨fun link member => tidy.loopless link (List.mem_of_mem_filter member), tidy.positive⟩

theorem Tidy.link {fromEdge toEdge : ScreenEdge} {replace : Bool} (tidy : layout.Tidy)
    (linked : layout.link inventory fromEdge toEdge replace = .ok next) : next.Tidy := by
  simp only [ScreenLayout.link] at linked
  split_ifs at linked with _ _ same
  all_goals
    split at linked
    · cases linked
    · obtain rfl := Outcome.ok.inj linked
      refine ⟨fun link member => ?_, tidy.positive⟩
      rcases List.mem_append.mp member with old | added
      · exact tidy.loopless link (List.mem_of_mem_filter old)
      · obtain rfl := List.mem_singleton.mp added
        exact same

/-- An override that replaces those of its screen is valid. -/
theorem WellFormed.override {screenId : ScreenId} {size : ScreenSize}
    (wellFormed : layout.WellFormed inventory) (known : inventory.contains screenId = true) :
    ({ layout with
      sizeOverrides := (layout.sizeOverrides.filter fun entry => entry.screenId ≠ screenId) ++
        [{ screenId, size }] } : ScreenLayout).WellFormed inventory := by
  refine ⟨wellFormed.schema, wellFormed.ids, wellFormed.links, fun value member => ?_, ?_⟩
  · rcases List.mem_append.mp member with old | added
    · exact wellFormed.overridesKnown value (List.mem_of_mem_filter old)
    · obtain rfl := List.mem_singleton.mp added
      exact ScreenInventory.contains_iff.mp known
  · rw [List.map_append, List.nodup_append]
    refine ⟨wellFormed.overridesDistinct.sublist (List.filter_sublist.map _), by simp, ?_⟩
    intro other old _ added
    obtain ⟨value, kept, rfl⟩ := List.mem_map.mp old
    obtain rfl : _ = screenId := by simpa using added
    simpa using (List.mem_filter.mp kept).2

end ScreenLayout

/-- A command that would be carried out does not make an empty override or a looping link. -/
def LayoutCommand.Careful (inventory : ScreenInventory) : LayoutCommand → Prop
  | .setSizeOverride screenId (some size) => inventory.contains screenId = true → size.Positive
  | .replace replacement => replacement.validate inventory = .ok () → replacement.Tidy
  | .setSizeOverride _ none | .place .. | .link .. | .unlink _ | .unplace _ => True

namespace ScreenLayout

variable {layout next : ScreenLayout} {inventory : ScreenInventory} {command : LayoutCommand}

/-- A careless command is carried out on every valid layout. -/
theorem careful_of_apply_err {error : LayoutError} (wellFormed : layout.WellFormed inventory)
    (refused : layout.apply inventory command = .err error) : command.Careful inventory := by
  have carried {edited : ScreenLayout} (edits : layout.Edits inventory command edited)
      (valid : edited.WellFormed inventory) : False := by
    cases refused.symm.trans (apply_eq_ok.mpr ⟨wellFormed, edited, edits, valid, rfl⟩)
  cases command with
  | place | link | unlink | unplace => trivial
  | setSizeOverride screenId size =>
      cases size with
      | none => trivial
      | some size =>
          exact fun known => (carried (.setSizeOverride known) (wellFormed.override known)).elim
  | replace replacement => exact fun valid => (carried .replace (validate_eq_ok.mp valid)).elim

/-- From a tidy layout exactly the careful commands lead to a tidy one. -/
theorem Tidy.edits_iff {edited : ScreenLayout} (tidy : layout.Tidy)
    (edits : layout.Edits inventory command edited) (valid : edited.WellFormed inventory) :
    edited.Tidy ↔ command.Careful inventory := by
  cases edits with
  | place linked => exact iff_of_true (tidy.link linked) trivial
  | link linked => exact iff_of_true (tidy.link linked) trivial
  | unlink => exact iff_of_true (tidy.filter _) trivial
  | unplace => exact iff_of_true (tidy.filter _) trivial
  | @setSizeOverride screenId size known =>
      cases size with
      | none =>
          refine iff_of_true ⟨tidy.loopless, fun value member => ?_⟩ trivial
          rw [Option.map_none, Option.toList_none, List.append_nil] at member
          exact tidy.positive value (List.mem_of_mem_filter member)
      | some size =>
          constructor
          · intro edited _
            exact edited.positive { screenId, size } (List.mem_append_right _ List.mem_cons_self)
          · refine fun careful => ⟨tidy.loopless, fun value member => ?_⟩
            rcases List.mem_append.mp member with old | added
            · exact tidy.positive value (List.mem_of_mem_filter old)
            · obtain rfl := List.mem_singleton.mp added
              exact careful known
  | replace => exact ⟨fun edited _ => edited, fun careful => careful (validate_eq_ok.mpr valid)⟩

/-! ## Whole runs -/

/-- Carry out one command; a refused one leaves the layout as it was. -/
def edit (inventory : ScreenInventory) (layout : ScreenLayout) (command : LayoutCommand) :
    Outcome LayoutError (List LayoutError × ScreenLayout) :=
  match layout.apply inventory command with
  | .ok next => .ok ([], next)
  | .err error => .ok ([error], layout)
  | .panic message => .panic message

theorem edit_eq_ok {errors : List LayoutError}
    (edited : edit inventory layout command = .ok (errors, next)) :
    layout.apply inventory command = .ok next ∨
      ∃ error, layout.apply inventory command = .err error ∧ next = layout := by
  unfold edit at edited
  split at edited
  · rename_i applied
    obtain ⟨_, rfl⟩ := Prod.mk.inj (Outcome.ok.inj edited)
    exact Or.inl applied
  · rename_i error refused
    obtain ⟨_, rfl⟩ := Prod.mk.inj (Outcome.ok.inj edited)
    exact Or.inr ⟨error, refused, rfl⟩
  · cases edited

theorem edit_isOk : (edit inventory layout command).IsOk := by
  have returned := apply_returns layout inventory command
  unfold edit
  split
  · exact ⟨_, rfl⟩
  · exact ⟨_, rfl⟩
  · rename_i message panics
    exact absurd panics (returned message)

/-- Commands keep a layout valid. -/
theorem edit_wellFormed {errors : List LayoutError} (wellFormed : layout.WellFormed inventory)
    (edited : edit inventory layout command = .ok (errors, next)) : next.WellFormed inventory := by
  rcases edit_eq_ok edited with applied | ⟨_, _, rfl⟩
  · obtain ⟨_, result, _, valid, rfl⟩ := apply_eq_ok.mp applied
    rwa [wellFormed_revision]
  · exact wellFormed

/-- Commands keep a layout tidy exactly when they are careful. -/
theorem edit_tidy_iff {errors : List LayoutError} (wellFormed : layout.WellFormed inventory)
    (tidy : layout.Tidy) (edited : edit inventory layout command = .ok (errors, next)) :
    next.Tidy ↔ command.Careful inventory := by
  rcases edit_eq_ok edited with applied | ⟨error, refused, rfl⟩
  · obtain ⟨_, result, edits, valid, rfl⟩ := apply_eq_ok.mp applied
    rw [tidy_revision]
    exact tidy.edits_iff edits valid
  · exact iff_of_true tidy (careful_of_apply_err wellFormed refused)

/-- From the default layout, commands lead to sound layouts throughout exactly when all of them are
careful. -/
theorem reached_sound_iff {commands : List LayoutCommand} (valid : inventory.validate = .ok ()) :
    Machine.Throughout (edit inventory) (Sound · inventory) default commands ↔
      ∀ command ∈ commands, command.Careful inventory := by
  have kept {state next : ScreenLayout} {command : LayoutCommand} {errors : List LayoutError}
      (wellFormed : state.WellFormed inventory) (sound : state.Sound inventory) (_ : True)
      (edited : edit inventory state command = .ok (errors, next)) :
      next.WellFormed inventory ∧ (next.Sound inventory ↔ command.Careful inventory) := by
    have valid := edit_wellFormed wellFormed edited
    have tidy_iff := edit_tidy_iff wellFormed (wellFormed.sound_iff.mp sound) edited
    exact ⟨valid, valid.sound_iff.trans tidy_iff⟩
  have succeeds {state : ScreenLayout} {command : LayoutCommand}
      (_ : state.WellFormed inventory) (_ : True) : (edit inventory state command).IsOk := edit_isOk
  have valid_next {state next : ScreenLayout} {command : LayoutCommand} {errors : List LayoutError}
      (wellFormed : state.WellFormed inventory) (_ : True)
      (edited : edit inventory state command = .ok (errors, next)) : next.WellFormed inventory :=
    edit_wellFormed wellFormed edited
  have start := wellFormed_default valid
  obtain ⟨⟨errors, final⟩, ran⟩ : (Machine.run (edit inventory) default commands).IsOk :=
    Machine.run_isOk succeeds valid_next start fun _ _ => trivial
  have sound := start.sound_iff.mpr tidy_default
  rw [Machine.throughout_iff_along kept start sound (fun _ _ => trivial) ran]
  exact Machine.along_iff_forall ran

end ScreenLayout

/-- A connected screen of the given name and device, one hundred pixels wide and high. -/
def sampleDescriptor (name device : String) (thisDevice : Bool) : ScreenDescriptor where
  screenId := ⟨name⟩
  deviceId := ⟨device⟩
  deviceName := device
  name := name
  logicalSize := { width := 100, height := 100 }
  primary := true
  online := true
  thisDevice := thisDevice

/-- Two screens of two machines. -/
def sampleInventory : ScreenInventory where
  screens := [sampleDescriptor "local" "host" true, sampleDescriptor "remote" "peer" false]

/-- A layout that joins the right edge of the local screen to its left edge. -/
def sampleLoop : ScreenLayout where
  schemaVersion := layoutSchemaVersion
  revision := 0
  links := [{ fromEdge := ⟨⟨"local"⟩, .right⟩, toEdge := ⟨⟨"local"⟩, .left⟩ }]
  sizeOverrides := []

namespace ScreenLayout

theorem reached_sound_beside :
    Machine.Throughout (edit sampleInventory) (Sound · sampleInventory) default
      [.place ⟨"remote"⟩ ⟨"local"⟩ .rightOf false, .setSizeOverride ⟨"remote"⟩ (some ⟨50, 80⟩),
        .unplace ⟨"local"⟩] :=
  (reached_sound_iff (by rfl)).mpr (by simp [LayoutCommand.Careful, ScreenSize.Positive])

/-- An empty override and a looping replacement are both carried out. -/
theorem careless_edits_unsound :
    sampleInventory.validate = .ok () ∧
      (∃ layout, Machine.run (edit sampleInventory) default
          [.setSizeOverride ⟨"local"⟩ (some ⟨0, 100⟩)] = .ok ([], layout) ∧
        ¬ layout.Sound sampleInventory) ∧
      ∃ layout, Machine.run (edit sampleInventory) default
        [.replace sampleLoop] = .ok ([], layout) ∧ ¬ layout.Sound sampleInventory := by
  refine ⟨rfl, ⟨_, rfl, fun sound => ?_⟩, _, rfl, fun sound => ?_⟩
  · have positive := sound.overridesPositive ⟨⟨"local"⟩, ⟨0, 100⟩⟩ (by decide)
    exact absurd positive (by decide)
  · exact sound.loopless ⟨⟨⟨"local"⟩, .right⟩, ⟨⟨"local"⟩, .left⟩⟩ (by decide) rfl

end ScreenLayout
end Rflow
