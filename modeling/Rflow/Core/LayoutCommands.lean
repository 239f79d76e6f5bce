import Rflow.Core.LayoutEdits
import Rflow.Core.Session

/-!
# What a layout command does

A command that edits a valid layout is refused for what it names or joins, and otherwise does what
it says and nothing else.  The validation of the result never refuses anything, because each command
keeps every edge in at most one link.
-/

namespace Rflow

open Foundation

/-! ## Links that use an edge -/

namespace ScreenLink

/-- The link has one of its ends at the edge. -/
def Uses (link : ScreenLink) (edge : ScreenEdge) : Prop := edge ∈ link.endpoints

instance (link : ScreenLink) (edge : ScreenEdge) : Decidable (link.Uses edge) :=
  inferInstanceAs (Decidable (_ ∈ _))

/-- The link uses an edge of the other link. -/
def Meets (link other : ScreenLink) : Prop := link.Uses other.fromEdge ∨ link.Uses other.toEdge

instance (link other : ScreenLink) : Decidable (link.Meets other) :=
  inferInstanceAs (Decidable (_ ∨ _))

theorem uses_iff {link : ScreenLink} {edge : ScreenEdge} :
    link.Uses edge ↔ link.fromEdge = edge ∨ link.toEdge = edge := by
  simp [Uses, endpoints, eq_comm]

theorem meets_self (link : ScreenLink) : link.Meets link :=
  Or.inl (uses_iff.mpr (Or.inl rfl))

end ScreenLink

section

variable {known : ScreenId → Prop} {links : List ScreenLink} {link : ScreenLink}

/-- Some of the links of a well-formed list. -/
theorem LinksWellFormed.filter (wellFormed : LinksWellFormed known links)
    (kept : ScreenLink → Bool) : LinksWellFormed known (links.filter kept) :=
  ⟨fun link member => wellFormed.known link (List.mem_of_mem_filter member),
    fun link member => wellFormed.facing link (List.mem_of_mem_filter member),
    wellFormed.exclusive.sublist (List.filter_sublist.flatMap _)⟩

/-- One more link between facing edges of known screens that no other link uses. -/
theorem LinksWellFormed.concat (wellFormed : LinksWellFormed known links)
    (endsKnown : known link.fromEdge.screenId ∧ known link.toEdge.screenId) (facing : link.Facing)
    (apart : ∀ other ∈ links, ¬ other.Meets link) : LinksWellFormed known (links ++ [link]) := by
  have free (edge : ScreenEdge) (mine : edge = link.fromEdge ∨ edge = link.toEdge) :
      edge ∉ links.flatMap ScreenLink.endpoints := by
    intro used
    obtain ⟨other, member, uses⟩ := List.mem_flatMap.mp used
    refine apart other member ?_
    obtain rfl | rfl := mine
    · exact Or.inl uses
    · exact Or.inr uses
  have more : LinksWellFormed known (link :: links) :=
    linksWellFormed_cons.mpr ⟨endsKnown, facing,
      ⟨free _ (Or.inl rfl), free _ (Or.inr rfl)⟩, wellFormed⟩
  have order : (links ++ [link]).Perm (link :: links) := List.perm_append_singleton link links
  exact ⟨fun other member => more.known other (order.mem_iff.mp member),
    fun other member => more.facing other (order.mem_iff.mp member),
    (order.flatMap_right _).nodup_iff.mpr more.exclusive⟩

end

/-! ## What a command says -/

namespace LayoutCommand

/-- The screens that a command names. -/
def named : LayoutCommand → List ScreenId
  | place screenId anchorId _ _ => [anchorId, screenId]
  | link fromEdge toEdge _ => [fromEdge.screenId, toEdge.screenId]
  | unlink edge => [edge.screenId]
  | unplace screenId => [screenId]
  | setSizeOverride screenId _ => [screenId]
  | replace _ => []

/-- The link that a command makes, and whether it takes the place of others. -/
def joined : LayoutCommand → Option (ScreenLink × Bool)
  | place screenId anchorId position replacing =>
      some ({ fromEdge := { screenId := anchorId, edge := (placementEdges position).1 }
              toEdge := { screenId, edge := (placementEdges position).2 } }, replacing)
  | link fromEdge toEdge replacing => some ({ fromEdge, toEdge }, replacing)
  | unlink _ | unplace _ | setSizeOverride .. | replace _ => none

/-- The link is at an edge, or at the screen, that the command is about. -/
def Affects : LayoutCommand → ScreenLink → Prop
  | place screenId anchorId position _, other =>
      other.Uses { screenId := anchorId, edge := (placementEdges position).1 } ∨
        other.Uses { screenId, edge := (placementEdges position).2 }
  | link fromEdge toEdge _, other => other.Uses fromEdge ∨ other.Uses toEdge
  | unlink edge, other => other.Uses edge
  | unplace screenId, other => other.touches screenId = true
  | setSizeOverride .., _ => False
  | replace _, _ => True

instance (command : LayoutCommand) : DecidablePred command.Affects := by
  intro other
  cases command <;> simp only [Affects] <;> infer_instance

/-- The screens whose size override a command sets or takes away. -/
def resized : LayoutCommand → List ScreenId
  | setSizeOverride screenId _ => [screenId]
  | place .. | link .. | unlink _ | unplace _ | replace _ => []

/-- The size override that a command sets. -/
def override : LayoutCommand → Option ScreenSizeOverride
  | setSizeOverride screenId size => size.map fun size => { screenId, size }
  | place .. | link .. | unlink _ | unplace _ | replace _ => none

/-- The command edits the layout that is there. -/
def Edit : LayoutCommand → Prop
  | replace _ => False
  | place .. | link .. | unlink _ | unplace _ | setSizeOverride .. => True

/-- What makes a command fail on a layout: it names an unknown screen, or it joins a screen to
itself, edges that do not face each other, or, without leave to replace it, an edge in use. -/
inductive Refused (layout : ScreenLayout) (inventory : ScreenInventory)
    (command : LayoutCommand) : Prop
  | unknown (screen : ScreenId) (named : screen ∈ command.named)
      (unknown : inventory.contains screen = false)
  | sameScreen (link : ScreenLink) (replacing : Bool)
      (joined : command.joined = some (link, replacing))
      (same : link.fromEdge.screenId = link.toEdge.screenId)
  | askew (link : ScreenLink) (replacing : Bool) (joined : command.joined = some (link, replacing))
      (askew : ¬ link.Facing)
  | occupied (link other : ScreenLink) (joined : command.joined = some (link, false))
      (member : other ∈ layout.links) (meets : other.Meets link)

/-- The layout that a command asks for: without the affected links, with its own link and
override. -/
def carryOut (command : LayoutCommand) (layout : ScreenLayout) : ScreenLayout where
  schemaVersion := layout.schemaVersion
  revision := layout.revision
  links := layout.links.filter (fun link => ¬ command.Affects link) ++
    (command.joined.map Prod.fst).toList
  sizeOverrides := layout.sizeOverrides.filter (fun value => value.screenId ∉ command.resized) ++
    command.override.toList

end LayoutCommand

namespace ScreenLayout

variable {layout next edited : ScreenLayout} {inventory : ScreenInventory}
  {command : LayoutCommand} {screen : ScreenId}

/-- When two edges can be linked, and to what result. -/
theorem link_eq_ok {fromEdge toEdge : ScreenEdge} {replacing : Bool} :
    layout.link inventory fromEdge toEdge replacing = .ok next ↔
      inventory.contains fromEdge.screenId = true ∧ inventory.contains toEdge.screenId = true ∧
        fromEdge.screenId ≠ toEdge.screenId ∧ fromEdge.edge.opposite = toEdge.edge ∧
        (replacing = false → ∀ link ∈ layout.links, ¬ link.Meets { fromEdge, toEdge }) ∧
        next = { layout with
          links := layout.links.filter (fun link => ¬ link.Meets { fromEdge, toEdge }) ++
            [{ fromEdge, toEdge }] } := by
  have occupied (link : ScreenLink) :
      (link.fromEdge = fromEdge || link.toEdge = fromEdge || link.fromEdge = toEdge ||
        link.toEdge = toEdge) = decide (link.Meets { fromEdge, toEdge }) := by
    rw [Bool.eq_iff_iff, decide_eq_true_iff, ScreenLink.Meets, ScreenLink.uses_iff,
      ScreenLink.uses_iff]
    simp [or_assoc]
  simp only [link, occupied]
  split_ifs with unknownFrom unknownTo same facing replacing
  · simp [unknownFrom]
  · simp [unknownTo]
  · simp [same]
  · simp [facing]
  · simp only [Bool.not_eq_false] at unknownFrom unknownTo
    simp [unknownFrom, unknownTo, same, not_not.mp facing, replacing, eq_comm]
  · simp only [Bool.not_eq_false] at unknownFrom unknownTo
    simp only [unknownFrom, unknownTo, ne_eq, same, not_not.mp facing, replacing, not_false_iff,
      true_and, forall_true_left]
    split
    · rename_i other found
      have used := List.find?_some found
      simp only [reduceCtorEq, false_iff, not_and]
      intro free
      exact absurd (of_decide_eq_true used) (free other (List.mem_of_find?_eq_some found))
    · rename_i free
      rw [List.find?_eq_none] at free
      simp only [decide_eq_true_eq] at free
      simp only [decide_not, Outcome.ok.injEq]
      exact ⟨fun linked => ⟨free, linked.symm⟩, fun linked => linked.2.symm⟩

/-- When a command that makes a link is not refused. -/
theorem not_refused_iff_of_joined {link : ScreenLink} {replacing : Bool}
    (named : command.named = [link.fromEdge.screenId, link.toEdge.screenId])
    (joined : command.joined = some (link, replacing)) :
    ¬ command.Refused layout inventory ↔
      inventory.contains link.fromEdge.screenId = true ∧
        inventory.contains link.toEdge.screenId = true ∧
        link.fromEdge.screenId ≠ link.toEdge.screenId ∧ link.Facing ∧
        (replacing = false → ∀ other ∈ layout.links, ¬ other.Meets link) := by
  constructor
  · intro allowed
    refine ⟨?_, ?_, ?_, ?_, ?_⟩
    · by_contra unknown
      exact allowed (.unknown _ (by simp [named]) (Bool.eq_false_of_not_eq_true unknown))
    · by_contra unknown
      exact allowed (.unknown _ (by simp [named]) (Bool.eq_false_of_not_eq_true unknown))
    · exact fun same => allowed (.sameScreen link replacing joined same)
    · by_contra askew
      exact allowed (.askew link replacing joined askew)
    · rintro rfl other member meets
      exact allowed (.occupied link other joined member meets)
  · rintro ⟨knownFrom, knownTo, different, facing, free⟩ refused
    cases refused with
    | unknown screen isNamed unknown =>
        rw [named] at isNamed
        obtain rfl | rfl : screen = link.fromEdge.screenId ∨ screen = link.toEdge.screenId := by
          simpa using isNamed
        · simp [knownFrom] at unknown
        · simp [knownTo] at unknown
    | sameScreen other _ made same =>
        obtain ⟨rfl, -⟩ := Prod.mk.inj (Option.some.inj (joined.symm.trans made))
        exact different same
    | askew other _ made askew =>
        obtain ⟨rfl, -⟩ := Prod.mk.inj (Option.some.inj (joined.symm.trans made))
        exact askew facing
    | occupied _ other made member meets =>
        obtain ⟨rfl, rfl⟩ := Prod.mk.inj (Option.some.inj (joined.symm.trans made))
        exact free rfl other member meets

/-- When a command that makes no link is not refused. -/
theorem not_refused_iff_of_named (named : command.named = [screen])
    (joined : command.joined = none) :
    ¬ command.Refused layout inventory ↔ inventory.contains screen = true := by
  constructor
  · intro allowed
    by_contra unknown
    exact allowed (.unknown screen (by simp [named]) (Bool.eq_false_of_not_eq_true unknown))
  · rintro known refused
    cases refused with
    | unknown other isNamed unknown =>
        obtain rfl : other = screen := by simpa [named] using isNamed
        simp [known] at unknown
    | sameScreen _ _ made _ => simp [joined] at made
    | askew _ _ made _ => simp [joined] at made
    | occupied _ _ made _ _ => simp [joined] at made

/-- The layout that a command asks for when it makes a link. -/
theorem carryOut_of_joined {link : ScreenLink} {replacing : Bool}
    (joined : command.joined = some (link, replacing)) :
    command.carryOut layout = { layout with
      links := layout.links.filter (fun other => ¬ other.Meets link) ++ [link] } := by
  cases command <;>
    simp only [LayoutCommand.joined, Option.some.injEq, Prod.mk.injEq, reduceCtorEq] at joined
  all_goals
    obtain ⟨rfl, -⟩ := joined
    simp [LayoutCommand.carryOut, LayoutCommand.Affects, LayoutCommand.joined,
      LayoutCommand.resized, LayoutCommand.override, ScreenLink.Meets]

/-- A command that makes a link carries out what it asks for, unless it is refused. -/
theorem link_iff_carryOut {link : ScreenLink} {replacing : Bool}
    (named : command.named = [link.fromEdge.screenId, link.toEdge.screenId])
    (joined : command.joined = some (link, replacing)) :
    layout.link inventory link.fromEdge link.toEdge replacing = .ok edited ↔
      ¬ command.Refused layout inventory ∧ edited = command.carryOut layout := by
  rw [link_eq_ok, not_refused_iff_of_joined named joined, carryOut_of_joined joined]
  simp only [ScreenLink.Facing, and_assoc]

/-- Commands that edit carry out what they ask for, unless they are refused. -/
theorem edits_iff (edit : command.Edit) :
    layout.Edits inventory command edited ↔
      ¬ command.Refused layout inventory ∧ edited = command.carryOut layout := by
  cases command with
  | place screenId anchorId position replacing =>
      rw [← link_iff_carryOut rfl rfl]
      constructor
      · intro edits
        cases edits with
        | place linked => exact linked
      · exact .place
  | link fromEdge toEdge replacing =>
      rw [← link_iff_carryOut rfl rfl]
      constructor
      · intro edits
        cases edits with
        | link linked => exact linked
      · exact .link
  | unlink edge =>
      have same : (LayoutCommand.unlink edge).carryOut layout = { layout with
          links := layout.links.filter fun link => link.fromEdge ≠ edge ∧ link.toEdge ≠ edge } := by
        simp [LayoutCommand.carryOut, LayoutCommand.Affects, LayoutCommand.joined,
          LayoutCommand.resized, LayoutCommand.override, ScreenLink.uses_iff]
      rw [not_refused_iff_of_named rfl rfl, same]
      constructor
      · intro edits
        cases edits with
        | unlink known => exact ⟨known, rfl⟩
      · rintro ⟨known, rfl⟩
        exact .unlink known
  | unplace screenId =>
      have same : (LayoutCommand.unplace screenId).carryOut layout = { layout with
          links := layout.links.filter fun link => !link.touches screenId } := by
        simp [LayoutCommand.carryOut, LayoutCommand.Affects, LayoutCommand.joined,
          LayoutCommand.resized, LayoutCommand.override]
      rw [not_refused_iff_of_named rfl rfl, same]
      constructor
      · intro edits
        cases edits with
        | unplace known => exact ⟨known, rfl⟩
      · rintro ⟨known, rfl⟩
        exact .unplace known
  | setSizeOverride screenId size =>
      have same : (LayoutCommand.setSizeOverride screenId size).carryOut layout = { layout with
          sizeOverrides := (layout.sizeOverrides.filter fun entry => entry.screenId ≠ screenId) ++
            (size.map fun size => { screenId, size }).toList } := by
        simp [LayoutCommand.carryOut, LayoutCommand.Affects, LayoutCommand.joined,
          LayoutCommand.resized, LayoutCommand.override]
      rw [not_refused_iff_of_named rfl rfl, same]
      constructor
      · intro edits
        cases edits with
        | setSizeOverride known => exact ⟨known, rfl⟩
      · rintro ⟨known, rfl⟩
        exact .setSizeOverride known
  | replace => exact edit.elim

theorem WellFormed.links_changed {links : List ScreenLink}
    (wellFormed : layout.WellFormed inventory)
    (linked : LinksWellFormed (· ∈ inventory.screens.map ScreenDescriptor.screenId) links) :
    { layout with links }.WellFormed inventory :=
  ⟨wellFormed.schema, wellFormed.ids, linked, wellFormed.overridesKnown,
    wellFormed.overridesDistinct⟩

/-- Linking two edges of a valid layout gives a valid layout. -/
theorem WellFormed.link {fromEdge toEdge : ScreenEdge} {replacing : Bool}
    (wellFormed : layout.WellFormed inventory)
    (linked : layout.link inventory fromEdge toEdge replacing = .ok next) :
    next.WellFormed inventory := by
  obtain ⟨knownFrom, knownTo, _, facing, _, rfl⟩ := link_eq_ok.mp linked
  refine wellFormed.links_changed ((wellFormed.links.filter _).concat
    ⟨ScreenInventory.contains_iff.mp knownFrom, ScreenInventory.contains_iff.mp knownTo⟩
    facing fun other member => ?_)
  simpa using (List.mem_filter.mp member).2

/-- What a command makes of a valid layout is valid. -/
theorem WellFormed.ofEdits (wellFormed : layout.WellFormed inventory) (edit : command.Edit)
    (edits : layout.Edits inventory command edited) : edited.WellFormed inventory := by
  cases edits with
  | place linked => exact wellFormed.link linked
  | link linked => exact wellFormed.link linked
  | unlink => exact wellFormed.links_changed (wellFormed.links.filter _)
  | unplace => exact wellFormed.links_changed (wellFormed.links.filter _)
  | @setSizeOverride screenId size known =>
      cases size with
      | none =>
          refine ⟨wellFormed.schema, wellFormed.ids, wellFormed.links, fun value member => ?_, ?_⟩
          · rw [Option.map_none, Option.toList_none, List.append_nil] at member
            exact wellFormed.overridesKnown value (List.mem_of_mem_filter member)
          · rw [Option.map_none, Option.toList_none, List.append_nil]
            exact wellFormed.overridesDistinct.sublist (List.filter_sublist.map _)
      | some size => exact wellFormed.override known
  | replace => exact edit.elim

/-- A command that edits a valid layout succeeds unless it is refused, and gives what it asks for at
the next revision. -/
theorem apply_edit_eq_ok (wellFormed : layout.WellFormed inventory) (edit : command.Edit) :
    layout.apply inventory command = .ok next ↔
      ¬ command.Refused layout inventory ∧
        next = { command.carryOut layout with revision := saturatingSucc layout.revision } := by
  rw [apply_eq_ok]
  constructor
  · rintro ⟨_, edited, edits, _, rfl⟩
    obtain ⟨allowed, rfl⟩ := (edits_iff edit).mp edits
    exact ⟨allowed, rfl⟩
  · rintro ⟨allowed, rfl⟩
    have edits := (edits_iff edit).mpr ⟨allowed, rfl⟩
    exact ⟨wellFormed, command.carryOut layout, edits, wellFormed.ofEdits edit edits, rfl⟩

/-- What a successful command has done to a layout. -/
structure CarriedOut (layout : ScreenLayout) (command : LayoutCommand) (next : ScreenLayout) :
    Prop where
  revision : next.revision = layout.revision + 1
  /-- Links away from the command keep their content and their order. -/
  kept : next.links.filter (fun link => ¬ command.Affects link) =
    layout.links.filter fun link => ¬ command.Affects link
  /-- On the edges and the screen of the command there is nothing but the link it makes. -/
  affected : next.links.filter (fun link => command.Affects link) =
    (command.joined.map Prod.fst).toList
  /-- Overrides of other screens keep their content and their order. -/
  othersKept : next.sizeOverrides.filter (fun value => value.screenId ∉ command.resized) =
    layout.sizeOverrides.filter fun value => value.screenId ∉ command.resized
  /-- The screen of the command has the override it sets, if it sets one. -/
  overridden : next.sizeOverrides.filter (fun value => value.screenId ∈ command.resized) =
    command.override.toList
  /-- Commands about links leave all overrides alone. -/
  overridesKept : command.resized = [] → next.sizeOverrides = layout.sizeOverrides

/-- A list that drops what has a property and gets more of it keeps the rest and has only that. -/
theorem filter_carried {α : Type*} {items more : List α} {Property : α → Prop}
    [DecidablePred Property] (has : ∀ item ∈ more, Property item) :
    (items.filter (fun item => ¬ Property item) ++ more).filter (fun item => ¬ Property item) =
        items.filter (fun item => ¬ Property item) ∧
      (items.filter (fun item => ¬ Property item) ++ more).filter (fun item => Property item) =
        more := by
  constructor
  · have none : more.filter (fun item => ¬ Property item) = [] := by
      simpa [List.filter_eq_nil_iff] using has
    rw [List.filter_append, none, List.append_nil, List.filter_filter]
    simp
  · have all : more.filter (fun item => Property item) = more := by
      simpa [List.filter_eq_self] using has
    have none : (items.filter (fun item => ¬ Property item)).filter
        (fun item => Property item) = [] := by
      simp
    rw [List.filter_append, all, none, List.nil_append]

/-- A command affects the link it makes. -/
theorem affects_joined {link : ScreenLink} (made : link ∈ (command.joined.map Prod.fst).toList) :
    command.Affects link := by
  cases command <;> simp [LayoutCommand.joined] at made
  all_goals
    subst made
    simp [LayoutCommand.Affects, ScreenLink.uses_iff]

/-- A command overrides the size of the screen it names. -/
theorem mem_resized_of_override {value : ScreenSizeOverride}
    (set : value ∈ command.override.toList) : value.screenId ∈ command.resized := by
  cases command <;> simp [LayoutCommand.override] at set
  obtain ⟨_, -, rfl⟩ := set
  simp [LayoutCommand.resized]

theorem override_eq_none (unsized : command.resized = []) : command.override = none := by
  cases command with
  | setSizeOverride => cases unsized
  | place | link | unlink | unplace | replace => rfl

/-- Carrying a command out does what it says. -/
theorem carriedOut (below : layout.revision < u64Max) :
    layout.CarriedOut command
      { command.carryOut layout with revision := saturatingSucc layout.revision } where
  revision := min_eq_left below
  kept := (filter_carried fun _ => affects_joined).1
  affected := (filter_carried fun _ => affects_joined).2
  othersKept := (filter_carried fun _ => mem_resized_of_override).1
  overridden := (filter_carried fun _ => mem_resized_of_override).2
  overridesKept := by
    intro unsized
    simp [LayoutCommand.carryOut, unsized, override_eq_none unsized]

/-- On a valid layout a command other than a replacement fails exactly when it is refused for what
it names or joins, and otherwise does what it says. -/
theorem apply_exact (valid : layout.validate inventory = .ok ())
    (below : layout.revision < u64Max) (edit : command.Edit) :
    ((∃ error, layout.apply inventory command = .err error) ↔
        command.Refused layout inventory) ∧
      ((layout.apply inventory command).IsOk ↔ ¬ command.Refused layout inventory) ∧
      ∀ next, layout.apply inventory command = .ok next → layout.CarriedOut command next := by
  have succeeds (next : ScreenLayout) :
      layout.apply inventory command = .ok next ↔ ¬ command.Refused layout inventory ∧
        next = { command.carryOut layout with revision := saturatingSucc layout.revision } :=
    apply_edit_eq_ok (validate_eq_ok.mp valid) edit
  have isOk_iff : (layout.apply inventory command).IsOk ↔ ¬ command.Refused layout inventory :=
    ⟨fun ⟨next, applied⟩ => ((succeeds next).mp applied).1,
      fun allowed => ⟨_, (succeeds _).mpr ⟨allowed, rfl⟩⟩⟩
  refine ⟨⟨?_, ?_⟩, isOk_iff, ?_⟩
  · rintro ⟨error, failed⟩
    by_contra allowed
    obtain ⟨next, applied⟩ := isOk_iff.mpr allowed
    cases failed.symm.trans applied
  · intro refused
    have returned := apply_returns layout inventory command
    cases result : layout.apply inventory command with
    | ok next => exact absurd refused (isOk_iff.mp ⟨next, result⟩)
    | err error => exact ⟨error, rfl⟩
    | panic message => exact absurd result (returned message)
  · intro next applied
    obtain ⟨-, rfl⟩ := (succeeds next).mp applied
    exact carriedOut below

end ScreenLayout

/-- The remote screen is to the right of the local one. -/
def sampleBeside : ScreenLayout where
  schemaVersion := layoutSchemaVersion
  revision := 3
  links := [sampleLink "local" "remote"]
  sizeOverrides := [{ screenId := ⟨"remote"⟩, size := { width := 50, height := 80 } }]

namespace ScreenLayout

/-- The remote screen can be placed on the free side of the local one, not on the other. -/
theorem apply_exact_beside :
    (∃ next, sampleBeside.apply sampleInventory (.place ⟨"remote"⟩ ⟨"local"⟩ .leftOf false) =
        .ok next ∧
      sampleBeside.CarriedOut (.place ⟨"remote"⟩ ⟨"local"⟩ .leftOf false) next) ∧
      ∃ error, sampleBeside.apply sampleInventory
        (.place ⟨"remote"⟩ ⟨"local"⟩ .rightOf false) = .err error := by
  have edit (position : RelativePosition) :
      (LayoutCommand.place ⟨"remote"⟩ ⟨"local"⟩ position false).Edit := trivial
  have valid : sampleBeside.validate sampleInventory = .ok () := rfl
  refine ⟨?_, ?_⟩
  · obtain ⟨next, applied⟩ : (sampleBeside.apply sampleInventory
        (.place ⟨"remote"⟩ ⟨"local"⟩ .leftOf false)).IsOk := ⟨_, rfl⟩
    exact ⟨next, applied, (apply_exact valid (by decide) (edit .leftOf)).2.2 next applied⟩
  · refine (apply_exact valid (by decide) (edit .rightOf)).1.mpr ?_
    exact .occupied _ (sampleLink "local" "remote") rfl List.mem_cons_self
      (ScreenLink.meets_self _)

end ScreenLayout
end Rflow
