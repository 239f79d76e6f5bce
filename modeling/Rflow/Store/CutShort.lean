import Rflow.Store.StoreCalls

/-!
# Store calls that are cut short

A call that edits the stored layout replaces the inventory and then the layout.  Wherever it is cut
short, the old or the new layout is loaded later, and the old one after an error, except in two
cases: a replacement leaves an inventory without screens that the old layout names, or the last step
fails with the new layout in place.
-/

namespace Rflow

open Foundation

/-- A layout that is valid for an inventory names only its screens. -/
theorem ScreenLayout.WellFormed.names {layout : ScreenLayout} {inventory : ScreenInventory}
    (wellFormed : layout.WellFormed inventory) : layout.Names inventory := by
  refine ⟨fun link member => ?_, fun value member => ?_⟩
  · obtain ⟨leaving, entering⟩ := wellFormed.links.known link member
    exact ⟨ScreenInventory.contains_iff.mpr leaving, ScreenInventory.contains_iff.mpr entering⟩
  · exact ScreenInventory.contains_iff.mpr (wellFormed.overridesKnown value member)

namespace StoreCall

open TopologyFiles

variable {files : TopologyFiles} {state : TopologyState} {call : StoreCall} {layout : ScreenLayout}
  {inventory : ScreenInventory} {interruption : Option Traced.Interruption}

/-- The steps that a call has taken when it ends or is cut short. -/
def taken (call : StoreCall) (files : TopologyFiles) (interruption : Option Traced.Interruption) :
    List FileStep :=
  ((call.steps files).interrupted FileStep.context interruption).1

/-- What a call returns to its caller; a call whose process stops returns nothing. -/
def returned (call : StoreCall) (files : TopologyFiles)
    (interruption : Option Traced.Interruption) : Option (Outcome String ScreenTopology) :=
  ((call.steps files).interrupted FileStep.context interruption).2

/-- The files are loaded later with the old layout or the one that the call installs, and with the
old one if the call has returned an error. -/
def Consistent (call : StoreCall) (files : TopologyFiles) (old : ScreenLayout)
    (interruption : Option Traced.Interruption) : Prop :=
  ∃ found, ((call.taken files interruption).foldl perform files).loadState = .ok found ∧
    (found.layout = old ∨ .installs (.layout found.layout) ∈ (call.steps files).outputs) ∧
    ∀ error, call.returned files interruption = some (.err error) → found.layout = old

/-- A replacement is not cut short between its two files while the old layout names a screen that is
gone, and the step that fails is not the last one, the sync after a different layout is in place. -/
structure Survives (call : StoreCall) (files : TopologyFiles) (old : ScreenLayout)
    (interruption : Option Traced.Interruption) : Prop where
  between : ∀ expectedRevision topology stored, call = .replace expectedRevision topology →
    files.layout = .current stored →
    .installs (.inventory (.fromTopology topology)) ∈ call.taken files interruption →
    (∀ layout, .installs (.layout layout) ∉ call.taken files interruption) →
    stored.Names (.fromTopology topology)
  afterwards : ∀ done layout, interruption = some (.fails done) →
    (call.steps files).outputs[done]? = some (.write (.layout layout) .syncDirectory) →
      layout = old

/-! ## The files that are left -/

theorem foldl_perform_reads {left : List FileStep} (read : ∀ step ∈ left, step.IsRead) :
    left.foldl perform files = files := by
  induction left with
  | nil => rfl
  | cons step left induction =>
      have first := read step List.mem_cons_self
      cases step with
      | read description =>
          exact induction fun other member => read other (List.mem_cons_of_mem _ member)
      | write => exact first.elim

/-- What the steps of a call have put in place. -/
theorem foldl_perform {left : List FileStep}
    (own : ∀ step ∈ left, step ∈ reads ++ writes inventory layout) :
    left.foldl perform files =
      { inventory := if .installs (.inventory inventory) ∈ left then .inventory inventory
          else files.inventory
        layout := if .installs (.layout layout) ∈ left then .current layout
            else files.layout } := by
  induction left generalizing files with
  | nil => simp
  | cons step left induction =>
      have first := own step List.mem_cons_self
      rw [List.foldl_cons, induction fun other member => own other (List.mem_cons_of_mem _ member)]
      cases step with
      | read description => grind [perform, FileStep.installs]
      | write file step =>
          have contents : file = .inventory inventory ∨ file = .layout layout := by
            simp only [reads, writes, List.mem_append, List.mem_cons, List.mem_map] at first
            grind
          rcases contents with rfl | rfl <;> cases step <;> grind [perform, FileStep.installs]

/-- The layout is put in place after the inventory. -/
theorem installs_inventory_of_prefix {left : List FileStep}
    (isPrefix : left <+: reads ++ writes inventory layout)
    (installed : .installs (.layout layout) ∈ left) : .installs (.inventory inventory) ∈ left := by
  have front : reads ++ WriteStep.all.map (.write (.inventory inventory)) <+:
      reads ++ writes inventory layout := by
    rw [writes, ← List.append_assoc]
    exact List.prefix_append _ _
  rcases List.prefix_or_prefix_of_prefix isPrefix front with early | late
  · have member := early.subset installed
    simp [reads, WriteStep.all, FileStep.installs] at member
  · exact late.subset (by simp [WriteStep.all, FileStep.installs])

theorem taken_isPrefix : call.taken files interruption <+: (call.steps files).outputs :=
  Traced.interrupted_prefix ..

/-- The files are loaded with a new inventory in place exactly when a current layout among them
names only screens of that inventory. -/
theorem load_between_iff (loaded : files.loadState = .ok state)
    (valid : inventory.validate = .ok ()) :
    ({ files with inventory := .inventory inventory }.loadState).IsOk ↔
      ∀ stored, files.layout = .current stored → stored.Names inventory := by
  cases loadState_eq_ok.mp loaded with
  | unplaced cached held missing =>
      refine iff_of_true ⟨{ layout := default, inventory }, ?_⟩ (by simp [missing])
      exact loadState_eq_ok.mpr (.unplaced inventory (.stored inventory) missing)
  | current layout cached held stored wellFormed =>
      simp only [stored, LayoutFile.current.injEq, forall_eq']
      constructor
      · rintro ⟨found, reloaded⟩
        cases loadState_eq_ok.mp reloaded with
        | unplaced _ _ missing => simp at missing
        | current again _ held same wellFormed =>
            obtain rfl : layout = again := LayoutFile.current.inj same
            cases held
            exact wellFormed.names
        | legacy _ _ _ same => simp at same
      · intro names
        exact ⟨{ layout, inventory }, loadState_eq_ok.mpr
          (.current layout inventory (.stored inventory) rfl (wellFormed.of_names names valid))⟩
  | legacy topology cached held stored accepted wellFormed =>
      exact iff_of_true ⟨_, loadState_eq_ok.mpr
        (.legacy topology inventory (.stored inventory) stored accepted wellFormed)⟩
        (by simp [stored])

/-- A replacement alone can leave out screens that the old layout names: to apply a command, the old
layout has to be valid for the new inventory. -/
theorem Computes.names_iff (loaded : files.loadState = .ok state)
    (computes : call.Computes state.layout inventory layout) :
    (∀ stored, files.layout = .current stored → stored.Names inventory) ↔
      ∀ expectedRevision topology stored, call = .replace expectedRevision topology →
        files.layout = .current stored → stored.Names (.fromTopology topology) := by
  constructor
  · rintro names expectedRevision topology stored rfl isStored
    cases computes with
    | replace => exact names stored isStored
  · intro names stored isStored
    cases computes with
    | apply applied =>
        have held := (loadState_eq_ok.mp loaded).holds
        rw [isStored] at held
        cases held
        exact (ScreenLayout.apply_eq_ok.mp applied).1.names
    | replace => exact names _ _ stored rfl isStored

/-! ## How far a call has come -/

/-- A step follows the installation of the layout exactly if it is the last one. -/
theorem installed_iff_syncs {done : Nat} {output : FileStep}
    (next : (reads ++ writes inventory layout)[done]? = some output) :
    .installs (.layout layout) ∈ (reads ++ writes inventory layout).take done ↔
      output = .write (.layout layout) .syncDirectory := by
  let front : List FileStep := reads ++ WriteStep.all.map (.write (.inventory inventory)) ++
    (WriteStep.all.take 6).map (.write (.layout layout))
  have split : reads ++ writes inventory layout =
      front ++ [.installs (.layout layout), .write (.layout layout) .syncDirectory] := rfl
  have length : front.length = 16 := rfl
  have early : ∀ step ∈ front,
      step ≠ .installs (.layout layout) ∧ step ≠ .write (.layout layout) .syncDirectory := by
    simp [front, reads, WriteStep.all, FileStep.installs]
  rw [split] at next ⊢
  rcases lt_trichotomy done 16 with before | rfl | after
  · rw [List.getElem?_append_left (by omega)] at next
    rw [List.take_append_of_le_length (by omega)]
    refine iff_of_false (fun installed => ?_) (early _ (List.mem_of_getElem? next)).2
    exact (early _ (List.mem_of_mem_take installed)).1 rfl
  · obtain rfl : .installs (.layout layout) = output := Option.some.inj next
    refine iff_of_false (fun installed => ?_) (by simp [FileStep.installs])
    rw [List.take_append_of_le_length (by omega)] at installed
    exact (early _ (List.mem_of_mem_take installed)).1 rfl
  · have last : done = 17 := by
      have bound := (List.getElem?_eq_some_iff.mp next).1
      rw [List.length_append, length] at bound
      simp only [List.length_cons, List.length_nil] at bound
      omega
    subst last
    obtain rfl : .write (.layout layout) .syncDirectory = output := Option.some.inj next
    exact iff_of_true (by simp [List.take_append, length]) rfl

/-- A call that is not rejected takes its steps from reading the files to writing both. -/
theorem Computes.taken_isPrefix (loaded : files.loadState = .ok state)
    (computes : call.Computes state.layout inventory layout) :
    call.taken files interruption <+: reads ++ writes inventory layout := by
  obtain ⟨topology, steps, _⟩ := steps_returns loaded computes
  exact steps ▸ StoreCall.taken_isPrefix

theorem Computes.installed_cases (loaded : files.loadState = .ok state)
    (computes : call.Computes state.layout inventory layout) {file : StoredFile}
    (installed : .installs file ∈ call.taken files interruption) :
    file = .inventory inventory ∨ file = .layout layout := by
  simpa [reads, writes, WriteStep.all, FileStep.installs] using
    (computes.taken_isPrefix loaded).subset installed

/-- The files that a call leaves, by what it has put in place. -/
theorem Computes.foldl_taken (loaded : files.loadState = .ok state)
    (computes : call.Computes state.layout inventory layout)
    (interruption : Option Traced.Interruption) :
    (call.taken files interruption).foldl perform files =
      { inventory := if .installs (.inventory inventory) ∈ call.taken files interruption then
          .inventory inventory else files.inventory
        layout := if .installs (.layout layout) ∈ call.taken files interruption then
          .current layout else files.layout } :=
  foldl_perform fun _ member => (computes.taken_isPrefix loaded).subset member

/-- A call returns an error with its layout in place exactly if its last step fails. -/
theorem Computes.failed_iff (loaded : files.loadState = .ok state)
    (computes : call.Computes state.layout inventory layout) :
    (.installs (.layout layout) ∈ call.taken files interruption ∧
        ∃ error, call.returned files interruption = some (.err error)) ↔
      ∃ done, interruption = some (.fails done) ∧
        (call.steps files).outputs[done]? = some (.write (.layout layout) .syncDirectory) := by
  obtain ⟨topology, steps, outcome⟩ := steps_returns loaded computes
  unfold taken returned Traced.interrupted
  rw [steps, outcome]
  cases interruption with
  | none => simp
  | some interruption =>
      cases interruption with
      | stops done => simp
      | fails done =>
          cases next : (reads ++ writes inventory layout)[done]? with
          | none => simp [next]
          | some output =>
              have syncs := installed_iff_syncs next
              simp only [next, Option.some.injEq, Outcome.err.injEq, exists_eq', and_true,
                Traced.Interruption.fails.injEq, exists_eq_left', syncs]

/-- The sync after the installation of a layout is a step of a call that is not rejected. -/
theorem Computes.syncs_cases (loaded : files.loadState = .ok state)
    (computes : call.Computes state.layout inventory layout) {done : Nat} {other : ScreenLayout}
    (syncs : (call.steps files).outputs[done]? = some (.write (.layout other) .syncDirectory)) :
    other = layout := by
  obtain ⟨topology, steps, _⟩ := steps_returns loaded computes
  simpa [steps, reads, writes, WriteStep.all] using List.mem_of_getElem? syncs

/-- Nothing is put in place yet. -/
theorem consistent_iff_of_nothing (loaded : files.loadState = .ok state)
    (same : (call.taken files interruption).foldl perform files = files)
    (nothing : ∀ file, .installs file ∉ call.taken files interruption)
    (unsynced : ∀ done layout, interruption = some (.fails done) →
      (call.steps files).outputs[done]? ≠ some (.write (.layout layout) .syncDirectory)) :
    call.Consistent files state.layout interruption ↔
      call.Survives files state.layout interruption :=
  iff_of_true ⟨state, by rw [same, loaded], Or.inl rfl, fun _ _ => rfl⟩
    ⟨fun _ _ _ _ _ installed => absurd installed (nothing _),
      fun done layout failed syncs => absurd syncs (unsynced done layout failed)⟩

/-- The last step has not failed while the layout is not in place. -/
theorem Computes.unsynced (loaded : files.loadState = .ok state)
    (computes : call.Computes state.layout inventory layout)
    (layoutOut : .installs (.layout layout) ∉ call.taken files interruption) {done : Nat}
    {other : ScreenLayout} (failed : interruption = some (.fails done)) :
    (call.steps files).outputs[done]? ≠ some (.write (.layout other) .syncDirectory) := by
  intro syncs
  obtain rfl := computes.syncs_cases loaded syncs
  exact layoutOut ((computes.failed_iff loaded).mpr ⟨done, failed, syncs⟩).1

/-- The inventory is in place, and the layout is not. -/
theorem consistent_iff_of_inventory (loaded : files.loadState = .ok state)
    (computes : call.Computes state.layout inventory layout)
    (inventoryIn : .installs (.inventory inventory) ∈ call.taken files interruption)
    (layoutOut : .installs (.layout layout) ∉ call.taken files interruption) :
    call.Consistent files state.layout interruption ↔
      call.Survives files state.layout interruption := by
  have after := Computes.foldl_taken loaded computes interruption
  rw [if_pos inventoryIn, if_neg layoutOut] at after
  have valid := ScreenInventory.validate_eq_ok.mpr computes.wellFormed.ids
  have noLayout (other : ScreenLayout) :
      .installs (.layout other) ∉ call.taken files interruption := by
    intro installed
    rcases computes.installed_cases loaded installed with same | same
    · cases same
    · exact layoutOut (same ▸ installed)
  rw [Consistent, after]
  constructor
  · rintro ⟨found, reloaded, _⟩
    have between := (load_between_iff loaded valid).mp ⟨found, reloaded⟩
    have names := (computes.names_iff loaded).mp between
    exact ⟨fun _ topology stored replaced isStored _ _ => names _ topology stored replaced isStored,
      fun _ _ failed syncs => absurd syncs (computes.unsynced loaded layoutOut failed)⟩
  · intro survives
    have names := (computes.names_iff loaded).mpr fun _ topology stored replaced isStored => by
      refine survives.between _ topology stored replaced isStored ?_ noLayout
      subst replaced
      cases computes
      exact inventoryIn
    obtain ⟨found, reloaded⟩ := (load_between_iff loaded valid).mpr names
    have kept : found.layout = state.layout :=
      (loadState_eq_ok.mp reloaded).holds.unique (loadState_eq_ok.mp loaded).holds
    exact ⟨found, reloaded, Or.inl kept, fun _ _ => kept⟩

/-- Both files are in place. -/
theorem consistent_iff_of_layout (loaded : files.loadState = .ok state)
    (computes : call.Computes state.layout inventory layout)
    (layoutIn : .installs (.layout layout) ∈ call.taken files interruption) :
    call.Consistent files state.layout interruption ↔
      call.Survives files state.layout interruption := by
  have inventoryIn := installs_inventory_of_prefix (computes.taken_isPrefix loaded) layoutIn
  have after := Computes.foldl_taken loaded computes interruption
  rw [if_pos inventoryIn, if_pos layoutIn] at after
  have reloaded : ((call.taken files interruption).foldl perform files).loadState =
      .ok { layout, inventory } := by
    rw [after]
    exact loadState_eq_ok.mpr (.current layout inventory
      (.stored inventory) rfl computes.wellFormed)
  constructor
  · rintro ⟨found, again, _, kept⟩
    obtain rfl := Outcome.ok.inj (reloaded.symm.trans again)
    refine ⟨fun _ _ _ _ _ _ nowhere => absurd layoutIn (nowhere layout), ?_⟩
    intro done other failed syncs
    obtain rfl := computes.syncs_cases loaded syncs
    obtain ⟨_, error, returned⟩ := (computes.failed_iff loaded).mpr ⟨done, failed, syncs⟩
    exact kept error returned
  · intro survives
    refine ⟨_, reloaded, Or.inr (taken_isPrefix.subset layoutIn), fun error returned => ?_⟩
    obtain ⟨done, failed, syncs⟩ := (computes.failed_iff loaded).mp ⟨layoutIn, error, returned⟩
    exact survives.afterwards done layout failed syncs

/-- Whichever way a call ends, it is consistent exactly when it survives. -/
theorem consistent_iff (loaded : files.loadState = .ok state) :
    call.Consistent files state.layout interruption ↔
      call.Survives files state.layout interruption := by
  by_cases accepted : ∃ result, call.check files = .ok result
  · obtain ⟨⟨inventory, layout⟩, checked⟩ := accepted
    have computes := (check_eq_ok loaded).mp checked
    by_cases layoutIn : .installs (.layout layout) ∈ call.taken files interruption
    · exact consistent_iff_of_layout loaded computes layoutIn
    by_cases inventoryIn : .installs (.inventory inventory) ∈ call.taken files interruption
    · exact consistent_iff_of_inventory loaded computes inventoryIn layoutIn
    have after := Computes.foldl_taken loaded computes interruption
    rw [if_neg inventoryIn, if_neg layoutIn] at after
    refine consistent_iff_of_nothing loaded after (fun file installed => ?_)
      fun _ _ => computes.unsynced loaded layoutIn
    rcases computes.installed_cases loaded installed with rfl | rfl
    · exact inventoryIn installed
    · exact layoutIn installed
  · have read := steps_emits fun result => not_exists.mp accepted result
    have taken_read (step : FileStep) (member : step ∈ call.taken files interruption) :
        step.IsRead :=
      read step (taken_isPrefix.subset member)
    exact consistent_iff_of_nothing loaded (foldl_perform_reads taken_read)
      (fun file installed => taken_read _ installed)
      fun _ _ _ syncs => read _ (List.mem_of_getElem? syncs)

theorem consistent_between_files :
    (apply 0 sampleInventory (.place ⟨"remote"⟩ ⟨"local"⟩ .rightOf false)).Consistent
      { inventory := .absent, layout := .absent } default (some (.stops 12)) := by
  have loaded : loadState { inventory := .absent, layout := .absent } =
      .ok { layout := default, inventory := default } := rfl
  refine (consistent_iff loaded).mpr ⟨fun _ _ _ replaced => ?_, fun _ _ failed => ?_⟩
  · cases replaced
  · cases failed

end StoreCall

/-- Stored files whose layout names both screens of the inventory. -/
def sampleStore : TopologyFiles where
  inventory := .inventory sampleInventory
  layout := .current { (default : ScreenLayout) with
    links := [{ fromEdge := ⟨⟨"local"⟩, .right⟩, toEdge := ⟨⟨"remote"⟩, .left⟩ }] }

namespace StoreCall

open TopologyFiles

/-- A replacement that is cut short between its two files leaves files that are not loaded, and one
whose last step fails has returned an error for the layout that is loaded. -/
theorem replace_cut_short :
    ∃ state, sampleStore.loadState = .ok state ∧
      ¬ (replace 0 default).Consistent sampleStore state.layout (some (.stops 12)) ∧
      ¬ (replace 0 default).Consistent sampleStore state.layout (some (.fails 17)) := by
  refine ⟨_, rfl, ?_, ?_⟩
  · rintro ⟨_, reloaded, _⟩
    cases reloaded
  · rintro ⟨_, reloaded, _, kept⟩
    obtain rfl := Outcome.ok.inj reloaded
    exact absurd (kept _ rfl) (by decide)

end StoreCall
end Rflow
