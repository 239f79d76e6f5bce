import Rflow.Store.TopologyStore
import Rflow.Foundation.Traced

/-!
# Calls on the topology store, step by step

The calls that edit the stored layout, as the steps on the file system that they take one after the
other.  Only the renaming of a written temporary changes what is loaded later.
-/

namespace Rflow

open Foundation

/-- Content to be installed as one of the two files. -/
inductive StoredFile where
  | inventory (inventory : ScreenInventory)
  | layout (layout : ScreenLayout)
  deriving DecidableEq

/-- How errors name a file. -/
def StoredFile.description : StoredFile → String
  | inventory _ => "screen inventory"
  | layout _ => "screen topology"

/-- The steps of `write_json_atomic` that can fail, in order, as on Unix. -/
inductive WriteStep where
  | createDirectory
  | secureDirectory
  | encode
  | createTemporary
  | writeTemporary
  | syncTemporary
  | install
  | syncDirectory
  deriving DecidableEq

namespace WriteStep

def all : List WriteStep :=
  [createDirectory, secureDirectory, encode, createTemporary, writeTemporary,
    syncTemporary, install, syncDirectory]

/-- What the error of a failed step says. -/
def context (description : String) : WriteStep → String
  | createDirectory => "create " ++ description ++ " directory"
  | secureDirectory => "secure topology directory"
  | encode => "encode " ++ description
  | createTemporary => "create temporary " ++ description
  | writeTemporary => "write temporary " ++ description
  | syncTemporary => "sync temporary " ++ description
  | install => "install " ++ description
  | syncDirectory => "sync " ++ description ++ " directory"

end WriteStep

/-- One step on the file system. -/
inductive FileStep where
  | read (description : String)
  | write (file : StoredFile) (step : WriteStep)
  deriving DecidableEq

namespace FileStep

/-- What the error of a failed step says. -/
def context : FileStep → String
  | read description => "read " ++ description
  | write file step => step.context file.description

/-- The step puts content in place. -/
def installs (file : StoredFile) : FileStep := write file .install

/-- The step reads a file. -/
def IsRead : FileStep → Prop
  | read _ => True
  | write .. => False

end FileStep

/-- A call that edits the stored layout. -/
inductive StoreCall where
  | apply (expectedRevision : Nat) (inventory : ScreenInventory) (command : LayoutCommand)
  | replace (expectedRevision : Nat) (topology : ScreenTopology)
  deriving DecidableEq

namespace TopologyFiles

/-- What one step does to the files. -/
def perform (files : TopologyFiles) : FileStep → TopologyFiles
  | .write (.inventory inventory) .install => { files with inventory := .inventory inventory }
  | .write (.layout layout) .install => { files with layout := .current layout }
  | .write .. | .read _ => files

def loadStateSteps (files : TopologyFiles) : Traced FileStep String TopologyState := do
  Traced.tell [.read "screen inventory"]
  if files.inventory = .undecodable then
    Traced.fail "decode screen inventory"
  Traced.tell [.read "screen topology"]
  Traced.lift files.loadState

def writeJsonAtomic (file : StoredFile) : Traced FileStep String Unit :=
  Traced.tell (WriteStep.all.map (FileStep.write file))

def saveInventorySteps (inventory : ScreenInventory) : Traced FileStep String Unit := do
  Traced.lift (inventory.validate.mapErr LayoutError.display)
  writeJsonAtomic (.inventory inventory)

def applySteps (files : TopologyFiles) (expectedRevision : Nat) (inventory : ScreenInventory)
    (command : LayoutCommand) : Traced FileStep String ScreenTopology := do
  let state ← files.loadStateSteps
  Traced.lift (Outcome.require (state.layout.revision = expectedRevision)
    (staleRevision expectedRevision state.layout.revision))
  let layout ← Traced.lift ((state.layout.apply inventory command).mapErr LayoutError.display)
  saveInventorySteps inventory
  writeJsonAtomic (.layout layout)
  Traced.lift ((layout.resolve inventory).mapErr LayoutError.display)

def replaceSteps (files : TopologyFiles) (expectedRevision : Nat) (topology : ScreenTopology) :
    Traced FileStep String ScreenTopology := do
  Traced.lift topology.validate
  let state ← files.loadStateSteps
  Traced.lift (Outcome.require (state.layout.revision = expectedRevision)
    (staleRevision expectedRevision state.layout.revision))
  let topology := { topology with revision := saturatingSucc state.layout.revision }
  let inventory := ScreenInventory.fromTopology topology
  let layout := ScreenLayout.fromTopology topology
  Traced.lift ((layout.validate inventory).mapErr LayoutError.display)
  saveInventorySteps inventory
  writeJsonAtomic (.layout layout)
  pure topology

end TopologyFiles

namespace StoreCall

open TopologyFiles

/-- The steps that a call takes on the files that it finds. -/
def steps (files : TopologyFiles) : StoreCall → Traced FileStep String ScreenTopology
  | apply expectedRevision inventory command => files.applySteps expectedRevision inventory command
  | replace expectedRevision topology => files.replaceSteps expectedRevision topology

/-- Load the files, check the revision and compute what is to be written. -/
def check (files : TopologyFiles) : StoreCall → Outcome String (ScreenInventory × ScreenLayout)
  | apply expectedRevision inventory command => do
      let state ← files.loadState
      Outcome.require (state.layout.revision = expectedRevision)
        (staleRevision expectedRevision state.layout.revision)
      let layout ← (state.layout.apply inventory command).mapErr LayoutError.display
      pure (inventory, layout)
  | replace expectedRevision topology => do
      topology.validate
      let state ← files.loadState
      Outcome.require (state.layout.revision = expectedRevision)
        (staleRevision expectedRevision state.layout.revision)
      let topology := { topology with revision := saturatingSucc state.layout.revision }
      let inventory := ScreenInventory.fromTopology topology
      let layout := ScreenLayout.fromTopology topology
      (layout.validate inventory).mapErr LayoutError.display
      pure (inventory, layout)

/-- What a call computes from the layout that it has loaded. -/
inductive Computes : StoreCall → ScreenLayout → ScreenInventory → ScreenLayout → Prop
  | apply {base layout : ScreenLayout} {inventory : ScreenInventory} {command : LayoutCommand}
      (applied : base.apply inventory command = .ok layout) :
      Computes (.apply base.revision inventory command) base inventory layout
  | replace {base : ScreenLayout} {topology : ScreenTopology} (valid : topology.validate = .ok ())
      (wellFormed : (ScreenLayout.fromTopology topology).WellFormed (.fromTopology topology)) :
      Computes (.replace base.revision topology) base (.fromTopology topology)
        (.fromTopology { topology with revision := saturatingSucc base.revision })

/-- The revision that the caller expects to be stored. -/
def expectedRevision : StoreCall → Nat
  | apply expectedRevision .. => expectedRevision
  | replace expectedRevision _ => expectedRevision

variable {files : TopologyFiles} {state : TopologyState} {call : StoreCall}
  {base layout : ScreenLayout} {inventory : ScreenInventory}

/-! ## What a call computes -/

theorem fromTopology_wellFormed {topology : ScreenTopology} {revision : Nat} :
    (ScreenLayout.fromTopology { topology with revision }).WellFormed
        (.fromTopology { topology with revision }) ↔
      (ScreenLayout.fromTopology topology).WellFormed (.fromTopology topology) := by
  change ({ ScreenLayout.fromTopology topology with revision } : ScreenLayout).WellFormed
    (.fromTopology topology) ↔ _
  exact ScreenLayout.wellFormed_revision

theorem Computes.wellFormed (computes : call.Computes base inventory layout) :
    layout.WellFormed inventory := by
  cases computes with
  | apply applied =>
      obtain ⟨_, edited, _, valid, rfl⟩ := ScreenLayout.apply_eq_ok.mp applied
      rwa [ScreenLayout.wellFormed_revision]
  | replace _ wellFormed => exact fromTopology_wellFormed.mpr wellFormed

theorem Computes.revision (computes : call.Computes base inventory layout) :
    layout.revision = saturatingSucc base.revision := by
  cases computes with
  | apply applied =>
      obtain ⟨_, edited, _, _, rfl⟩ := ScreenLayout.apply_eq_ok.mp applied
      rfl
  | replace => rfl

theorem Computes.expected (computes : call.Computes base inventory layout) :
    call.expectedRevision = base.revision := by
  cases computes <;> rfl

/-- A call checks out on loaded files exactly when it computes from the loaded layout. -/
theorem check_eq_ok (loaded : files.loadState = .ok state) :
    call.check files = .ok (inventory, layout) ↔ call.Computes state.layout inventory layout := by
  cases call with
  | apply expectedRevision mine command =>
      simp only [check, loaded, Outcome.ok_bind, Outcome.check_bind_eq_ok, Outcome.require_eq_ok]
      simp only [Outcome.bind_eq_ok, Outcome.mapErr_eq_ok, Outcome.pure_eq, Outcome.ok.injEq,
        Prod.mk.injEq]
      constructor
      · rintro ⟨rfl, _, applied, rfl, rfl⟩
        exact .apply applied
      · intro computes
        cases computes with
        | apply applied => exact ⟨rfl, _, applied, rfl, rfl⟩
  | replace expectedRevision topology =>
      simp only [check, loaded, Outcome.ok_bind, Outcome.check_bind_eq_ok, Outcome.require_eq_ok,
        Outcome.mapErr_eq_ok, ScreenLayout.validate_eq_ok, Outcome.pure_eq, Outcome.ok.injEq,
        Prod.mk.injEq]
      rw [fromTopology_wellFormed]
      constructor
      · rintro ⟨valid, rfl, wellFormed, rfl, rfl⟩
        exact .replace valid wellFormed
      · intro computes
        cases computes with
        | replace valid wellFormed => exact ⟨valid, rfl, wellFormed, rfl, rfl⟩

/-- A call that checks out has loaded the files. -/
theorem loads_of_check {result : ScreenInventory × ScreenLayout}
    (checked : call.check files = .ok result) : ∃ state, files.loadState = .ok state := by
  cases call with
  | apply =>
      obtain ⟨state, loaded, _⟩ := Outcome.bind_eq_ok.mp checked
      exact ⟨state, loaded⟩
  | replace =>
      obtain ⟨_, _, onward⟩ := Outcome.bind_eq_ok.mp checked
      obtain ⟨state, loaded, _⟩ := Outcome.bind_eq_ok.mp onward
      exact ⟨state, loaded⟩

/-! ## The steps of a call -/

end StoreCall

namespace TopologyFiles

variable {files : TopologyFiles} {state : TopologyState}

@[simp]
theorem loadStateSteps_outcome (files : TopologyFiles) :
    files.loadStateSteps.outcome = files.loadState := by
  unfold loadStateSteps
  split_ifs with undecodable
  · simp [loadState, undecodable]
  · simp

theorem loadStateSteps_emits (files : TopologyFiles) :
    files.loadStateSteps.Emits FileStep.IsRead := by
  have reads (description : String) :
      (Traced.tell [.read description] : Traced FileStep String PUnit).Emits FileStep.IsRead := by
    simp [FileStep.IsRead]
  unfold loadStateSteps
  refine (reads _).bind fun _ => ?_
  split_ifs
  · exact Traced.emits_fail.bind fun _ => (reads _).bind fun _ => Traced.emits_lift
  · exact (reads _).bind fun _ => Traced.emits_lift

/-- Both files are read. -/
def reads : List FileStep := [.read "screen inventory", .read "screen topology"]

theorem loadStateSteps_returns {outputs : List FileStep} :
    files.loadStateSteps.Returns outputs state ↔ outputs = reads ∧ files.loadState = .ok state := by
  unfold loadStateSteps
  split_ifs with undecodable
  · refine iff_of_false (fun returned => ?_) ?_
    · have ended := returned.2
      simp [Traced.fail] at ended
    · simp [loadState, undecodable]
  · simp [Traced.returns_bind, reads, and_comm]

/-- The steps that write an inventory and then a layout. -/
def writes (inventory : ScreenInventory) (layout : ScreenLayout) : List FileStep :=
  WriteStep.all.map (.write (.inventory inventory)) ++ WriteStep.all.map (.write (.layout layout))

/-- What is written is what is found afterwards. -/
theorem perform_writes (inventory : ScreenInventory) (layout : ScreenLayout) :
    (reads ++ writes inventory layout).foldl perform files =
      { inventory := .inventory inventory, layout := .current layout } := rfl

/-- Applying a command whole is taking its steps to the end. -/
theorem apply_eq_ok_iff_steps {expectedRevision : Nat} {inventory : ScreenInventory}
    {command : LayoutCommand} {topology : ScreenTopology} {written : TopologyFiles} :
    files.apply expectedRevision inventory command = .ok (topology, written) ↔
      ∃ outputs, (files.applySteps expectedRevision inventory command).Returns outputs topology ∧
        written = outputs.foldl perform files := by
  simp only [apply, applySteps, saveInventory, saveInventorySteps, writeJsonAtomic,
    Traced.returns_bind, loadStateSteps_returns, Traced.returns_lift, Traced.returns_tell,
    Outcome.bind_eq_ok, Outcome.mapErr_eq_ok, Outcome.pure_eq, Outcome.ok.injEq, Prod.mk.injEq]
  constructor
  · rintro ⟨state, loaded, _, fresh, layout, applied, _, ⟨_, valid, rfl⟩, _, resolved, rfl, rfl⟩
    refine ⟨_, ⟨_, state, _, ⟨rfl, loaded⟩, ⟨_, _, _, ⟨fresh, rfl⟩, ⟨_, layout, _, ⟨applied, rfl⟩,
      ⟨_, (), _, ⟨_, _, _, ⟨valid, rfl⟩, rfl, rfl⟩, ⟨_, (), _, rfl, ⟨resolved, rfl⟩, rfl⟩, rfl⟩,
          rfl⟩,
      rfl⟩, rfl⟩, ?_⟩
    exact (perform_writes inventory layout).symm
  · rintro ⟨_, ⟨_, state, _, ⟨rfl, loaded⟩, ⟨_, _, _, ⟨fresh, rfl⟩, ⟨_, layout, _, ⟨applied, rfl⟩,
      ⟨_, _, _, ⟨_, _, _, ⟨valid, rfl⟩, rfl, rfl⟩, ⟨_, _, _, rfl, ⟨resolved, rfl⟩, rfl⟩, rfl⟩, rfl⟩,
          rfl⟩,
      rfl⟩, rfl⟩
    exact ⟨state, loaded, _, fresh, layout, applied, _, ⟨_, valid, rfl⟩, _, resolved, rfl, rfl⟩

theorem replace_eq_ok_iff_steps {expectedRevision : Nat} {topology replaced : ScreenTopology}
    {written : TopologyFiles} :
    files.replace expectedRevision topology = .ok (replaced, written) ↔
      ∃ outputs, (files.replaceSteps expectedRevision topology).Returns outputs replaced ∧
        written = outputs.foldl perform files := by
  simp only [replace, replaceSteps, saveInventory, saveInventorySteps, writeJsonAtomic,
    Traced.returns_bind, loadStateSteps_returns, Traced.returns_lift, Traced.returns_tell,
    Traced.returns_pure, Outcome.bind_eq_ok, Outcome.mapErr_eq_ok, Outcome.pure_eq,
    Outcome.ok.injEq, Prod.mk.injEq]
  constructor
  · rintro ⟨_, valid, state, loaded, _, fresh, _, accepted, _, ⟨_, saved, rfl⟩, rfl, rfl⟩
    refine ⟨_, ⟨_, _, _, ⟨valid, rfl⟩, ⟨_, state, _, ⟨rfl, loaded⟩, ⟨_, _, _, ⟨fresh, rfl⟩,
      ⟨_, _, _, ⟨accepted, rfl⟩, ⟨_, (), _, ⟨_, _, _, ⟨saved, rfl⟩, rfl, rfl⟩,
      ⟨_, (), _, rfl, ⟨rfl, rfl⟩, rfl⟩, rfl⟩, rfl⟩, rfl⟩, rfl⟩, rfl⟩, ?_⟩
    exact (perform_writes _ _).symm
  · rintro ⟨_, ⟨_, _, _, ⟨valid, rfl⟩, ⟨_, state, _, ⟨rfl, loaded⟩, ⟨_, _, _, ⟨fresh, rfl⟩,
      ⟨_, _, _, ⟨accepted, rfl⟩, ⟨_, _, _, ⟨_, _, _, ⟨saved, rfl⟩, rfl, rfl⟩,
      ⟨_, _, _, rfl, ⟨rfl, rfl⟩, rfl⟩, rfl⟩, rfl⟩, rfl⟩, rfl⟩, rfl⟩, rfl⟩
    exact ⟨_, valid, state, loaded, _, fresh, _, accepted, _, ⟨_, saved, rfl⟩, rfl, rfl⟩

end TopologyFiles

namespace StoreCall

open TopologyFiles

variable {files : TopologyFiles} {state : TopologyState} {call : StoreCall} {layout : ScreenLayout}
  {inventory : ScreenInventory}

/-- A call that does not check out only reads. -/
theorem steps_emits (refused : ∀ result, call.check files ≠ .ok result) :
    (call.steps files).Emits FileStep.IsRead := by
  cases call with
  | apply expectedRevision inventory command =>
      refine (loadStateSteps_emits files).bind_of_ok fun state loaded =>
        Traced.emits_lift.bind_of_ok fun _ fresh => Traced.emits_lift.bind_of_ok
            fun layout applied => ?_
      rw [loadStateSteps_outcome] at loaded
      rw [Traced.lift_outcome] at fresh applied
      refine absurd ?_ (refused (inventory, layout))
      simp only [check, loaded, fresh, applied, Outcome.ok_bind, Outcome.pure_eq]
  | replace expectedRevision topology =>
      refine Traced.emits_lift.bind_of_ok fun _ valid => (loadStateSteps_emits files).bind_of_ok
        fun state loaded => Traced.emits_lift.bind_of_ok fun _ fresh =>
          Traced.emits_lift.bind_of_ok fun _ accepted => ?_
      rw [loadStateSteps_outcome] at loaded
      rw [Traced.lift_outcome] at valid fresh accepted
      refine absurd ?_ (refused (.fromTopology topology,
        .fromTopology { topology with revision := saturatingSucc state.layout.revision }))
      simp only [check, valid, loaded, fresh, accepted, Outcome.ok_bind, Outcome.pure_eq]
      rfl

/-- A call that checks out writes what it has computed, and succeeds. -/
theorem steps_returns (loaded : files.loadState = .ok state)
    (computes : call.Computes state.layout inventory layout) :
    ∃ topology, (call.steps files).Returns (reads ++ writes inventory layout) topology := by
  have wellFormed := computes.wellFormed
  have valid := ScreenInventory.validate_eq_ok.mpr wellFormed.ids
  have fresh : Outcome.require (state.layout.revision = call.expectedRevision)
      (staleRevision call.expectedRevision state.layout.revision) = .ok () := by
    simp [computes.expected]
  have saved : (saveInventorySteps inventory).Returns
      (WriteStep.all.map (.write (.inventory inventory))) () := by
    rw [saveInventorySteps, valid]
    exact Traced.returns_bind.mpr ⟨[], (), _, ⟨rfl, rfl⟩, ⟨rfl, rfl⟩, rfl⟩
  cases computes with
  | apply applied =>
      have resolved := ScreenLayout.resolve_eq_ok.mpr ⟨wellFormed, rfl⟩
      refine ⟨_, Traced.returns_bind.mpr ⟨_, state, _, loadStateSteps_returns.mpr ⟨rfl, loaded⟩,
        Traced.returns_bind.mpr ⟨[], (), _, Traced.returns_lift.mpr ⟨fresh, rfl⟩,
        Traced.returns_bind.mpr ⟨[], layout, _,
          Traced.returns_lift.mpr ⟨Outcome.mapErr_eq_ok.mpr applied, rfl⟩,
        Traced.returns_bind.mpr ⟨_, (), _, saved,
        Traced.returns_bind.mpr ⟨_, (), _, Traced.returns_tell.mpr rfl,
          Traced.returns_lift.mpr ⟨Outcome.mapErr_eq_ok.mpr resolved, rfl⟩, rfl⟩, rfl⟩, rfl⟩, rfl⟩,
              ?_⟩⟩
      simp [writes]
  | @replace _ topology accepted fits =>
      have checked := ScreenLayout.validate_eq_ok.mpr wellFormed
      refine ⟨_, Traced.returns_bind.mpr ⟨[], (), _, Traced.returns_lift.mpr ⟨accepted, rfl⟩,
        Traced.returns_bind.mpr ⟨_, state, _, loadStateSteps_returns.mpr ⟨rfl, loaded⟩,
        Traced.returns_bind.mpr ⟨[], (), _, Traced.returns_lift.mpr ⟨fresh, rfl⟩,
        Traced.returns_bind.mpr ⟨[], (), _,
          Traced.returns_lift.mpr ⟨Outcome.mapErr_eq_ok.mpr checked, rfl⟩,
        Traced.returns_bind.mpr ⟨_, (), _, saved,
        Traced.returns_bind.mpr ⟨_, (), _, Traced.returns_tell.mpr rfl,
          Traced.returns_pure.mpr ⟨rfl, rfl⟩, rfl⟩, rfl⟩, rfl⟩, rfl⟩, rfl⟩, ?_⟩⟩
      simp [writes]

end StoreCall
end Rflow
