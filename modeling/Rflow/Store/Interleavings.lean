import Rflow.Store.StoreCalls
import Rflow.Foundation.Machine

/-!
# Interleaved calls on the topology store

Several callers edit one pair of files.  A call loads the files and checks its revision in one step,
and writes the inventory and the layout in two more; nothing keeps other calls out in between.
-/

namespace Rflow

open Foundation

/-- A call that has passed its check, with what it is about to write. -/
structure PendingWrite where
  call : StoreCall
  inventory : ScreenInventory
  layout : ScreenLayout
  inventoryWritten : Bool
  deriving DecidableEq

inductive StoreEvent where
  | check (caller : Nat) (call : StoreCall)
  | writeInventory (caller : Nat)
  | writeLayout (caller : Nat)

/-- How a call has ended: with its layout in place of what was stored, or with an error. -/
inductive StoreReport where
  | succeeded (call : StoreCall) (replaced : LayoutFile) (layout : ScreenLayout)
  | failed (call : StoreCall) (error : String)

structure SharedStore where
  files : TopologyFiles
  writing : Nat → Option PendingWrite

namespace SharedStore

/-- Files that nobody is writing. -/
def idle (files : TopologyFiles) : SharedStore := { files, writing := fun _ => none }

/-- One step of a caller.  A caller makes one call at a time, and takes the steps of a call in
order. -/
def step (shared : SharedStore) :
    StoreEvent → Outcome String (List StoreReport × SharedStore)
  | .check caller call =>
      match shared.writing caller with
      | some _ => .err "the caller is in a call"
      | none =>
          match call.check shared.files with
          | .ok (inventory, layout) =>
              let write := { call, inventory, layout, inventoryWritten := false }
              .ok ([], { shared with
                writing := Function.update shared.writing caller (some write) })
          | .err error => .ok ([.failed call error], shared)
          | .panic message => .panic message
  | .writeInventory caller =>
      match shared.writing caller with
      | some { call, inventory, layout, inventoryWritten := false } =>
          let write := { call, inventory, layout, inventoryWritten := true }
          .ok ([],
            { files := shared.files.perform (.installs (.inventory inventory))
              writing := Function.update shared.writing caller (some write) })
      | _ => .err "the caller has no inventory to write"
  | .writeLayout caller =>
      match shared.writing caller with
      | some { call, layout, inventoryWritten := true, .. } =>
          .ok ([.succeeded call shared.files.layout layout],
            { files := shared.files.perform (.installs (.layout layout))
              writing := Function.update shared.writing caller none })
      | _ => .err "the caller has no layout to write"

variable {shared next : SharedStore} {files : TopologyFiles} {state : TopologyState}
  {event : StoreEvent} {events : List StoreEvent} {reports : List StoreReport}
  {last : ScreenLayout}

/-- The layout that a report leaves stored. -/
def leaves (last : ScreenLayout) : StoreReport → ScreenLayout
  | .succeeded _ _ layout => layout
  | .failed .. => last

/-- A success replaces the layout that was stored by one computed from it, at a higher revision. -/
def Follows (last : ScreenLayout) : StoreReport → Prop
  | .succeeded call replaced layout =>
      replaced.Holds last ∧ (∃ inventory, call.Computes last inventory layout) ∧
        last.revision < layout.revision
  | .failed .. => True

/-- The expected revision of a success. -/
def succeededAt : StoreReport → Option Nat
  | .succeeded call .. => some call.expectedRevision
  | .failed .. => none

/-- A call that fails leaves both files as they were. -/
def FailsUnchanged (shared : SharedStore) (event : StoreEvent) : Prop :=
  ∀ reports next, shared.step event = .ok (reports, next) →
    (∃ call error, .failed call error ∈ reports) → next.files = shared.files

/-- A check passes only while nobody is writing and below the last revision. -/
def Exclusive (shared : SharedStore) : StoreEvent → Prop
  | .check _ call => (call.check shared.files).IsOk →
      (∀ other, shared.writing other = none) ∧ call.expectedRevision < u64Max
  | .writeInventory _ | .writeLayout _ => True

/-- What one step of a caller does. -/
inductive Steps (shared : SharedStore) : StoreEvent → List StoreReport → SharedStore → Prop
  | refused {caller : Nat} {call : StoreCall} {error : String}
      (checked : call.check shared.files = .err error) :
      Steps shared (.check caller call) [.failed call error] shared
  | passed {caller : Nat} {call : StoreCall} {inventory : ScreenInventory} {layout : ScreenLayout}
      (checked : call.check shared.files = .ok (inventory, layout)) :
      Steps shared (.check caller call) []
        { shared with
          writing := Function.update shared.writing caller
            (some { call, inventory, layout, inventoryWritten := false }) }
  | inventory {caller : Nat} {write : PendingWrite} (writing : shared.writing caller = some write) :
      Steps shared (.writeInventory caller) []
        { files := { shared.files with inventory := .inventory write.inventory }
          writing := Function.update shared.writing caller
            (some { write with inventoryWritten := true }) }
  | layout {caller : Nat} {write : PendingWrite} (writing : shared.writing caller = some write) :
      Steps shared (.writeLayout caller)
        [.succeeded write.call shared.files.layout write.layout]
        { files := { shared.files with layout := .current write.layout }
          writing := Function.update shared.writing caller none }

theorem step_steps (stepped : shared.step event = .ok (reports, next)) :
    shared.Steps event reports next := by
  cases event with
  | check caller call =>
      simp only [step] at stepped
      split at stepped
      · cases stepped
      · split at stepped
        · obtain ⟨rfl, rfl⟩ := Prod.mk.inj (Outcome.ok.inj stepped)
          exact .passed ‹_›
        · obtain ⟨rfl, rfl⟩ := Prod.mk.inj (Outcome.ok.inj stepped)
          exact .refused ‹_›
        · cases stepped
  | writeInventory caller =>
      simp only [step] at stepped
      split at stepped
      · obtain ⟨rfl, rfl⟩ := Prod.mk.inj (Outcome.ok.inj stepped)
        exact .inventory ‹_›
      · cases stepped
  | writeLayout caller =>
      simp only [step] at stepped
      split at stepped
      · obtain ⟨rfl, rfl⟩ := Prod.mk.inj (Outcome.ok.inj stepped)
        exact .layout ‹_›
      · cases stepped

/-- One layout is stored, and at most one call is about to replace it by one computed from it. -/
structure Held (shared : SharedStore) (last : ScreenLayout) : Prop where
  stored : shared.files.layout.Holds last
  computed : ∀ caller write, shared.writing caller = some write →
    write.call.Computes last write.inventory write.layout ∧ last.revision < u64Max
  alone : ∀ caller other write found, shared.writing caller = some write →
    shared.writing other = some found → caller = other

theorem held_idle (loaded : files.loadState = .ok state) : (idle files).Held state.layout := by
  refine ⟨(TopologyFiles.loadState_eq_ok.mp loaded).holds, fun _ _ writing => ?_,
    fun _ _ _ _ writing => ?_⟩
  · cases writing
  · cases writing

/-- While one caller at most is writing, and stays so, what is written is computed from what is
stored. -/
theorem Held.step (held : shared.Held last) (exclusive : shared.Exclusive event)
    (stepped : shared.step event = .ok (reports, next)) :
    Machine.Threaded Follows leaves last reports ∧ next.Held (reports.foldl leaves last) := by
  cases step_steps stepped with
  | refused => exact ⟨⟨trivial, trivial⟩, held⟩
  | @passed caller call inventory layout checked =>
      obtain ⟨nobody, below⟩ := exclusive ⟨_, checked⟩
      obtain ⟨state, loaded⟩ := StoreCall.loads_of_check checked
      obtain rfl : state.layout = last :=
        (TopologyFiles.loadState_eq_ok.mp loaded).holds.unique held.stored
      have computes := (StoreCall.check_eq_ok loaded).mp checked
      have only {other : Nat} {write : PendingWrite}
          (finds : Function.update shared.writing caller
            (some { call, inventory, layout, inventoryWritten := false }) other = some write) :
          other = caller ∧ { call, inventory, layout, inventoryWritten := false } = write := by
        by_cases same : other = caller
        · rw [same, Function.update_self] at finds
          exact ⟨same, Option.some.inj finds⟩
        · rw [Function.update_of_ne same, nobody other] at finds
          cases finds
      refine ⟨trivial, held.stored, fun other write finds => ?_,
        fun one other _ _ first second => ?_⟩
      · obtain ⟨_, rfl⟩ := only finds
        exact ⟨computes, computes.expected ▸ below⟩
      · rw [(only first).1, (only second).1]
  | @inventory caller write writing =>
      have before {other : Nat} {found : PendingWrite}
          (finds : Function.update shared.writing caller
            (some { write with inventoryWritten := true }) other = some found) :
          ∃ earlier, shared.writing other = some earlier ∧ found.call = earlier.call ∧
            found.inventory = earlier.inventory ∧ found.layout = earlier.layout := by
        by_cases same : other = caller
        · rw [same, Function.update_self] at finds
          obtain rfl := Option.some.inj finds
          exact ⟨write, by rw [same, writing], rfl, rfl, rfl⟩
        · rw [Function.update_of_ne same] at finds
          exact ⟨found, finds, rfl, rfl, rfl⟩
      refine ⟨trivial, held.stored, fun other found finds => ?_,
        fun one other _ _ first second => ?_⟩
      · obtain ⟨earlier, wrote, sameCall, sameInventory, sameLayout⟩ := before finds
        rw [sameCall, sameInventory, sameLayout]
        exact held.computed other earlier wrote
      · obtain ⟨_, wrote, _⟩ := before first
        obtain ⟨_, wroteOther, _⟩ := before second
        exact held.alone one other _ _ wrote wroteOther
  | @layout caller write writing =>
      obtain ⟨computes, below⟩ := held.computed caller write writing
      have rises : last.revision < write.layout.revision := by
        rw [computes.revision, saturatingSucc]
        omega
      have nobody {other : Nat} {found : PendingWrite} :
          Function.update shared.writing caller none other ≠ some found := by
        intro finds
        by_cases same : other = caller
        · rw [same, Function.update_self] at finds
          cases finds
        · rw [Function.update_of_ne same] at finds
          exact same (held.alone other caller found write finds writing)
      exact ⟨⟨⟨held.stored, ⟨_, computes⟩, rises⟩, trivial⟩, .stored _,
        fun _ _ finds => absurd finds nobody, fun _ _ _ _ finds => absurd finds nobody⟩

/-! ## Whole runs -/

theorem failsUnchanged : shared.FailsUnchanged event := by
  rintro reports next stepped ⟨call, error, failed⟩
  cases step_steps stepped with
  | refused => rfl
  | passed => cases failed
  | inventory => cases failed
  | layout => simp at failed

/-- Successes that follow one another have rising expected revisions. -/
theorem succeededAt_rises (threaded : Machine.Threaded Follows leaves last reports) :
    (reports.filterMap succeededAt).Pairwise (· < ·) ∧
      ∀ revision ∈ reports.filterMap succeededAt, last.revision ≤ revision := by
  induction reports generalizing last with
  | nil => simp
  | cons report reports induction =>
      obtain ⟨follows, onward⟩ := threaded
      obtain ⟨rising, above⟩ := induction onward
      cases report with
      | failed => exact ⟨rising, above⟩
      | succeeded call replaced layout =>
          obtain ⟨_, ⟨_, computes⟩, rises⟩ := follows
          have later (revision : Nat) (member : revision ∈ reports.filterMap succeededAt) :
              call.expectedRevision < revision :=
            computes.expected ▸ rises.trans_le (above revision member)
          refine ⟨List.pairwise_cons.mpr ⟨later, rising⟩, List.forall_mem_cons.mpr ⟨?_, ?_⟩⟩
          · exact computes.expected.ge
          · exact fun revision member => (computes.expected ▸ later revision member).le

/-- While checks pass only when nobody is writing and below the last revision, edits are linear:
each expected revision succeeds once, each layout is computed from the one that it replaces, at a
higher revision, and calls that fail change nothing. -/
theorem edits_linear {final : SharedStore} (loaded : files.loadState = .ok state)
    (exclusive : Machine.Along step Exclusive (idle files) events)
    (ran : Machine.run step (idle files) events = .ok (reports, final)) :
    (reports.filterMap succeededAt).Nodup ∧
      Machine.Threaded Follows leaves state.layout reports ∧
      Machine.Along step FailsUnchanged (idle files) events := by
  have kept {shared next : SharedStore} {event : StoreEvent} {reports : List StoreReport}
      {last : ScreenLayout} (held : shared.Held last) (exclusive : shared.Exclusive event)
      (stepped : shared.step event = .ok (reports, next)) :
      Machine.Threaded Follows leaves last reports ∧ next.Held (reports.foldl leaves last) :=
    held.step exclusive stepped
  have threaded := Machine.run_threaded kept (held_idle loaded) exclusive ran
  refine ⟨(succeededAt_rises threaded).1.imp fun less => less.ne, threaded, ?_⟩
  have unchanged {shared : SharedStore} {event : StoreEvent} (_ : True)
      (_ : shared.Exclusive event) : shared.FailsUnchanged event := failsUnchanged
  exact Machine.Along.of_invariant unchanged (fun _ _ _ => trivial) trivial exclusive

end SharedStore

/-- An edit of the sample screens at a revision. -/
def samplePlace (revision : Nat) : StoreCall :=
  .apply revision sampleInventory (.place ⟨"remote"⟩ ⟨"local"⟩ .rightOf true)

namespace SharedStore

theorem edits_linear_in_turn :
    ∃ reports final,
      Machine.run step (idle { inventory := .absent, layout := .absent })
          [.check 1 (samplePlace 0), .writeInventory 1, .writeLayout 1, .check 2 (samplePlace 0)] =
        .ok (reports, final) ∧ reports.length = 2 ∧ (reports.filterMap succeededAt).Nodup ∧
        Machine.Threaded Follows leaves default reports ∧
        Machine.Along step FailsUnchanged (idle { inventory := .absent, layout := .absent })
          [.check 1 (samplePlace 0), .writeInventory 1, .writeLayout 1,
              .check 2 (samplePlace 0)] := by
  have loaded : TopologyFiles.loadState { inventory := .absent, layout := .absent } =
      .ok { layout := default, inventory := default } := rfl
  obtain ⟨reports, final, ran, length⟩ : ∃ reports final,
      Machine.run step (idle { inventory := .absent, layout := .absent })
          [.check 1 (samplePlace 0), .writeInventory 1, .writeLayout 1, .check 2 (samplePlace 0)] =
        .ok (reports, final) ∧ reports.length = 2 := ⟨_, _, rfl, rfl⟩
  refine ⟨reports, final, ran, length, edits_linear loaded ?_ ran⟩
  refine ⟨fun _ => ⟨fun _ => rfl, by decide⟩, fun _ _ first => ?_⟩
  obtain ⟨rfl, rfl⟩ := Prod.mk.inj (Outcome.ok.inj first)
  refine ⟨trivial, fun _ _ second => ?_⟩
  obtain ⟨rfl, rfl⟩ := Prod.mk.inj (Outcome.ok.inj second)
  refine ⟨trivial, fun _ _ third => ?_⟩
  obtain ⟨rfl, rfl⟩ := Prod.mk.inj (Outcome.ok.inj third)
  refine ⟨?_, fun _ _ _ => trivial⟩
  rintro ⟨_, passed⟩
  cases passed

/-- Two calls that check the same revision before either writes both succeed, and the second
overwrites what the first has stored. -/
theorem interleaved_calls_both_succeed :
    ∃ reports final,
      Machine.run step (idle { inventory := .absent, layout := .absent })
          [.check 1 (samplePlace 0), .check 2 (samplePlace 0), .writeInventory 1, .writeLayout 1,
            .writeInventory 2, .writeLayout 2] = .ok (reports, final) ∧
        ¬ (reports.filterMap succeededAt).Nodup ∧
        ¬ Machine.Threaded Follows leaves default reports := by
  refine ⟨_, _, rfl, by decide, fun threaded => ?_⟩
  exact absurd (succeededAt_rises threaded).1 (by decide)

end SharedStore
end Rflow
