import Rflow.Foundation.Machine
import Rflow.Store.StoreCalls

/-!
# Temporaries of the layout files

A call of `write_json_atomic` writes its value to a temporary whose name depends on the file and the
process alone, and renames it.  The temporary is created only if there is none, and nothing removes
the one of a call that fails.  Two tasks of the process make such calls; steps are made to fail from
outside, or fail because of what stands under the name.
-/

namespace Rflow

open Foundation

/-- The two files that are written. -/
inductive StorePath where
  | inventory
  | layout
  deriving DecidableEq

def StoredFile.path : StoredFile → StorePath
  | inventory _ => .inventory
  | layout _ => .layout

namespace WriteStep

/-- The step after a step that went well. -/
def following : WriteStep → Option WriteStep
  | createDirectory => some secureDirectory
  | secureDirectory => some encode
  | encode => some createTemporary
  | createTemporary => some writeTemporary
  | writeTemporary => some syncTemporary
  | syncTemporary => some install
  | install => some syncDirectory
  | syncDirectory => none

/-- A call with this step ahead has created its temporary and not yet renamed it. -/
def holdsTemporary : WriteStep → Bool
  | writeTemporary | syncTemporary | install => true
  | _ => false

/-- A call with this step ahead has not created its temporary yet. -/
def precedesTemporary : WriteStep → Bool
  | createDirectory | secureDirectory | encode | createTemporary => true
  | _ => false

end WriteStep

/-- The tasks of the process that write the files. -/
inductive Writer where
  | supervisor
  | session
  deriving DecidableEq

/-- A call under way, with the step that it takes next. -/
structure LayoutWrite where
  file : StoredFile
  next : WriteStep
  deriving DecidableEq

/-- What stands under the name of a temporary. -/
inductive Temporary where
  | incomplete
  | written (file : StoredFile)
  deriving DecidableEq

inductive WriteEvent where
  | start (writer : Writer) (file : StoredFile)
  | advance (writer : Writer)
  | fault (writer : Writer)
  deriving DecidableEq

/-- How a call has ended. -/
inductive WriteReport where
  | succeeded (writer : Writer) (file : StoredFile)
  | failed (writer : Writer) (file : StoredFile) (error : String)
  deriving DecidableEq

/-- The directory of the two files, and the calls under way. -/
structure WrittenDirectory where
  files : TopologyFiles
  temporaries : StorePath → Option Temporary
  writing : Writer → Option LayoutWrite

/-- A temporary takes the place of a file. -/
def TopologyFiles.rename (files : TopologyFiles) : StorePath → Temporary → TopologyFiles
  | _, .written file => files.perform (.installs file)
  | .inventory, .incomplete => { files with inventory := .undecodable }
  | .layout, .incomplete => { files with layout := .undecodable }

namespace WrittenDirectory

/-- The directory when the process starts. -/
def fresh (files : TopologyFiles) : WrittenDirectory :=
  { files, temporaries := fun _ => none, writing := fun _ => none }

/-- The directory with the temporary of a file as given. -/
def placing (directory : WrittenDirectory) (path : StorePath) (temporary : Option Temporary) :
    WrittenDirectory :=
  { directory with temporaries := Function.update directory.temporaries path temporary }

/-- What a step of a call does to the directory when nothing makes it fail. -/
def act (directory : WrittenDirectory) (file : StoredFile) :
    WriteStep → Outcome String WrittenDirectory
  | .createTemporary =>
      match directory.temporaries file.path with
      | some _ => .err (WriteStep.createTemporary.context file.description)
      | none => .ok (directory.placing file.path (some .incomplete))
  | .writeTemporary =>
      .ok (directory.placing file.path
        ((directory.temporaries file.path).map fun _ => .written file))
  | .install =>
      match directory.temporaries file.path with
      | some temporary =>
          .ok ({ directory with files := directory.files.rename file.path temporary }.placing
            file.path none)
      | none => .err (WriteStep.install.context file.description)
  | _ => .ok directory

/-- The directory with the call of a writer as given. -/
def calling (directory : WrittenDirectory) (writer : Writer) (call : Option LayoutWrite) :
    WrittenDirectory :=
  { directory with writing := Function.update directory.writing writer call }

/-- One event: a writer that is in no call starts one, or a call takes its next step, or that step
is made to fail.  A call ends with its first error. -/
def step : Machine.Step WrittenDirectory WriteEvent WriteReport String
  | directory, .start writer file =>
      match directory.writing writer with
      | some _ => .err "the writer is in a call"
      | none => .ok ([], directory.calling writer (some { file, next := .createDirectory }))
  | directory, .advance writer =>
      match directory.writing writer with
      | some { file, next } =>
          match directory.act file next with
          | .ok after =>
              match next.following with
              | some following => .ok ([], after.calling writer (some { file, next := following }))
              | none => .ok ([.succeeded writer file], after.calling writer none)
          | .err error => .ok ([.failed writer file error], directory.calling writer none)
          | .panic message => .panic message
      | none => .err "the writer is in no call"
  | directory, .fault writer =>
      match directory.writing writer with
      | some { file, next } =>
          .ok ([.failed writer file (next.context file.description)], directory.calling writer none)
      | none => .err "the writer is in no call"

/-- Nobody is in a call. -/
def Idle (directory : WrittenDirectory) : Prop := ∀ writer, directory.writing writer = none

/-- The writer is in a call on the file that has created its temporary and not yet renamed it. -/
def Holds (directory : WrittenDirectory) (writer : Writer) (path : StorePath) : Prop :=
  ∃ call, directory.writing writer = some call ∧ call.next.holdsTemporary = true ∧
    call.file.path = path

/-- A temporary of the file belongs to a call under way. -/
def Tidy (path : StorePath) (directory : WrittenDirectory) : Prop :=
  directory.temporaries path ≠ none → ∃ writer, directory.Holds writer path

/-- A call on the file is made to fail between creating its temporary and renaming it. -/
def Leaves (path : StorePath) (directory : WrittenDirectory) (event : WriteEvent) : Prop :=
  ∃ writer, event = .fault writer ∧ directory.Holds writer path

/-- A call comes to create its temporary of the file. -/
def Creates (path : StorePath) (directory : WrittenDirectory) (event : WriteEvent) : Prop :=
  ∃ writer file, event = .advance writer ∧
    directory.writing writer = some { file, next := .createTemporary } ∧ file.path = path

/-- A call comes to create its temporary of the file while another is between creating and renaming
its own. -/
def Collides (path : StorePath) (directory : WrittenDirectory) (event : WriteEvent) : Prop :=
  Creates path directory event ∧ ∃ writer, directory.Holds writer path

/-- A call returns an error though its step is not made to fail. -/
def Refuses (directory : WrittenDirectory) (event : WriteEvent) : Prop :=
  ∃ writer file error reports next, event = .advance writer ∧
    directory.step event = .ok (reports, next) ∧ .failed writer file error ∈ reports

/-! ## What an event does -/

variable {directory next : WrittenDirectory} {event : WriteEvent} {reports : List WriteReport}
  {writer other : Writer} {path : StorePath} {file : StoredFile} {call : LayoutWrite}

/-- The steps that leave the directory alone. -/
def Plain (step : WriteStep) : Prop :=
  step ≠ .createTemporary ∧ step ≠ .writeTemporary ∧ step ≠ .install

inductive Steps (directory : WrittenDirectory) :
    WriteEvent → List WriteReport → WrittenDirectory → Prop
  | started {writer : Writer} {file : StoredFile} (free : directory.writing writer = none) :
      Steps directory (.start writer file) []
        (directory.calling writer (some { file, next := .createDirectory }))
  | passed {writer : Writer} {file : StoredFile} {now following : WriteStep}
      (called : directory.writing writer = some { file, next := now }) (plain : Plain now)
      (follows : now.following = some following) :
      Steps directory (.advance writer) []
        (directory.calling writer (some { file, next := following }))
  | created {writer : Writer} {file : StoredFile}
      (called : directory.writing writer = some { file, next := .createTemporary })
      (clear : directory.temporaries file.path = none) :
      Steps directory (.advance writer) []
        ((directory.placing file.path (some .incomplete)).calling writer
          (some { file, next := .writeTemporary }))
  | refused {writer : Writer} {file : StoredFile} {temporary : Temporary}
      (called : directory.writing writer = some { file, next := .createTemporary })
      (there : directory.temporaries file.path = some temporary) :
      Steps directory (.advance writer)
        [.failed writer file (WriteStep.createTemporary.context file.description)]
        (directory.calling writer none)
  | written {writer : Writer} {file : StoredFile}
      (called : directory.writing writer = some { file, next := .writeTemporary }) :
      Steps directory (.advance writer) []
        ((directory.placing file.path
            ((directory.temporaries file.path).map fun _ => .written file)).calling writer
          (some { file, next := .syncTemporary }))
  | installed {writer : Writer} {file : StoredFile} {temporary : Temporary}
      (called : directory.writing writer = some { file, next := .install })
      (there : directory.temporaries file.path = some temporary) :
      Steps directory (.advance writer) []
        (({ directory with files := directory.files.rename file.path temporary }.placing file.path
            none).calling writer (some { file, next := .syncDirectory }))
  | lost {writer : Writer} {file : StoredFile}
      (called : directory.writing writer = some { file, next := .install })
      (gone : directory.temporaries file.path = none) :
      Steps directory (.advance writer)
        [.failed writer file (WriteStep.install.context file.description)]
        (directory.calling writer none)
  | finished {writer : Writer} {file : StoredFile}
      (called : directory.writing writer = some { file, next := .syncDirectory }) :
      Steps directory (.advance writer) [.succeeded writer file] (directory.calling writer none)
  | faulted {writer : Writer} {call : LayoutWrite} (called : directory.writing writer = some call) :
      Steps directory (.fault writer)
        [.failed writer call.file (call.next.context call.file.description)]
        (directory.calling writer none)

theorem step_steps (stepped : directory.step event = .ok (reports, next)) :
    directory.Steps event reports next := by
  cases event with
  | start writer file =>
      simp only [step] at stepped
      split at stepped
      · cases stepped
      · obtain ⟨rfl, rfl⟩ := Prod.mk.inj (Outcome.ok.inj stepped)
        exact .started ‹_›
  | advance writer =>
      simp only [step] at stepped
      split at stepped
      · rename_i file now called
        cases now with
        | createTemporary =>
            simp only [act] at stepped
            cases there : directory.temporaries file.path with
            | none =>
                simp only [there, WriteStep.following] at stepped
                obtain ⟨rfl, rfl⟩ := Prod.mk.inj (Outcome.ok.inj stepped)
                exact .created called there
            | some temporary =>
                simp only [there] at stepped
                obtain ⟨rfl, rfl⟩ := Prod.mk.inj (Outcome.ok.inj stepped)
                exact .refused called there
        | install =>
            simp only [act] at stepped
            cases there : directory.temporaries file.path with
            | none =>
                simp only [there] at stepped
                obtain ⟨rfl, rfl⟩ := Prod.mk.inj (Outcome.ok.inj stepped)
                exact .lost called there
            | some temporary =>
                simp only [there, WriteStep.following] at stepped
                obtain ⟨rfl, rfl⟩ := Prod.mk.inj (Outcome.ok.inj stepped)
                exact .installed called there
        | writeTemporary =>
            obtain ⟨rfl, rfl⟩ := Prod.mk.inj (Outcome.ok.inj stepped)
            exact .written called
        | syncDirectory =>
            obtain ⟨rfl, rfl⟩ := Prod.mk.inj (Outcome.ok.inj stepped)
            exact .finished called
        | _ =>
            obtain ⟨rfl, rfl⟩ := Prod.mk.inj (Outcome.ok.inj stepped)
            exact .passed called ⟨by decide, by decide, by decide⟩ rfl
      · cases stepped
  | fault writer =>
      simp only [step] at stepped
      split at stepped
      · obtain ⟨rfl, rfl⟩ := Prod.mk.inj (Outcome.ok.inj stepped)
        exact .faulted ‹_›
      · cases stepped

@[simp]
theorem calling_writing_self {after : Option LayoutWrite} :
    (directory.calling writer after).writing writer = after :=
  Function.update_self ..

theorem calling_writing_of_ne {after : Option LayoutWrite} (different : other ≠ writer) :
    (directory.calling writer after).writing other = directory.writing other :=
  Function.update_of_ne different ..

@[simp]
theorem placing_temporaries_self {temporary : Option Temporary} :
    (directory.placing path temporary).temporaries path = temporary :=
  Function.update_self ..

theorem placing_temporaries_of_ne {place : StorePath} {temporary : Option Temporary}
    (different : path ≠ place) :
    (directory.placing place temporary).temporaries path = directory.temporaries path :=
  Function.update_of_ne different ..

/-- A call that is under way was so before, with the same value, or starts with the event. -/
theorem Steps.called (steps : directory.Steps event reports next)
    (called : next.writing writer = some call) :
    event = .start writer call.file ∨
      ∃ before, directory.writing writer = some before ∧ before.file = call.file := by
  have moved {changed : WrittenDirectory} {mover : Writer} {now after : LayoutWrite}
      (before : directory.writing mover = some now)
      (called : (changed.calling mover (some after)).writing writer = some call)
      (same : changed.writing = directory.writing) (kept : now.file = after.file) :
      ∃ before, directory.writing writer = some before ∧ before.file = call.file := by
    by_cases mine : writer = mover
    · subst mine
      obtain rfl := Option.some.inj (calling_writing_self.symm.trans called)
      exact ⟨now, before, kept⟩
    · exact ⟨call, same ▸ (calling_writing_of_ne mine).symm.trans called, rfl⟩
  have ended {mover : Writer} (called : (directory.calling mover none).writing writer = some call) :
      ∃ before, directory.writing writer = some before ∧ before.file = call.file := by
    by_cases mine : writer = mover
    · subst mine
      cases calling_writing_self.symm.trans called
    · exact ⟨call, (calling_writing_of_ne mine).symm.trans called, rfl⟩
  cases steps with
  | @started mover file free =>
      by_cases mine : writer = mover
      · subst mine
        obtain rfl := Option.some.inj (calling_writing_self.symm.trans called)
        exact Or.inl rfl
      · exact Or.inr ⟨call, (calling_writing_of_ne mine).symm.trans called, rfl⟩
  | passed before => exact Or.inr (moved before called rfl rfl)
  | created before => exact Or.inr (moved before called rfl rfl)
  | refused => exact Or.inr (ended called)
  | written before => exact Or.inr (moved before called rfl rfl)
  | installed before => exact Or.inr (moved before called rfl rfl)
  | lost => exact Or.inr (ended called)
  | finished => exact Or.inr (ended called)
  | faulted => exact Or.inr (ended called)

/-! ## Holding a temporary -/

theorem holds_iff (called : directory.writing writer = some call) :
    directory.Holds writer path ↔ call.next.holdsTemporary = true ∧ call.file.path = path := by
  constructor
  · rintro ⟨other, calledToo, holding, same⟩
    obtain rfl := Option.some.inj (called.symm.trans calledToo)
    exact ⟨holding, same⟩
  · rintro ⟨holding, same⟩
    exact ⟨call, called, holding, same⟩

theorem not_holds_of_free (free : directory.writing writer = none) :
    ¬ directory.Holds writer path := by
  rintro ⟨call, called, _⟩
  rw [free] at called
  cases called

theorem holds_calling_iff {next : Option LayoutWrite} :
    (directory.calling writer next).Holds writer path ↔
      ∃ call, next = some call ∧ call.next.holdsTemporary = true ∧ call.file.path = path := by
  simp [Holds]

theorem holds_calling_of_ne {next : Option LayoutWrite} (different : other ≠ writer) :
    (directory.calling writer next).Holds other path ↔ directory.Holds other path := by
  simp [Holds, calling_writing_of_ne different]

/-- One call at a time holds the temporary of a file, and it stands there, whole once it is
written. -/
structure Orderly (directory : WrittenDirectory) : Prop where
  alone : ∀ {writer other path}, directory.Holds writer path → directory.Holds other path →
    writer = other
  stands : ∀ {writer call}, directory.writing writer = some call →
    call.next.holdsTemporary = true → ∃ temporary,
      directory.temporaries call.file.path = some temporary ∧
        (call.next ≠ .writeTemporary → temporary = .written call.file)

theorem Orderly.temporaries_ne_none (orderly : directory.Orderly)
    (holds : directory.Holds writer path) : directory.temporaries path ≠ none := by
  obtain ⟨call, called, holding, rfl⟩ := holds
  obtain ⟨temporary, stands, _⟩ := orderly.stands called holding
  rw [stands]
  exact Option.some_ne_none temporary

theorem orderly_fresh (files : TopologyFiles) : (fresh files).Orderly :=
  ⟨fun holds _ => absurd holds (not_holds_of_free rfl), fun called => by cases called⟩

/-- A step of one writer keeps the order when it leaves the temporaries that others hold, and the
writer holds none but its own afterwards. -/
theorem Orderly.calling {changed : WrittenDirectory} {after : Option LayoutWrite}
    (orderly : directory.Orderly) (same : changed.writing = directory.writing)
    (others : ∀ other ≠ writer, ∀ path, directory.Holds other path →
      changed.temporaries path = directory.temporaries path)
    (own : ∀ call, after = some call → call.next.holdsTemporary = true →
      (∀ other ≠ writer, ¬ directory.Holds other call.file.path) ∧
        ∃ temporary, changed.temporaries call.file.path = some temporary ∧
          (call.next ≠ .writeTemporary → temporary = .written call.file)) :
    (changed.calling writer after).Orderly := by
  have holdsOther : ∀ other ≠ writer, ∀ path,
      (changed.calling writer after).Holds other path → directory.Holds other path := by
    intro other different path holds
    obtain ⟨call, called, held⟩ := (holds_calling_of_ne different).mp holds
    exact ⟨call, same ▸ called, held⟩
  have ownHeld : ∀ path, (changed.calling writer after).Holds writer path →
      ∀ other ≠ writer, ¬ (changed.calling writer after).Holds other path := by
    intro path holds other different otherHolds
    obtain ⟨call, rfl, holding, rfl⟩ := holds_calling_iff.mp holds
    exact (own call rfl holding).1 other different (holdsOther other different _ otherHolds)
  constructor
  · intro first second path holds holdsToo
    by_cases firstOwn : first = writer
    · by_contra different
      subst firstOwn
      exact ownHeld path holds second (Ne.symm different) holdsToo
    · by_cases secondOwn : second = writer
      · subst secondOwn
        exact absurd holds (ownHeld path holdsToo first firstOwn)
      · exact orderly.alone (holdsOther first firstOwn path holds)
          (holdsOther second secondOwn path holdsToo)
  · intro other call called holding
    by_cases mine : other = writer
    · subst mine
      exact (own call (by simpa using called) holding).2
    · have calledBefore : directory.writing other = some call := by
        rw [← same]
        simpa [calling_writing_of_ne mine] using called
      obtain ⟨temporary, stands, whole⟩ := orderly.stands calledBefore holding
      have unchanged := others other mine call.file.path ⟨call, calledBefore, holding, rfl⟩
      exact ⟨temporary, unchanged.trans stands, whole⟩

/-- Every event keeps the order. -/
theorem Orderly.kept (orderly : directory.Orderly)
    (steps : directory.Steps event reports next) : next.Orderly := by
  cases steps with
  | started free =>
      exact orderly.calling rfl (fun _ _ _ _ => rfl) fun call same holding => by
        obtain rfl := Option.some.inj same
        cases holding
  | @passed writer file now following called plain follows =>
      refine orderly.calling rfl (fun _ _ _ _ => rfl) fun call same holding => ?_
      obtain rfl := Option.some.inj same
      have syncing : now = .syncTemporary ∧ following = .install := by
        obtain ⟨notCreate, notWrite, notInstall⟩ := plain
        cases now <;> simp_all [WriteStep.following] <;> subst follows <;> cases holding
      obtain ⟨rfl, rfl⟩ := syncing
      have holds : directory.Holds writer file.path := (holds_iff called).mpr ⟨rfl, rfl⟩
      obtain ⟨temporary, stands, whole⟩ := orderly.stands called rfl
      exact ⟨fun other different othersToo => different (orderly.alone othersToo holds),
        temporary, stands, fun _ => whole (by simp)⟩
  | @created writer file called clear =>
      have free : ∀ other, ¬ directory.Holds other file.path := fun other holds =>
        orderly.temporaries_ne_none holds clear
      refine orderly.calling rfl (fun other _ path holds => ?_) fun call same _ => ?_
      · exact placing_temporaries_of_ne fun same => free other (same ▸ holds)
      · obtain rfl := Option.some.inj same
        exact ⟨fun other _ => free other, .incomplete, placing_temporaries_self, fun again =>
          absurd rfl again⟩
  | refused called there =>
      exact orderly.calling rfl (fun _ _ _ _ => rfl) fun call same => by cases same
  | @written writer file called =>
      have holds : directory.Holds writer file.path := (holds_iff called).mpr ⟨rfl, rfl⟩
      obtain ⟨temporary, stands, _⟩ := orderly.stands called rfl
      refine orderly.calling rfl (fun other different path othersToo => ?_) fun call same _ => ?_
      · refine placing_temporaries_of_ne fun same => different ?_
        exact orderly.alone othersToo (same ▸ holds)
      · obtain rfl := Option.some.inj same
        refine ⟨fun other different othersToo => different (orderly.alone othersToo holds),
          .written file, ?_, fun _ => rfl⟩
        exact placing_temporaries_self.trans (congrArg (Option.map _) stands)
  | @installed writer file temporary called there =>
      have holds : directory.Holds writer file.path := (holds_iff called).mpr ⟨rfl, rfl⟩
      refine orderly.calling rfl (fun other different path othersToo => ?_)
        fun call same holding => ?_
      · refine placing_temporaries_of_ne fun same => different ?_
        exact orderly.alone othersToo (same ▸ holds)
      · obtain rfl := Option.some.inj same
        cases holding
  | lost called gone =>
      exact orderly.calling rfl (fun _ _ _ _ => rfl) fun call same => by cases same
  | finished called =>
      exact orderly.calling rfl (fun _ _ _ _ => rfl) fun call same => by cases same
  | faulted called =>
      exact orderly.calling rfl (fun _ _ _ _ => rfl) fun call same => by cases same

/-! ## Leftover temporaries -/

theorem not_tidy_iff :
    ¬ directory.Tidy path ↔
      directory.temporaries path ≠ none ∧ ∀ writer, ¬ directory.Holds writer path := by
  rw [Tidy, Classical.not_imp, not_exists]

theorem tidy_fresh (files : TopologyFiles) (path : StorePath) : (fresh files).Tidy path :=
  fun present => absurd rfl present

/-- A step of one writer keeps a path tidy when it adds no temporary there, and goes on to hold the
one that it holds. -/
theorem Tidy.calling {changed : WrittenDirectory} {after : Option LayoutWrite}
    (tidy : directory.Tidy path) (same : changed.writing = directory.writing)
    (added : changed.temporaries path ≠ none → directory.temporaries path ≠ none)
    (own : directory.Holds writer path →
      ∃ call, after = some call ∧ call.next.holdsTemporary = true ∧ call.file.path = path) :
    (changed.calling writer after).Tidy path := by
  intro present
  obtain ⟨holder, call, called, held⟩ := tidy (added present)
  by_cases mine : holder = writer
  · subst mine
    exact ⟨holder, holds_calling_iff.mpr (own ⟨call, called, held⟩)⟩
  · exact ⟨holder, (holds_calling_of_ne mine).mpr ⟨call, same ▸ called, held⟩⟩

/-- A path stays tidy unless a call that holds its temporary is made to fail. -/
theorem Tidy.kept (tidy : directory.Tidy path) (kept : ¬ Leaves path directory event)
    (steps : directory.Steps event reports next) : next.Tidy path := by
  cases steps with
  | started free =>
      exact tidy.calling rfl id fun holds => absurd holds (not_holds_of_free free)
  | @passed writer file now following called plain follows =>
      refine tidy.calling rfl id fun holds => ?_
      obtain ⟨holding, same⟩ := (holds_iff called).mp holds
      obtain ⟨notCreate, notWrite, notInstall⟩ := plain
      refine ⟨_, rfl, ?_, same⟩
      cases now <;> simp_all [WriteStep.following, WriteStep.holdsTemporary]
      subst follows
      rfl
  | @created writer file called clear =>
      by_cases same : file.path = path
      · exact fun _ => ⟨writer, holds_calling_iff.mpr ⟨_, rfl, rfl, same⟩⟩
      · refine tidy.calling rfl (fun present => ?_) fun holds => ?_
        · rwa [placing_temporaries_of_ne (Ne.symm same)] at present
        · cases ((holds_iff called).mp holds).1
  | refused called there =>
      exact tidy.calling rfl id fun holds => by cases ((holds_iff called).mp holds).1
  | @written writer file called =>
      by_cases same : file.path = path
      · exact fun _ => ⟨writer, holds_calling_iff.mpr ⟨_, rfl, rfl, same⟩⟩
      · refine tidy.calling rfl (fun present => ?_) fun holds => ?_
        · rwa [placing_temporaries_of_ne (Ne.symm same)] at present
        · exact absurd ((holds_iff called).mp holds).2 same
  | @installed writer file temporary called there =>
      by_cases same : file.path = path
      · subst same
        exact fun present => absurd placing_temporaries_self present
      · refine tidy.calling rfl (fun present => ?_) fun holds => ?_
        · rwa [placing_temporaries_of_ne (Ne.symm same)] at present
        · exact absurd ((holds_iff called).mp holds).2 same
  | lost called gone =>
      intro present
      obtain ⟨holder, holds⟩ := tidy present
      refine ⟨holder, (holds_calling_of_ne fun mine => ?_).mpr holds⟩
      subst mine
      obtain ⟨_, rfl⟩ := (holds_iff called).mp holds
      exact present gone
  | finished called =>
      exact tidy.calling rfl id fun holds => by cases ((holds_iff called).mp holds).1
  | faulted called =>
      exact tidy.calling rfl id fun holds => absurd ⟨_, rfl, holds⟩ kept

/-- A leftover temporary stays, whatever is tried. -/
theorem not_tidy_step (stale : ¬ directory.Tidy path)
    (steps : directory.Steps event reports next) : ¬ next.Tidy path := by
  obtain ⟨present, free⟩ := not_tidy_iff.mp stale
  have calling {changed : WrittenDirectory} {writer : Writer} {after : Option LayoutWrite}
      (same : changed.writing = directory.writing) (kept : changed.temporaries path ≠ none)
      (own : ∀ call, after = some call → call.next.holdsTemporary = true →
        call.file.path ≠ path) : ¬ (changed.calling writer after).Tidy path := by
    refine not_tidy_iff.mpr ⟨kept, fun holder holds => ?_⟩
    by_cases mine : holder = writer
    · subst mine
      obtain ⟨call, started, holding, samePath⟩ := holds_calling_iff.mp holds
      exact own call started holding samePath
    · obtain ⟨call, called, held⟩ := (holds_calling_of_ne mine).mp holds
      exact free holder ⟨call, same ▸ called, held⟩
  cases steps with
  | started _ =>
      refine calling rfl present fun call same holding => ?_
      obtain rfl := Option.some.inj same
      cases holding
  | @passed writer file now following called plain follows =>
      refine calling rfl present fun call same holding samePath => ?_
      obtain rfl := Option.some.inj same
      obtain ⟨notCreate, notWrite, notInstall⟩ := plain
      refine free writer ((holds_iff called).mpr ⟨?_, samePath⟩)
      cases now <;> simp_all [WriteStep.following, WriteStep.holdsTemporary] <;> subst follows <;>
        cases holding
  | @created writer file called clear =>
      have different : path ≠ file.path := fun same => present (same ▸ clear)
      refine calling rfl ?_ fun call same _ samePath => ?_
      · rwa [placing_temporaries_of_ne different]
      · obtain rfl := Option.some.inj same
        exact different samePath.symm
  | refused _ _ => exact calling rfl present fun call same => by cases same
  | @written writer file called =>
      have different : path ≠ file.path := fun same =>
        free writer ((holds_iff called).mpr ⟨rfl, same.symm⟩)
      refine calling rfl ?_ fun call same _ samePath => ?_
      · rwa [placing_temporaries_of_ne different]
      · obtain rfl := Option.some.inj same
        exact different samePath.symm
  | @installed writer file temporary called there =>
      have different : path ≠ file.path := fun same =>
        free writer ((holds_iff called).mpr ⟨rfl, same.symm⟩)
      refine calling rfl ?_ fun call same holding => ?_
      · rwa [placing_temporaries_of_ne different]
      · obtain rfl := Option.some.inj same
        cases holding
  | lost _ _ => exact calling rfl present fun call same => by cases same
  | finished _ => exact calling rfl present fun call same => by cases same
  | faulted _ => exact calling rfl present fun call same => by cases same

/-- A call that is made to fail while it holds its temporary leaves it behind. -/
theorem Orderly.not_tidy_of_leaves (orderly : directory.Orderly)
    (leaves : Leaves path directory event) (steps : directory.Steps event reports next) :
    ¬ next.Tidy path := by
  obtain ⟨writer, rfl, holds⟩ := leaves
  have present := orderly.temporaries_ne_none holds
  cases steps with
  | faulted called =>
      refine not_tidy_iff.mpr ⟨present, fun other othersToo => ?_⟩
      by_cases mine : other = writer
      · subst mine
        obtain ⟨_, ended, _⟩ := holds_calling_iff.mp othersToo
        cases ended
      · exact mine (orderly.alone ((holds_calling_of_ne mine).mp othersToo) holds)

/-- A call is refused exactly when it comes to create a temporary where one stands. -/
theorem Orderly.refuses_iff (orderly : directory.Orderly) :
    directory.Refuses event ↔
      ∃ path, Creates path directory event ∧ directory.temporaries path ≠ none := by
  constructor
  · rintro ⟨writer, file, error, reports, next, rfl, stepped, failed⟩
    cases step_steps stepped with
    | passed => cases failed
    | created => cases failed
    | refused called there =>
        refine ⟨_, ⟨writer, _, rfl, called, rfl⟩, ?_⟩
        rw [there]
        exact Option.some_ne_none _
    | written => cases failed
    | installed => cases failed
    | lost called gone =>
        exact absurd gone (orderly.temporaries_ne_none ((holds_iff called).mpr ⟨rfl, rfl⟩))
    | finished =>
        rw [List.mem_singleton] at failed
        cases failed
  · rintro ⟨_, ⟨writer, file, rfl, called, rfl⟩, present⟩
    obtain ⟨temporary, there⟩ := Option.ne_none_iff_exists'.mp present
    have stepped : directory.step (.advance writer) =
        .ok ([.failed writer file (WriteStep.createTemporary.context file.description)],
          directory.calling writer none) := by
      simp only [WrittenDirectory.step, called, act, there]
    exact ⟨writer, file, _, _, _, rfl, stepped, List.mem_cons_self⟩

end WrittenDirectory
end Rflow
