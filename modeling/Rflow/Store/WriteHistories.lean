import Rflow.Store.Temporaries

/-!
# Histories of layout writes

Whether a write is served depends on two things of its history: no call on the file was made to fail
while it held its temporary, and no two calls on the file come to create theirs at the same time.
-/

namespace Rflow

open Foundation

namespace WrittenDirectory

variable {directory after next : WrittenDirectory} {event : WriteEvent}
  {events history : List WriteEvent} {reports : List WriteReport} {writer : Writer}
  {path : StorePath} {file : StoredFile} {files : TopologyFiles}

theorem run_orderly (orderly : directory.Orderly)
    (ran : Machine.run step directory events = .ok (reports, after)) : after.Orderly :=
  Machine.run_preserves (fun orderly stepped => orderly.kept (step_steps stepped)) orderly ran

/-! ## Refusals -/

theorem Orderly.temporaries_eq_none_iff (orderly : directory.Orderly) :
    directory.temporaries path = none ↔
      directory.Tidy path ∧ ¬ ∃ writer, directory.Holds writer path := by
  constructor
  · intro clear
    refine ⟨fun present => absurd clear present, ?_⟩
    rintro ⟨writer, holds⟩
    exact orderly.temporaries_ne_none holds clear
  · rintro ⟨tidy, free⟩
    by_contra present
    exact free (tidy present)

theorem Orderly.not_refuses_iff (orderly : directory.Orderly) :
    ¬ directory.Refuses event ↔
      ∀ path, (Creates path directory event → directory.Tidy path) ∧
        ¬ Collides path directory event := by
  rw [orderly.refuses_iff, not_exists]
  refine forall_congr' fun path => ?_
  rw [not_and, not_not, orderly.temporaries_eq_none_iff, Collides]
  tauto

/-- The steps of a run that are not made to fail all succeed exactly when no call comes to create a
temporary after a call on the file was made to fail while holding one, or while another holds
one. -/
theorem along_not_refuses_iff (history : List WriteEvent) :
    Machine.Along step (fun directory event => ¬ directory.Refuses event) (fresh files) history ↔
      ∀ path, Machine.NeverAfter step (Leaves path) (Creates path) (fresh files) history ∧
        Machine.Along step (fun directory event => ¬ Collides path directory event) (fresh files)
          history := by
  have exact : Machine.Along step (fun directory event => ¬ directory.Refuses event) (fresh files)
      history ↔ Machine.Along step (fun directory event => ∀ path,
        (Creates path directory event → directory.Tidy path) ∧
          ¬ Collides path directory event) (fresh files) history :=
    Machine.along_congr (fun orderly (_ : True) => orderly.not_refuses_iff)
      (fun orderly _ _ stepped => orderly.kept (step_steps stepped)) (orderly_fresh files)
      fun _ _ => trivial
  rw [exact, Machine.along_forall]
  refine forall_congr' fun path => Machine.along_and.trans (and_congr ?_ Iff.rfl)
  refine Machine.along_iff_neverAfter_of_invariant (fun _ stale => stale)
    (fun orderly stepped => orderly.kept (step_steps stepped))
    (fun orderly leaves stepped => orderly.not_tidy_of_leaves leaves (step_steps stepped))
    (fun stale stepped => not_tidy_step stale (step_steps stepped))
    (fun tidy kept stepped => tidy.kept kept (step_steps stepped)) (orderly_fresh files)
    (tidy_fresh files path)

/-! ## Leftovers -/

/-- A run leaves a path tidy exactly when none of its calls on the file is made to fail while it
holds its temporary. -/
theorem Orderly.tidy_iff_along (orderly : directory.Orderly) (tidy : directory.Tidy path)
    (ran : Machine.run step directory events = .ok (reports, after)) :
    after.Tidy path ↔ Machine.Along step (fun directory event =>
      ¬ Leaves path directory event) directory events := by
  induction events generalizing directory reports with
  | nil =>
      obtain ⟨_, rfl⟩ : [] = reports ∧ directory = after := by simpa using ran
      exact iff_of_true tidy trivial
  | cons event events induction =>
      obtain ⟨first, next, rest, stepped, remaining, _⟩ := Machine.run_cons_eq_ok.mp ran
      have steps := step_steps stepped
      rw [Machine.along_cons stepped]
      by_cases leaves : Leaves path directory event
      · refine iff_of_false ?_ fun kept => kept.1 leaves
        exact Machine.run_preserves (fun stale stepped => not_tidy_step stale (step_steps stepped))
          (orderly.not_tidy_of_leaves leaves steps) remaining
      · rw [induction (orderly.kept steps) (tidy.kept leaves steps) remaining]
        exact (and_iff_right leaves).symm

/-! ## A call alone -/

/-- A call that runs alone succeeds and installs its value, and leaves nothing else behind. -/
def ServedAlone (directory : WrittenDirectory) (writer : Writer) (file : StoredFile) : Prop :=
  Machine.run step directory (.start writer file :: List.replicate 8 (.advance writer)) =
    .ok ([.succeeded writer file],
      { directory with files := directory.files.perform (.installs file) })

theorem servedAlone_iff (idle : directory.Idle) :
    directory.ServedAlone writer file ↔ directory.temporaries file.path = none := by
  have free := idle writer
  cases there : directory.temporaries file.path with
  | none =>
      refine iff_of_true ?_ rfl
      simp [ServedAlone, List.replicate, Machine.run, step, act, calling, placing, free, there,
        WriteStep.following, TopologyFiles.rename]
  | some temporary =>
      refine iff_of_false (fun served => ?_) (Option.some_ne_none _)
      simp [ServedAlone, List.replicate, Machine.run, step, act, calling, free, there,
        WriteStep.following] at served

/-! ## Overlapping calls -/

section Overlapping

variable {values : Writer → StoredFile} {schedule : List Writer} {base : TopologyFiles}
  {past : List WriteReport}

/-- One call of each writer; both have started before either takes a step, and the schedule says who
takes the next one. -/
def overlapping (values : Writer → StoredFile) (schedule : List Writer) : List WriteEvent :=
  .start .supervisor (values .supervisor) :: .start .session (values .session) ::
    schedule.map .advance

/-- Neither of two calls has returned an error, and the file holds the value of one of them. -/
def ServedTogether (values : Writer → StoredFile) (before after : WrittenDirectory)
    (reports : List WriteReport) : Prop :=
  (∀ writer file error, .failed writer file error ∉ reports) ∧
    ∃ writer, after.files = before.files.perform (.installs (values writer))

theorem perform_installs_perform {first second : StoredFile} (same : first.path = second.path) :
    (files.perform (.installs first)).perform (.installs second) =
      files.perform (.installs second) := by
  cases first <;> cases second
  · rfl
  · cases same
  · cases same
  · rfl

/-- What holds while both calls are under way or have ended: each is about its own value, those that
have ended have told how, and once a value is installed the file holds one of the two. -/
structure Underway (values : Writer → StoredFile) (base : TopologyFiles)
    (past : List WriteReport) (directory : WrittenDirectory) : Prop where
  orderly : directory.Orderly
  own : ∀ {writer call}, directory.writing writer = some call → call.file = values writer
  ended : ∀ {writer}, directory.writing writer = none →
    .succeeded writer (values writer) ∈ past ∨ ∃ error, .failed writer (values writer) error ∈ past
  files : directory.files = base ∨
    ∃ writer, directory.files = base.perform (.installs (values writer))
  installed : ∀ {writer}, .succeeded writer (values writer) ∈ past ∨
      directory.writing writer = some { file := values writer, next := .syncDirectory } →
    ∃ other, directory.files = base.perform (.installs (values other))

/-- A step that installs nothing keeps the calls under way, when a call that ends with it tells
how. -/
theorem Underway.calling {changed : WrittenDirectory} {call : Option LayoutWrite}
    (underway : Underway values base past directory)
    (orderly : (changed.calling writer call).Orderly)
    (same : changed.writing = directory.writing) (unchanged : changed.files = directory.files)
    (own : ∀ write, call = some write → write.file = values writer ∧ write.next ≠ .syncDirectory)
    (ended : call = none → .succeeded writer (values writer) ∈ reports ∨
      ∃ error, .failed writer (values writer) error ∈ reports)
    (succeeds : ∀ other, .succeeded other (values other) ∈ reports →
      directory.writing other = some { file := values other, next := .syncDirectory }) :
    Underway values base (past ++ reports) (changed.calling writer call) where
  orderly := orderly
  own := by
    intro other write called
    by_cases mine : other = writer
    · subst mine
      exact (own write (by simpa using called)).1
    · exact underway.own (by rwa [calling_writing_of_ne mine, same] at called)
  ended := by
    intro other free
    by_cases mine : other = writer
    · subst mine
      rcases ended (by simpa using free) with succeeded | ⟨error, failed⟩
      · exact Or.inl (List.mem_append_right _ succeeded)
      · exact Or.inr ⟨error, List.mem_append_right _ failed⟩
    · rcases underway.ended (by rwa [calling_writing_of_ne mine, same] at free) with
        succeeded | ⟨error, failed⟩
      · exact Or.inl (List.mem_append_left _ succeeded)
      · exact Or.inr ⟨error, List.mem_append_left _ failed⟩
  files := by
    change changed.files = base ∨ ∃ writer, changed.files = _
    rw [unchanged]
    exact underway.files
  installed := by
    intro other placed
    change ∃ other, changed.files = _
    rw [unchanged]
    rcases placed with succeeded | finishing
    · rcases List.mem_append.mp succeeded with earlier | now
      · exact underway.installed (Or.inl earlier)
      · exact underway.installed (Or.inr (succeeds other now))
    · by_cases mine : other = writer
      · subst mine
        exact absurd rfl (own _ (by simpa using finishing)).2
      · exact underway.installed (Or.inr (by rwa [calling_writing_of_ne mine, same] at finishing))

/-- Every step of one of the calls keeps them under way. -/
theorem Underway.kept (samePath : ∀ writer, (values writer).path = path)
    (underway : Underway values base past directory)
    (steps : directory.Steps (.advance writer) reports next) :
    Underway values base (past ++ reports) next := by
  have orderly := underway.orderly.kept steps
  cases steps with
  | @passed _ file now following called plain follows =>
      have mine : file = values writer := underway.own called
      refine underway.calling orderly rfl rfl (fun write same => ?_) (fun same => by cases same)
        fun other succeeded => by cases succeeded
      obtain rfl := Option.some.inj same
      refine ⟨mine, ?_⟩
      rintro rfl
      obtain ⟨_, _, notInstall⟩ := plain
      cases now <;> simp_all [WriteStep.following]
  | @created _ file called clear =>
      have mine : file = values writer := underway.own called
      refine underway.calling orderly rfl rfl (fun write same => ?_) (fun same => by cases same)
        fun other succeeded => by cases succeeded
      obtain rfl := Option.some.inj same
      exact ⟨mine, by simp⟩
  | refused called there =>
      obtain rfl := underway.own called
      refine underway.calling orderly rfl rfl (fun write same => by cases same)
        (fun _ => Or.inr ⟨_, List.mem_cons_self⟩) fun other succeeded => ?_
      simp at succeeded
  | @written _ file called =>
      have mine : file = values writer := underway.own called
      refine underway.calling orderly rfl rfl (fun write same => ?_) (fun same => by cases same)
        fun other succeeded => by cases succeeded
      obtain rfl := Option.some.inj same
      exact ⟨mine, by simp⟩
  | @installed _ file temporary called there =>
      obtain rfl : file = values writer := underway.own called
      obtain ⟨_, stands, whole⟩ := underway.orderly.stands called rfl
      obtain rfl : temporary = .written (values writer) :=
        (Option.some.inj (there.symm.trans stands)).trans (whole (by simp))
      have installs : directory.files.rename (values writer).path (.written (values writer)) =
          base.perform (.installs (values writer)) := by
        rw [TopologyFiles.rename]
        rcases underway.files with same | ⟨other, same⟩
        · rw [same]
        · rw [same, perform_installs_perform ((samePath other).trans (samePath writer).symm)]
      refine ⟨orderly, ?_, ?_, Or.inr ⟨writer, installs⟩, fun _ => ⟨writer, installs⟩⟩
      · intro other write calledToo
        by_cases mine : other = writer
        · subst mine
          obtain rfl := Option.some.inj (calling_writing_self.symm.trans calledToo)
          rfl
        · rw [calling_writing_of_ne mine] at calledToo
          exact underway.own calledToo
      · intro other free
        by_cases mine : other = writer
        · subst mine
          cases calling_writing_self.symm.trans free
        · rw [calling_writing_of_ne mine] at free
          rw [List.append_nil]
          exact underway.ended free
  | lost called gone =>
      obtain rfl := underway.own called
      refine underway.calling orderly rfl rfl (fun write same => by cases same)
        (fun _ => Or.inr ⟨_, List.mem_cons_self⟩) fun other succeeded => ?_
      simp at succeeded
  | finished called =>
      obtain rfl := underway.own called
      refine underway.calling orderly rfl rfl (fun write same => by cases same)
        (fun _ => Or.inl List.mem_cons_self) fun other succeeded => ?_
      obtain ⟨rfl, _⟩ := WriteReport.succeeded.inj (List.mem_singleton.mp succeeded)
      exact called

/-- A run of two overlapping calls. -/
theorem underway_of_run (orderly : directory.Orderly)
    (samePath : ∀ writer, (values writer).path = path)
    (ran : Machine.run step directory (overlapping values schedule) = .ok (reports, after)) :
    Underway values directory.files reports after := by
  obtain ⟨_, first, _, startedFirst, ranOn, rfl⟩ := Machine.run_cons_eq_ok.mp ran
  obtain ⟨_, second, _, startedSecond, advanced, rfl⟩ := Machine.run_cons_eq_ok.mp ranOn
  have firstSteps := step_steps startedFirst
  have secondSteps := step_steps startedSecond
  have secondOrderly := (orderly.kept firstSteps).kept secondSteps
  have start : Underway values directory.files [] second := by
    cases firstSteps
    cases secondSteps
    have writing : ∀ writer, ((directory.calling .supervisor (some
        { file := values .supervisor, next := .createDirectory })).calling .session (some
          { file := values .session, next := .createDirectory })).writing writer =
        some { file := values writer, next := .createDirectory } := by
      intro writer
      cases writer <;> rfl
    refine ⟨secondOrderly, fun called => ?_, fun free => ?_, Or.inl rfl, fun placed => ?_⟩
    · obtain rfl := Option.some.inj ((writing _).symm.trans called)
      rfl
    · cases (writing _).symm.trans free
    · rcases placed with succeeded | finishing
      · cases succeeded
      · cases (writing _).symm.trans finishing
  have kept {past : List WriteReport} {current next : WrittenDirectory} {event : WriteEvent}
      {reports : List WriteReport} (underway : Underway values directory.files past current)
      (advances : ∃ writer, event = .advance writer)
      (stepped : current.step event = .ok (reports, next)) :
      Underway values directory.files (past ++ reports) next := by
    obtain ⟨writer, rfl⟩ := advances
    exact underway.kept samePath (step_steps stepped)
  cases firstSteps
  cases secondSteps
  exact Machine.run_emits_on kept start
    (fun event member => (List.mem_map.mp member).imp fun _ same => same.2.symm) advanced

/-- A run without failed calls refuses none. -/
theorem along_not_refuses_of_run
    (ran : Machine.run step directory events = .ok (reports, after))
    (unfailed : ∀ writer file error, .failed writer file error ∉ reports) :
    Machine.Along step (fun directory event => ¬ directory.Refuses event) directory events := by
  induction events generalizing directory reports with
  | nil => trivial
  | cons event events induction =>
      obtain ⟨first, next, rest, stepped, remaining, rfl⟩ := Machine.run_cons_eq_ok.mp ran
      rw [Machine.along_cons stepped]
      refine ⟨?_, induction remaining fun writer file error failed =>
        unfailed writer file error (List.mem_append_right _ failed)⟩
      rintro ⟨writer, file, error, other, last, _, again, failed⟩
      obtain ⟨rfl, _⟩ := Prod.mk.inj (Outcome.ok.inj (stepped.symm.trans again))
      exact unfailed writer file error (List.mem_append_left _ failed)

/-- A run whose steps are not made to fail and that refuses none has no failed calls. -/
theorem unfailed_of_along (unforced : ∀ event ∈ events, ∀ writer, event ≠ .fault writer)
    (along : Machine.Along step (fun directory event => ¬ directory.Refuses event) directory events)
    (ran : Machine.run step directory events = .ok (reports, after)) :
    ∀ writer file error, .failed writer file error ∉ reports := by
  induction events generalizing directory reports with
  | nil =>
      obtain ⟨rfl, _⟩ : [] = reports ∧ directory = after := by simpa using ran
      simp
  | cons event events induction =>
      obtain ⟨first, next, rest, stepped, remaining, rfl⟩ := Machine.run_cons_eq_ok.mp ran
      obtain ⟨served, onward⟩ := (Machine.along_cons stepped).mp along
      obtain ⟨free, later⟩ := List.forall_mem_cons.mp unforced
      intro writer file error failed
      rcases List.mem_append.mp failed with now | late
      · cases event with
        | start starter value => cases step_steps stepped with
            | started => cases now
        | advance mover =>
            refine served ⟨mover, file, error, first, next, rfl, stepped, ?_⟩
            cases step_steps stepped <;> simp_all
        | fault faulty => exact free faulty rfl
      · exact induction later onward remaining writer file error late

/-- No call on the file has created its temporary yet. -/
def Early (path : StorePath) (directory : WrittenDirectory) : Prop :=
  ∀ writer call, directory.writing writer = some call → call.file.path = path →
    call.next.precedesTemporary = true

/-- While nobody creates a temporary of the file, no call on it gets that far or succeeds. -/
theorem Early.kept (early : Early path directory) (uncreated : ¬ Creates path directory event)
    (steps : directory.Steps event reports next) :
    Early path next ∧ ∀ report ∈ reports, ∀ writer file, file.path = path →
      report ≠ .succeeded writer file := by
  have calling {changed : WrittenDirectory} {writer : Writer} {after : Option LayoutWrite}
      (same : changed.writing = directory.writing)
      (own : ∀ call, after = some call → call.file.path = path →
        call.next.precedesTemporary = true) : Early path (changed.calling writer after) := by
    intro other call called samePath
    by_cases mine : other = writer
    · subst mine
      exact own call (calling_writing_self.symm.trans called) samePath
    · exact early _ _ (same ▸ (calling_writing_of_ne mine).symm.trans called) samePath
  cases steps with
  | started free =>
      refine ⟨calling rfl fun call same _ => ?_, by simp⟩
      obtain rfl := Option.some.inj same
      rfl
  | @passed writer file now following called plain follows =>
      refine ⟨calling rfl fun call same samePath => ?_, by simp⟩
      obtain rfl := Option.some.inj same
      have before : now.precedesTemporary = true := early _ _ called samePath
      obtain ⟨notCreate, _, _⟩ := plain
      cases now <;> simp_all [WriteStep.precedesTemporary, WriteStep.following] <;>
        subst follows <;> rfl
  | @created writer file called clear =>
      refine ⟨calling rfl fun call same samePath => ?_, by simp⟩
      obtain rfl := Option.some.inj same
      exact absurd ⟨writer, file, rfl, called, samePath⟩ uncreated
  | refused => exact ⟨calling rfl (fun call same => by cases same), by simp⟩
  | written called =>
      refine ⟨calling rfl fun call same samePath => ?_, by simp⟩
      obtain rfl := Option.some.inj same
      cases early _ _ called samePath
  | installed called =>
      refine ⟨calling rfl fun call same samePath => ?_, by simp⟩
      obtain rfl := Option.some.inj same
      cases early _ _ called samePath
  | lost => exact ⟨calling rfl (fun call same => by cases same), by simp⟩
  | @finished writer file called =>
      refine ⟨calling rfl (fun call same => by cases same), ?_⟩
      intro report member other value samePath same
      obtain ⟨_, rfl⟩ := WriteReport.succeeded.inj ((List.mem_singleton.mp member).symm.trans same)
      cases early _ _ called samePath
  | faulted => exact ⟨calling rfl (fun call same => by cases same), by simp⟩

/-- Where a temporary was left behind, no call of a run that refuses none succeeds. -/
theorem not_succeeded_of_not_tidy (stale : ¬ directory.Tidy path) (early : Early path directory)
    (along : Machine.Along step (fun directory event =>
      Creates path directory event → directory.Tidy path) directory events)
    (ran : Machine.run step directory events = .ok (reports, after)) :
    ∀ report ∈ reports, ∀ writer file, file.path = path → report ≠ .succeeded writer file := by
  have uncreated : Machine.Along step (fun directory event => ¬ Creates path directory event)
      directory events :=
    Machine.Along.of_invariant (fun stale creates created => stale (creates created))
      (fun stale _ stepped => not_tidy_step stale (step_steps stepped)) stale along
  exact Machine.run_outputs_along (fun early uncreated stepped =>
    Early.kept early uncreated (step_steps stepped)) early uncreated ran

/-- The events of two overlapping calls on one file. -/
theorem mem_overlapping (samePath : ∀ writer, (values writer).path = path)
    (member : event ∈ overlapping values schedule) :
    (∃ writer file, event = .start writer file ∧ file.path = path) ∨
      ∃ writer, event = .advance writer := by
  rcases List.mem_cons.mp member with rfl | member
  · exact Or.inl ⟨_, _, rfl, samePath _⟩
  · rcases List.mem_cons.mp member with rfl | member
    · exact Or.inl ⟨_, _, rfl, samePath _⟩
    · obtain ⟨writer, _, rfl⟩ := List.mem_map.mp member
      exact Or.inr ⟨writer, rfl⟩

/-- All calls under way are on one file. -/
def OnPath (path : StorePath) (directory : WrittenDirectory) : Prop :=
  ∀ writer call, directory.writing writer = some call → call.file.path = path

/-- Calls on one tidy file are refused exactly when they collide. -/
theorem Orderly.refuses_iff_collides (orderly : directory.Orderly) (tidy : directory.Tidy path)
    (onPath : OnPath path directory) :
    directory.Refuses event ↔ Collides path directory event := by
  rw [orderly.refuses_iff]
  constructor
  · rintro ⟨_, ⟨writer, file, rfl, called, rfl⟩, present⟩
    obtain rfl : file.path = path := onPath _ _ called
    exact ⟨⟨writer, file, rfl, called, rfl⟩, tidy present⟩
  · rintro ⟨creates, holder, holds⟩
    exact ⟨path, creates, orderly.temporaries_ne_none holds⟩

/-- Two overlapping calls on one tidy file are refused none of their steps exactly when they do not
collide. -/
theorem Orderly.along_not_collides_iff (orderly : directory.Orderly) (tidy : directory.Tidy path)
    (idle : directory.Idle) (samePath : ∀ writer, (values writer).path = path) :
    Machine.Along step (fun directory event => ¬ Collides path directory event) directory
        (overlapping values schedule) ↔
      Machine.Along step (fun directory event => ¬ directory.Refuses event) directory
        (overlapping values schedule) := by
  have same {current : WrittenDirectory} {event : WriteEvent}
      (holds : current.Orderly ∧ current.Tidy path ∧ OnPath path current)
      (_ : (∃ writer file, event = .start writer file ∧ file.path = path) ∨
        ∃ writer, event = .advance writer) :
      ¬ Collides path current event ↔ ¬ current.Refuses event :=
    not_congr (holds.1.refuses_iff_collides holds.2.1 holds.2.2).symm
  have kept {current next : WrittenDirectory} {event : WriteEvent} {reports : List WriteReport}
      (holds : current.Orderly ∧ current.Tidy path ∧ OnPath path current)
      (admissible : (∃ writer file, event = .start writer file ∧ file.path = path) ∨
        ∃ writer, event = .advance writer)
      (_ : ¬ Collides path current event) (stepped : current.step event = .ok (reports, next)) :
      next.Orderly ∧ next.Tidy path ∧ OnPath path next := by
    obtain ⟨orderly, tidy, onPath⟩ := holds
    have steps := step_steps stepped
    have unleft : ¬ Leaves path current event := by
      rintro ⟨writer, rfl, _⟩
      rcases admissible with ⟨_, _, same, _⟩ | ⟨_, same⟩ <;> cases same
    refine ⟨orderly.kept steps, tidy.kept unleft steps, fun writer call called => ?_⟩
    rcases steps.called called with rfl | ⟨before, calledBefore, sameFile⟩
    · rcases admissible with ⟨_, _, same, onPathToo⟩ | ⟨_, same⟩
      · obtain ⟨_, rfl⟩ := WriteEvent.start.inj same
        exact onPathToo
      · cases same
    · rw [← sameFile]
      exact onPath _ _ calledBefore
  refine Machine.along_congr same kept ⟨orderly, tidy, fun writer call called => ?_⟩
    fun event member => mem_overlapping samePath member
  rw [idle] at called
  cases called

/-- Two overlapping calls on one file are both served exactly when no temporary was left behind and
they do not collide. -/
theorem Orderly.servedTogether_iff (orderly : directory.Orderly) (idle : directory.Idle)
    (samePath : ∀ writer, (values writer).path = path)
    (ran : Machine.run step directory (overlapping values schedule) = .ok (reports, after))
    (ended : after.Idle) :
    ServedTogether values directory after reports ↔
      directory.Tidy path ∧ Machine.Along step (fun directory event =>
        ¬ Collides path directory event) directory (overlapping values schedule) := by
  have underway := underway_of_run orderly samePath ran
  constructor
  · rintro ⟨unfailed, _⟩
    have served := along_not_refuses_of_run ran unfailed
    have tidy : directory.Tidy path := by
      by_contra stale
      have creates : Machine.Along step (fun directory event =>
          Creates path directory event → directory.Tidy path) directory
            (overlapping values schedule) :=
        Machine.Along.of_invariant
          (fun orderly served => ((Orderly.not_refuses_iff orderly).mp served path).1)
          (fun orderly _ stepped => orderly.kept (step_steps stepped)) orderly served
      have early : Early path directory := by
        intro writer call called
        rw [idle] at called
        cases called
      rcases underway.ended (ended .supervisor) with succeeded | ⟨error, failed⟩
      · exact not_succeeded_of_not_tidy stale early creates ran _ succeeded _ _
          (samePath .supervisor) rfl
      · exact unfailed _ _ _ failed
    exact ⟨tidy, (orderly.along_not_collides_iff tidy idle samePath).mpr served⟩
  · rintro ⟨tidy, apart⟩
    have served := (orderly.along_not_collides_iff tidy idle samePath).mp apart
    have unforced : ∀ event ∈ overlapping values schedule, ∀ writer, event ≠ .fault writer := by
      rintro event member writer rfl
      rcases mem_overlapping samePath member with ⟨_, _, same, _⟩ | ⟨_, same⟩ <;> cases same
    have unfailed := unfailed_of_along unforced served ran
    refine ⟨unfailed, ?_⟩
    rcases underway.ended (ended .supervisor) with succeeded | ⟨error, failed⟩
    · exact underway.installed (Or.inl succeeded)
    · exact absurd failed (unfailed _ _ _)

end Overlapping

/-- When layout writes are served, over every history of calls in one process.  Their steps all go
well, but for those that are made to fail, exactly when none comes to create a temporary after a
call on its file was made to fail while holding one, or while another holds one.  Once nobody is in
a call, a lone call is served exactly when no call on its file was made to fail while holding its
temporary, and two overlapping ones exactly when moreover they do not collide. -/
theorem writes_served_iff
    (ran : Machine.run step (fresh files) history = .ok (reports, directory)) :
    (Machine.Along step (fun directory event => ¬ directory.Refuses event) (fresh files) history ↔
        ∀ path, Machine.NeverAfter step (Leaves path) (Creates path) (fresh files) history ∧
          Machine.Along step (fun directory event => ¬ Collides path directory event) (fresh files)
            history) ∧
      (directory.Idle →
        (∀ writer file, directory.ServedAlone writer file ↔
          Machine.Along step (fun directory event => ¬ Leaves file.path directory event)
            (fresh files) history) ∧
        ∀ path values schedule outputs after, (∀ writer, (values writer).path = path) →
          Machine.run step directory (overlapping values schedule) = .ok (outputs, after) →
          after.Idle →
            (ServedTogether values directory after outputs ↔
              Machine.Along step (fun directory event => ¬ Leaves path directory event)
                (fresh files) history ∧
              Machine.Along step (fun directory event => ¬ Collides path directory event) directory
                (overlapping values schedule))) := by
  have orderly := run_orderly (orderly_fresh files) ran
  have tidy : ∀ path, directory.Tidy path ↔ Machine.Along step (fun directory event =>
      ¬ Leaves path directory event) (fresh files) history := fun path =>
    (orderly_fresh files).tidy_iff_along (tidy_fresh files path) ran
  refine ⟨along_not_refuses_iff history, fun idle => ⟨fun writer file => ?_, ?_⟩⟩
  · rw [servedAlone_iff idle, orderly.temporaries_eq_none_iff, ← tidy, and_iff_left]
    rintro ⟨holder, holds⟩
    exact not_holds_of_free (idle holder) holds
  · intro path values schedule outputs after samePath ranOn ended
    rw [orderly.servedTogether_iff idle samePath ranOn ended, tidy]

/-- Nothing is stored yet. -/
def nothingStored : TopologyFiles where
  inventory := .absent
  layout := .absent

/-- A call that fails before it has its temporary. -/
def earlyFault : List WriteEvent :=
  [.start .session (.layout default), .advance .session, .advance .session, .fault .session]

/-- Two calls on the same file, one after the other. -/
def inTurn : List WriteEvent :=
  overlapping (fun _ => .layout default)
    (List.replicate 8 Writer.supervisor ++ List.replicate 8 Writer.session)

/-- A call fails before it has its temporary, and two calls are served after it, one and then the
other. -/
theorem writes_served_iff_in_turn :
    ∃ reports directory,
      Machine.run step (fresh nothingStored) earlyFault = .ok (reports, directory) ∧
      directory.Idle ∧
      Machine.Along step (fun directory event => ¬ Leaves .layout directory event)
        (fresh nothingStored) earlyFault ∧
      ∃ outputs after, Machine.run step directory inTurn = .ok (outputs, after) ∧ after.Idle ∧
        ServedTogether (fun _ => .layout default) directory after outputs ∧
        Machine.Along step (fun directory event => ¬ Collides .layout directory event) directory
          inTurn := by
  obtain ⟨reports, directory, ran, idle, clear, unchanged⟩ : ∃ reports directory,
      Machine.run step (fresh nothingStored) earlyFault = .ok (reports, directory) ∧
        directory.Idle ∧ directory.temporaries .layout = none ∧
        directory = fresh nothingStored := by
    refine ⟨_, _, rfl, ?_, rfl, ?_⟩
    · intro writer
      cases writer <;> rfl
    · simp [fresh, calling]
  subst unchanged
  obtain ⟨outputs, after, ranOn, ended, served⟩ : ∃ outputs after,
      Machine.run step (fresh nothingStored) inTurn = .ok (outputs, after) ∧ after.Idle ∧
        ServedTogether (fun _ => .layout default) (fresh nothingStored) after outputs := by
    refine ⟨[.succeeded .supervisor (.layout default), .succeeded .session (.layout default)], _,
      rfl, ?_, ?_, .session, rfl⟩
    · intro writer
      cases writer <;> rfl
    · simp
  obtain ⟨alone, together⟩ := (writes_served_iff ran).2 idle
  refine ⟨reports, _, ran, idle, ?_, outputs, after, ranOn, ended, served, ?_⟩
  · exact (alone .session (.layout default)).mp ((servedAlone_iff idle).mpr clear)
  · exact ((together .layout _ _ outputs after (fun _ => rfl) ranOn ended).mp served).2

/-- A call fails to write its temporary, and every later call on the file fails to create one.  Of
two overlapping calls the second fails to create its own. -/
theorem failed_write_poisons :
    (∃ reports directory, Machine.run step (fresh nothingStored)
        [.start .supervisor (.layout default), .advance .supervisor, .advance .supervisor,
          .advance .supervisor, .advance .supervisor, .fault .supervisor] =
          .ok (reports, directory) ∧
      directory.Idle ∧ ∀ writer, ¬ directory.ServedAlone writer (.layout default)) ∧
    ∃ reports after, Machine.run step (fresh nothingStored) (overlapping (fun _ => .layout default)
        (List.replicate 4 .supervisor ++ List.replicate 4 .session ++
          List.replicate 4 .supervisor)) = .ok (reports, after) ∧
      after.Idle ∧
      .failed .session (.layout default) "create temporary screen topology" ∈ reports := by
  refine ⟨⟨_, _, rfl, fun writer => by cases writer <;> rfl, fun writer served => ?_⟩,
    [.failed .session (.layout default) "create temporary screen topology",
      .succeeded .supervisor (.layout default)], _, rfl, ?_, List.mem_cons_self⟩
  · have clear := (servedAlone_iff fun writer => by cases writer <;> rfl).mp served
    cases clear
  · intro writer
    cases writer <;> rfl

end WrittenDirectory
end Rflow
