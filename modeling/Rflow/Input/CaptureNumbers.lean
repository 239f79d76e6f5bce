import Rflow.Foundation.Progress
import Rflow.Input.CaptureRuns

/-!
# The numbers of captured events

Every event that a thread hands over bears a number from the counter that the threads share.  A
thread takes its number before it hands the event over, and other threads may come between.
-/

namespace Rflow

open Foundation

/-- The number of an event that is handed over. -/
def CaptureOutput.number : CaptureOutput → Option Nat
  | called event => some event.sequence
  | _ => none

/-- The number of an event that a device hands over. -/
def CaptureOutput.numberFrom (source : Nat) : CaptureOutput → Option Nat
  | called event => if event.source = source then some event.sequence else none
  | _ => none

namespace Capture

variable {devices : Nat} {capture next : Capture devices} {input : CaptureInput devices}
  {inputs : List (CaptureInput devices)} {past outputs : List CaptureOutput}
  {source mover : Fin devices} {thread : CaptureThread}

/-- The counter has not run through all of its values. -/
def Counting (capture : Capture devices) : Prop := capture.sequence < u64Max

instance (capture : Capture devices) : Decidable capture.Counting :=
  inferInstanceAs (Decidable (_ < _))

/-- The numbers given out so far are apart from each other, and those of a thread increase. -/
structure Numbered (past : List CaptureOutput) (capture : Capture devices) : Prop where
  labelled : capture.Labelled
  counted : ∀ number ∈ past.filterMap CaptureOutput.number, number ≤ capture.sequence
  nodup : (past.filterMap CaptureOutput.number).Nodup
  increase : ∀ source : Fin devices,
    (past.filterMap (CaptureOutput.numberFrom source)).Pairwise (· < ·)
  pending : ∀ {source event batch}, capture.threads source = .calling event batch →
    event.sequence ≤ capture.sequence ∧
      event.sequence ∉ past.filterMap CaptureOutput.number ∧
      ∀ number ∈ past.filterMap (CaptureOutput.numberFrom source), number < event.sequence
  apart : ∀ {source other event another batch rest},
    capture.threads source = .calling event batch → capture.threads other = .calling another rest →
      event.sequence = another.sequence → source = other

theorem mem_numbers_of_mem_numbersFrom {number : Nat} {source : Nat}
    (member : number ∈ past.filterMap (CaptureOutput.numberFrom source)) :
    number ∈ past.filterMap CaptureOutput.number := by
  obtain ⟨output, isPast, found⟩ := List.mem_filterMap.mp member
  refine List.mem_filterMap.mpr ⟨output, isPast, ?_⟩
  cases output with
  | called event =>
      simp only [CaptureOutput.numberFrom] at found
      split_ifs at found
      exact found
  | captured => cases found
  | moved => cases found
  | failed => cases found

/-- A thread that is not in its callback afterwards leaves the numbers as they are. -/
theorem Numbered.placing (numbered : Numbered past capture)
    (idle : ∀ event batch, thread ≠ .calling event batch) :
    Numbered past (capture.placing mover thread) := by
  have before {source : Fin devices} {event : NativeCapturedEvent} {batch : Batch}
      (calling : (capture.placing mover thread).threads source = .calling event batch) :
      capture.threads source = .calling event batch := by
    by_cases mine : source = mover
    · subst mine
      exact absurd (placing_threads_self.symm.trans calling) (idle event batch)
    · exact (placing_threads_of_ne mine).symm.trans calling
  exact
    { labelled := fun source event batch calling => numbered.labelled source event batch
        (before calling)
      counted := numbered.counted
      nodup := numbered.nodup
      increase := numbered.increase
      pending := fun calling => numbered.pending (before calling)
      apart := fun calling another => numbered.apart (before calling) (before another) }

/-- A thread takes the next number. -/
theorem Numbered.taking (numbered : Numbered past capture) {event : NativeCapturedEvent}
    {batch : Batch} (label : event.source = mover)
    (taken : event.sequence = capture.sequence + 1) :
    Numbered past ({ capture with sequence := capture.sequence + 1 }.placing mover
      (.calling event batch)) := by
  have threads {source : Fin devices} {other : NativeCapturedEvent} {rest : Batch}
      (calling : ({ capture with sequence := capture.sequence + 1 }.placing mover
        (.calling event batch)).threads source = .calling other rest) :
      (source = mover ∧ other = event) ∨
        (source ≠ mover ∧ capture.threads source = .calling other rest) := by
    by_cases mine : source = mover
    · subst mine
      rw [placing_threads_self] at calling
      exact Or.inl ⟨rfl, (CaptureThread.calling.inj calling).1.symm⟩
    · rw [placing_threads_of_ne mine] at calling
      exact Or.inr ⟨mine, calling⟩
  have fresh : ∀ number ∈ past.filterMap CaptureOutput.number, number < event.sequence := by
    intro number member
    rw [taken]
    exact Nat.lt_succ_of_le (numbered.counted number member)
  have below {source : Fin devices} {other : NativeCapturedEvent} {rest : Batch}
      (calling : capture.threads source = .calling other rest) :
      other.sequence < event.sequence := by
    rw [taken]
    exact Nat.lt_succ_of_le (numbered.pending calling).1
  refine ⟨?_, fun number member => (numbered.counted number member).trans (Nat.le_succ _),
    numbered.nodup, numbered.increase, fun calling => ?_, fun calling another same => ?_⟩
  · intro source other rest calling
    rcases threads calling with ⟨rfl, rfl⟩ | ⟨_, calling⟩
    · exact label
    · exact numbered.labelled source other rest calling
  · rcases threads calling with ⟨rfl, rfl⟩ | ⟨_, calling⟩
    · exact ⟨taken.le, fun member => absurd rfl (fresh _ member).ne, fun number member =>
        fresh number (mem_numbers_of_mem_numbersFrom member)⟩
    · obtain ⟨counted, unused, later⟩ := numbered.pending calling
      exact ⟨counted.trans (Nat.le_succ _), unused, later⟩
  · rcases threads calling with ⟨rfl, rfl⟩ | ⟨_, before⟩ <;>
      rcases threads another with ⟨rfl, rfl⟩ | ⟨_, beforeToo⟩
    · rfl
    · exact absurd same.symm (below beforeToo).ne
    · exact absurd same (below before).ne
    · exact numbered.apart before beforeToo same

/-- A thread hands its event over. -/
theorem Numbered.calling (numbered : Numbered past capture) {event : NativeCapturedEvent}
    {batch rest : Batch} (called : capture.threads mover = .calling event batch) :
    Numbered (past ++ [.called event]) (capture.placing mover (.running rest)) := by
  obtain ⟨counted, unused, later⟩ := numbered.pending called
  have label := numbered.labelled mover event batch called
  have others {source : Fin devices} {other : NativeCapturedEvent} {rest' : Batch}
      (calling : (capture.placing mover (.running rest)).threads source = .calling other rest') :
      source ≠ mover ∧ capture.threads source = .calling other rest' := by
    by_cases mine : source = mover
    · subst mine
      rw [placing_threads_self] at calling
      cases calling
    · exact ⟨mine, (placing_threads_of_ne mine).symm.trans calling⟩
  have numbers : (past ++ [CaptureOutput.called event]).filterMap CaptureOutput.number =
      past.filterMap CaptureOutput.number ++ [event.sequence] := by
    rw [List.filterMap_append]
    rfl
  have numbersFrom (source : Fin devices) :
      (past ++ [CaptureOutput.called event]).filterMap (CaptureOutput.numberFrom source) =
        past.filterMap (CaptureOutput.numberFrom source) ++
          if mover = source then [event.sequence] else [] := by
    rw [List.filterMap_append]
    by_cases same : mover = source
    · simp [CaptureOutput.numberFrom, label, same]
    · simp [CaptureOutput.numberFrom, label, same, Fin.val_inj]
  refine ⟨fun source other rest' calling => numbered.labelled source other rest' (others calling).2,
    ?_, ?_, fun source => ?_, fun {source other rest'} calling => ?_, fun calling another =>
      numbered.apart (others calling).2 (others another).2⟩
  · rw [numbers]
    intro number member
    rcases List.mem_append.mp member with early | now
    · exact numbered.counted number early
    · rw [List.mem_singleton.mp now]
      exact counted
  · rw [numbers]
    exact List.nodup_append.mpr ⟨numbered.nodup, List.nodup_singleton _, fun number member other
      now same => unused (List.mem_singleton.mp now ▸ same ▸ member)⟩
  · rw [numbersFrom]
    refine List.pairwise_append.mpr ⟨numbered.increase source, by split_ifs <;> simp, ?_⟩
    intro number member other now
    split_ifs at now with same
    · subst same
      rw [List.mem_singleton.mp now]
      exact later number member
    · cases now
  · obtain ⟨different, calling⟩ := others calling
    obtain ⟨countedToo, unusedToo, laterToo⟩ := numbered.pending calling
    refine ⟨countedToo, ?_, ?_⟩
    · rw [numbers]
      intro member
      rcases List.mem_append.mp member with early | now
      · exact unusedToo early
      · exact different (numbered.apart calling called (List.mem_singleton.mp now))
    · rw [numbersFrom, if_neg (Ne.symm different), List.append_nil]
      exact laterToo

/-- Outputs without numbers, and changes to the rest of the capture, leave the numbers as they
are. -/
theorem Numbered.silent (numbered : Numbered past capture)
    (silent : ∀ output ∈ outputs, output.number = none) (threads : next.threads = capture.threads)
    (sequence : next.sequence = capture.sequence) : Numbered (past ++ outputs) next := by
  have silentFrom (source : Nat) : outputs.filterMap (CaptureOutput.numberFrom source) = [] := by
    refine List.filterMap_eq_nil_iff.mpr fun output member => ?_
    cases output with
    | called => cases silent _ member
    | captured => rfl
    | moved => rfl
    | failed => rfl
  have numbers : (past ++ outputs).filterMap CaptureOutput.number =
      past.filterMap CaptureOutput.number := by
    rw [List.filterMap_append, List.filterMap_eq_nil_iff.mpr silent, List.append_nil]
  have numbersFrom (source : Nat) : (past ++ outputs).filterMap (CaptureOutput.numberFrom source) =
      past.filterMap (CaptureOutput.numberFrom source) := by
    rw [List.filterMap_append, silentFrom, List.append_nil]
  constructor
  · unfold Labelled
    rw [threads]
    exact numbered.labelled
  · rw [numbers, sequence]
    exact numbered.counted
  · rw [numbers]
    exact numbered.nodup
  · intro source
    rw [numbersFrom]
    exact numbered.increase source
  · intro source event batch calling
    rw [threads] at calling
    rw [numbers, numbersFrom, sequence]
    exact numbered.pending calling
  · intro source other event another batch rest calling callingToo
    rw [threads] at calling callingToo
    exact numbered.apart calling callingToo

/-- Every step keeps the numbers apart, as long as the counter has not run through its values. -/
theorem Numbered.kept (numbered : Numbered past capture) (counting : capture.Counting)
    (steps : capture.Steps input outputs next) : Numbered (past ++ outputs) next := by
  have quiet (threads : next.threads = capture.threads)
      (sequence : next.sequence = capture.sequence)
      (silent : ∀ output ∈ outputs, output.number = none) : Numbered (past ++ outputs) next :=
    numbered.silent silent threads sequence
  have succ : wrappingSucc capture.sequence = capture.sequence + 1 :=
    Nat.mod_eq_of_lt (Nat.succ_lt_succ counting)
  cases steps with
  | polled =>
      rw [List.append_nil]
      exact numbered.placing fun _ _ calling => by cases calling
  | fetched =>
      rw [List.append_nil]
      exact numbered.placing fun _ _ calling => by cases calling
  | @advanced mover timestampMicros sequence batch thread _ looked =>
      rw [List.append_nil]
      cases look_looks looked with
      | added => exact numbered.placing fun _ _ calling => by cases calling
      | handed =>
          rw [succ]
          exact numbered.taking rfl rfl
      | skipped => exact numbered.placing fun _ _ calling => by cases calling
      | published =>
          rw [succ]
          exact numbered.taking rfl rfl
      | finished => exact numbered.placing fun _ _ calling => by cases calling
  | @called mover event batch after calling callsBack =>
      have sent : Numbered (past ++ []) after := by
        cases callsBack <;> exact numbered.silent (by simp) rfl rfl
      have same : after.threads = capture.threads := by cases callsBack <;> rfl
      rw [List.append_nil] at sent
      exact sent.calling (same ▸ calling)
  | left =>
      rw [List.append_nil]
      exact numbered.placing fun _ _ calling => by cases calling
  | received => exact quiet rfl rfl (by simp [CaptureOutput.number])
  | receivedMotion => exact quiet rfl rfl (by simp [CaptureOutput.number])
  | receivedNone => exact quiet rfl rfl (by simp)
  | failed => exact quiet rfl rfl (by simp [CaptureOutput.number])
  | stopped => exact quiet rfl rfl (by simp)

theorem numbered_of_run {final : Capture devices}
    (counting : Machine.Along step (fun capture _ => capture.Counting) (start devices) inputs)
    (ran : Machine.run step (start devices) inputs = .ok (outputs, final)) :
    Numbered outputs final := by
  have numbered : Numbered [] (start devices) :=
    { labelled := start_labelled
      counted := by simp
      nodup := List.nodup_nil
      increase := fun _ => List.Pairwise.nil
      pending := fun calling => by cases calling
      apart := fun calling => by cases calling }
  exact Machine.run_emits_along (fun numbered counting stepped =>
    Numbered.kept numbered counting (step_steps stepped)) numbered counting ran

end Capture
end Rflow
