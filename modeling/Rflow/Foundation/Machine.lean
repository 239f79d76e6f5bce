import Rflow.Foundation.Outcome

/-!
# Runs of a machine with outputs

A machine takes one input at a time and either answers with outputs and a next state, or fails.
Runs are finite input lists on which every step succeeds.  The rules below carry an invariant, or a
relation to a monitor that reads the outputs, from one step to a whole run.
-/

namespace Foundation
namespace Machine

variable {σ ι ω ε τ : Type*}

/-- One step function: a state and an input give outputs and a next state, or a failure. -/
abbrev Step (σ ι ω ε : Type*) := σ → ι → Outcome ε (List ω × σ)

/-- Take the inputs one after the other, collecting the outputs. -/
def run (step : Step σ ι ω ε) : σ → List ι → Outcome ε (List ω × σ)
  | state, [] => .ok ([], state)
  | state, input :: inputs =>
      match step state input with
      | .ok (outputs, next) =>
          match run step next inputs with
          | .ok (more, final) => .ok (outputs ++ more, final)
          | .err error => .err error
          | .panic message => .panic message
      | .err error => .err error
      | .panic message => .panic message

variable {step : Step σ ι ω ε}

@[simp]
theorem run_nil (state : σ) : run step state [] = .ok ([], state) := rfl

theorem run_cons_eq_ok {state final : σ} {input : ι} {inputs : List ι} {outputs : List ω} :
    run step state (input :: inputs) = .ok (outputs, final) ↔
      ∃ first next rest, step state input = .ok (first, next) ∧
        run step next inputs = .ok (rest, final) ∧ outputs = first ++ rest := by
  simp only [run]
  constructor
  · intro ran
    split at ran
    · rename_i first next stepped
      split at ran
      · rename_i rest last remaining
        obtain ⟨rfl, rfl⟩ := Prod.mk.inj (Outcome.ok.inj ran)
        exact ⟨first, next, rest, stepped, remaining, rfl⟩
      · cases ran
      · cases ran
    · cases ran
    · cases ran
  · rintro ⟨first, next, rest, stepped, remaining, rfl⟩
    simp only [stepped, remaining]

/-- A run fails at its first input or after it. -/
theorem run_cons_eq_err {state : σ} {input : ι} {inputs : List ι} {error : ε} :
    run step state (input :: inputs) = .err error ↔
      step state input = .err error ∨
        ∃ first next, step state input = .ok (first, next) ∧ run step next inputs = .err error := by
  simp only [run]
  constructor
  · intro ran
    split at ran
    · rename_i first next stepped
      split at ran
      · cases ran
      · rename_i failure failed
        exact Or.inr ⟨first, next, stepped, failed.trans (congrArg _ (Outcome.err.inj ran))⟩
      · cases ran
    · rename_i failure failed
      exact Or.inl (failed.trans (congrArg _ (Outcome.err.inj ran)))
    · cases ran
  · rintro (failed | ⟨first, next, stepped, failed⟩)
    · simp only [failed]
    · simp only [stepped, failed]

/-- Every step that the run takes meets a condition on its input and the state before it. -/
def Along (step : Step σ ι ω ε) (condition : σ → ι → Prop) : σ → List ι → Prop
  | _, [] => True
  | state, input :: inputs =>
      condition state input ∧
        ∀ outputs next, step state input = .ok (outputs, next) → Along step condition next inputs

/-- After a step that succeeds only its own result matters. -/
theorem along_cons {condition : σ → ι → Prop} {state next : σ} {input : ι} {inputs : List ι}
    {outputs : List ω} (stepped : step state input = .ok (outputs, next)) :
    Along step condition state (input :: inputs) ↔
      condition state input ∧ Along step condition next inputs := by
  refine and_congr_right fun _ => ⟨fun onward => onward outputs next stepped, ?_⟩
  intro onward others last again
  obtain ⟨_, rfl⟩ : others = outputs ∧ last = next := by simpa using again.symm.trans stepped
  exact onward

/-- What every input has, every step of a run on them has. -/
theorem Along.of_forall {Admissible : ι → Prop} {state : σ} {inputs : List ι}
    (admissible : ∀ input ∈ inputs, Admissible input) :
    Along step (fun _ input => Admissible input) state inputs := by
  induction inputs generalizing state with
  | nil => trivial
  | cons input inputs induction =>
      exact ⟨admissible input List.mem_cons_self, fun _ _ _ =>
        induction fun other member => admissible other (List.mem_cons_of_mem _ member)⟩

/-- A condition on inputs alone is met along a run exactly when all its inputs meet it. -/
theorem along_iff_forall {Admissible : ι → Prop} {state final : σ} {inputs : List ι}
    {outputs : List ω} (ran : run step state inputs = .ok (outputs, final)) :
    Along step (fun _ input => Admissible input) state inputs ↔
      ∀ input ∈ inputs, Admissible input := by
  refine ⟨fun along => ?_, Along.of_forall⟩
  induction inputs generalizing state outputs with
  | nil => simp
  | cons input inputs induction =>
      obtain ⟨first, next, rest, stepped, remaining, _⟩ := run_cons_eq_ok.mp ran
      obtain ⟨now, onward⟩ := (along_cons stepped).mp along
      exact List.forall_mem_cons.mpr ⟨now, induction remaining onward⟩

/-- A run on a joined list goes through the state between the two parts. -/
theorem run_append_eq_ok {state final : σ} {front back : List ι} {outputs : List ω} :
    run step state (front ++ back) = .ok (outputs, final) ↔
      ∃ first middle rest, run step state front = .ok (first, middle) ∧
        run step middle back = .ok (rest, final) ∧ outputs = first ++ rest := by
  induction front generalizing state outputs with
  | nil => simp
  | cons input front induction =>
      rw [List.cons_append]
      constructor
      · intro ran
        obtain ⟨first, next, rest, stepped, remaining, rfl⟩ := run_cons_eq_ok.mp ran
        obtain ⟨early, middle, late, ranFront, ranBack, rfl⟩ := induction.mp remaining
        exact ⟨first ++ early, middle, late,
          run_cons_eq_ok.mpr ⟨first, next, early, stepped, ranFront, rfl⟩, ranBack,
          (List.append_assoc ..).symm⟩
      · rintro ⟨_, middle, late, ranFront, ranBack, rfl⟩
        obtain ⟨first, next, early, stepped, remaining, rfl⟩ := run_cons_eq_ok.mp ranFront
        exact run_cons_eq_ok.mpr ⟨first, next, early ++ late, stepped,
          induction.mpr ⟨early, middle, late, remaining, ranBack, rfl⟩, List.append_assoc ..⟩

/-- A run of one step. -/
theorem run_singleton_eq_ok {state final : σ} {input : ι} {outputs : List ω} :
    run step state [input] = .ok (outputs, final) ↔ step state input = .ok (outputs, final) := by
  rw [run_cons_eq_ok]
  constructor
  · rintro ⟨first, next, rest, stepped, ended, rfl⟩
    obtain ⟨rfl, rfl⟩ : [] = rest ∧ next = final := by simpa using ended
    simpa using stepped
  · intro stepped
    exact ⟨outputs, final, [], stepped, rfl, (List.append_nil _).symm⟩

/-- What a run of steps with one output each emits at an index is what the step there emits. -/
theorem run_at {single : σ → ι → ω × σ}
    (steps : ∀ state input, step state input =
      .ok ([(single state input).1], (single state input).2))
    {state final : σ} {inputs : List ι} {outputs : List ω}
    (ran : run step state inputs = .ok (outputs, final)) {index : ℕ} {output : ω}
    (emitted : outputs[index]? = some output) :
    ∃ first middle input, run step state (inputs.take index) = .ok (first, middle) ∧
      inputs[index]? = some input ∧ output = (single middle input).1 ∧
        run step state (inputs.take (index + 1)) =
          .ok (first ++ [output], (single middle input).2) := by
  induction inputs generalizing state outputs index with
  | nil =>
      obtain ⟨rfl, rfl⟩ : [] = outputs ∧ state = final := by simpa using ran
      cases emitted
  | cons input inputs induction =>
      obtain ⟨first, next, rest, stepped, onward, rfl⟩ := run_cons_eq_ok.mp ran
      obtain ⟨rfl, rfl⟩ := Prod.mk.inj (Outcome.ok.inj ((steps state input).symm.trans stepped))
      cases index with
      | zero =>
          obtain rfl : (single state input).1 = output := by simpa using emitted
          refine ⟨[], state, input, rfl, rfl, rfl, ?_⟩
          exact run_singleton_eq_ok.mpr stepped
      | succ index =>
          obtain ⟨front, middle, other, before, found, same, after⟩ := induction onward emitted
          refine ⟨(single state input).1 :: front, middle, other, ?_, found, same, ?_⟩
          · exact run_cons_eq_ok.mpr ⟨_, _, _, stepped, before, rfl⟩
          · exact run_cons_eq_ok.mpr ⟨_, _, _, stepped, after, rfl⟩

/-- A condition is met along a joined list when it is met along both parts. -/
theorem along_append {condition : σ → ι → Prop} {state middle : σ} {front back : List ι}
    {outputs : List ω} (ran : run step state front = .ok (outputs, middle)) :
    Along step condition state (front ++ back) ↔
      Along step condition state front ∧ Along step condition middle back := by
  induction front generalizing state outputs with
  | nil =>
      obtain ⟨_, rfl⟩ : [] = outputs ∧ state = middle := by simpa using ran
      simp [Along]
  | cons input front induction =>
      obtain ⟨first, next, rest, stepped, remaining, _⟩ := run_cons_eq_ok.mp ran
      rw [List.cons_append, along_cons stepped, along_cons stepped, induction remaining, and_assoc]

/-- What a step keeps about the state and the inputs so far holds of every run and its inputs. -/
theorem run_history {Admissible : ι → Prop} {Invariant : List ι → σ → Prop} {state final : σ}
    {inputs : List ι} {outputs : List ω}
    (kept : ∀ {past middle input first rest next}, run step state past = .ok (first, middle) →
      Invariant past middle → Admissible input → step middle input = .ok (rest, next) →
        Invariant (past ++ [input]) next)
    (start : Invariant [] state) (admissible : ∀ input ∈ inputs, Admissible input)
    (ran : run step state inputs = .ok (outputs, final)) : Invariant inputs final := by
  induction inputs using List.reverseRecOn generalizing final outputs with
  | nil =>
      obtain ⟨_, rfl⟩ : [] = outputs ∧ state = final := by simpa using ran
      exact start
  | append_singleton past input induction =>
      obtain ⟨first, middle, rest, ranPast, ranLast, _⟩ := run_append_eq_ok.mp ran
      have invariant := induction (fun other member => admissible other (by simp [member])) ranPast
      exact kept ranPast invariant (admissible input (by simp)) (run_singleton_eq_ok.mp ranLast)

/-- What every step keeps under a condition holds after every run whose steps meet it. -/
theorem run_preserves_along {condition : σ → ι → Prop} {Invariant : σ → Prop}
    (kept : ∀ {state input outputs next}, Invariant state → condition state input →
      step state input = .ok (outputs, next) → Invariant next)
    {state final : σ} {inputs : List ι} {outputs : List ω} (start : Invariant state)
    (meets : Along step condition state inputs)
    (ran : run step state inputs = .ok (outputs, final)) : Invariant final := by
  induction inputs generalizing state outputs with
  | nil =>
      obtain ⟨_, rfl⟩ : [] = outputs ∧ state = final := by simpa using ran
      exact start
  | cons input inputs induction =>
      obtain ⟨first, next, rest, stepped, ran, _⟩ := run_cons_eq_ok.mp ran
      exact induction (kept start meets.1 stepped) (meets.2 first next stepped) ran

/-- What the outputs of every step have under an invariant and a condition, all outputs of a run
have. -/
theorem run_outputs_along {condition : σ → ι → Prop} {Invariant : σ → Prop} {Property : ω → Prop}
    (kept : ∀ {state input outputs next}, Invariant state → condition state input →
      step state input = .ok (outputs, next) →
        Invariant next ∧ ∀ output ∈ outputs, Property output)
    {state final : σ} {inputs : List ι} {outputs : List ω} (start : Invariant state)
    (meets : Along step condition state inputs)
    (ran : run step state inputs = .ok (outputs, final)) :
    ∀ output ∈ outputs, Property output := by
  induction inputs generalizing state outputs with
  | nil =>
      obtain ⟨rfl, _⟩ : [] = outputs ∧ state = final := by simpa using ran
      simp
  | cons input inputs induction =>
      obtain ⟨first, next, rest, stepped, remaining, rfl⟩ := run_cons_eq_ok.mp ran
      obtain ⟨nextInvariant, emitted⟩ := kept start meets.1 stepped
      intro output member
      rcases List.mem_append.mp member with early | late
      · exact emitted output early
      · exact induction nextInvariant (meets.2 first next stepped) remaining output late

/-- What a step under a condition keeps about the state and the outputs so far holds of every run
along which the condition is met, and of its outputs. -/
theorem run_emits_along {condition : σ → ι → Prop} {Invariant : List ω → σ → Prop}
    (kept : ∀ {past state input outputs next}, Invariant past state → condition state input →
      step state input = .ok (outputs, next) → Invariant (past ++ outputs) next)
    {state final : σ} {inputs : List ι} {past outputs : List ω} (start : Invariant past state)
    (meets : Along step condition state inputs)
    (ran : run step state inputs = .ok (outputs, final)) : Invariant (past ++ outputs) final := by
  induction inputs generalizing state past outputs with
  | nil =>
      obtain ⟨rfl, rfl⟩ : [] = outputs ∧ state = final := by simpa using ran
      rw [List.append_nil]
      exact start
  | cons input inputs induction =>
      obtain ⟨first, next, rest, stepped, remaining, rfl⟩ := run_cons_eq_ok.mp ran
      rw [← List.append_assoc]
      exact induction (kept start meets.1 stepped) (meets.2 first next stepped) remaining

/-- What a step on an admissible input keeps about the state and the outputs so far holds of every
run on such inputs and its outputs. -/
theorem run_emits_on {Admissible : ι → Prop} {Invariant : List ω → σ → Prop}
    (kept : ∀ {past state input outputs next}, Invariant past state → Admissible input →
      step state input = .ok (outputs, next) → Invariant (past ++ outputs) next)
    {state final : σ} {inputs : List ι} {past outputs : List ω} (start : Invariant past state)
    (admissible : ∀ input ∈ inputs, Admissible input)
    (ran : run step state inputs = .ok (outputs, final)) : Invariant (past ++ outputs) final :=
  run_emits_along kept start (Along.of_forall admissible) ran

/-- What a step keeps about the state and the outputs so far holds of every run and its outputs. -/
theorem run_emits {Invariant : List ω → σ → Prop}
    (kept : ∀ {past state input outputs next}, Invariant past state →
      step state input = .ok (outputs, next) → Invariant (past ++ outputs) next)
    {state final : σ} {inputs : List ι} {past outputs : List ω} (start : Invariant past state)
    (ran : run step state inputs = .ok (outputs, final)) : Invariant (past ++ outputs) final := by
  have keptOn {past : List ω} {state next : σ} {input : ι} {outputs : List ω}
      (holds : Invariant past state) (_ : True) (stepped : step state input = .ok (outputs, next)) :
      Invariant (past ++ outputs) next := kept holds stepped
  exact run_emits_on keptOn start (fun _ _ => trivial) ran

/-- If every step of one machine is a run of another under a view of its state, so is every run. -/
theorem run_refines {σ' ι' ω' ε' : Type*} {abstract : Step σ' ι' ω' ε'} {view : σ → σ'}
    (simulates : ∀ {state input outputs next}, step state input = .ok (outputs, next) →
      ∃ inputs outputs, run abstract (view state) inputs = .ok (outputs, view next))
    {state final : σ} {inputs : List ι} {outputs : List ω}
    (ran : run step state inputs = .ok (outputs, final)) :
    ∃ inputs outputs, run abstract (view state) inputs = .ok (outputs, view final) := by
  induction inputs generalizing state outputs with
  | nil =>
      obtain ⟨_, rfl⟩ : [] = outputs ∧ state = final := by simpa using ran
      exact ⟨[], [], rfl⟩
  | cons input inputs induction =>
      obtain ⟨_, next, _, stepped, remaining, _⟩ := run_cons_eq_ok.mp ran
      obtain ⟨front, early, ranFront⟩ := simulates stepped
      obtain ⟨back, late, ranBack⟩ := induction remaining
      exact ⟨front ++ back, early ++ late,
        run_append_eq_ok.mpr ⟨early, view next, late, ranFront, ranBack, rfl⟩⟩

/-- When the outputs of each step are as they should exactly under its condition, those of a run are
exactly when all of its steps meet the condition. -/
theorem emitted_iff_along {condition : σ → ι → Prop} {Emitted : ω → Prop}
    (emits : ∀ {state input outputs next}, step state input = .ok (outputs, next) →
      ((∀ output ∈ outputs, Emitted output) ↔ condition state input))
    {state final : σ} {inputs : List ι} {outputs : List ω}
    (ran : run step state inputs = .ok (outputs, final)) :
    (∀ output ∈ outputs, Emitted output) ↔ Along step condition state inputs := by
  induction inputs generalizing state outputs with
  | nil =>
      obtain ⟨rfl, _⟩ : [] = outputs ∧ state = final := by simpa using ran
      exact iff_of_true (by simp) trivial
  | cons input inputs induction =>
      obtain ⟨first, next, rest, stepped, remaining, rfl⟩ := run_cons_eq_ok.mp ran
      rw [List.forall_mem_append, along_cons stepped, emits stepped, induction remaining]

/-- What every step keeps holds after every run. -/
theorem run_preserves {Invariant : σ → Prop}
    (kept : ∀ {state input outputs next}, Invariant state →
      step state input = .ok (outputs, next) → Invariant next)
    {state final : σ} {inputs : List ι} {outputs : List ω} (start : Invariant state)
    (ran : run step state inputs = .ok (outputs, final)) : Invariant final := by
  have unconditional : Along step (fun _ _ => True) state inputs :=
    Along.of_forall fun _ _ => trivial
  exact run_preserves_along (fun invariant _ stepped => kept invariant stepped) start
    unconditional ran

/-- What every step on an admissible input keeps holds after every run on such inputs. -/
theorem run_preserves_on {Admissible : ι → Prop} {Invariant : σ → Prop}
    (kept : ∀ {state input outputs next}, Invariant state → Admissible input →
      step state input = .ok (outputs, next) → Invariant next)
    {state final : σ} {inputs : List ι} {outputs : List ω} (start : Invariant state)
    (admissible : ∀ input ∈ inputs, Admissible input)
    (ran : run step state inputs = .ok (outputs, final)) : Invariant final := by
  have meets : Along step (fun _ input => Admissible input) state inputs :=
    Along.of_forall admissible
  exact run_preserves_along kept start meets ran

/-- Every state that the run goes through has a property. -/
def Throughout (step : Step σ ι ω ε) (Property : σ → Prop) : σ → List ι → Prop
  | state, [] => Property state
  | state, input :: inputs =>
      Property state ∧
        ∀ outputs next, step state input = .ok (outputs, next) →
          Throughout step Property next inputs

theorem Throughout.head {Property : σ → Prop} {state : σ} {inputs : List ι}
    (throughout : Throughout step Property state inputs) : Property state := by
  cases inputs with
  | nil => exact throughout
  | cons => exact throughout.1

/-- What follows from an invariant that every step keeps under a condition holds throughout every
run whose steps meet it. -/
theorem Throughout.of_along {condition : σ → ι → Prop} {Invariant Property : σ → Prop}
    (holds : ∀ {state}, Invariant state → Property state)
    (kept : ∀ {state input outputs next}, Invariant state → condition state input →
      step state input = .ok (outputs, next) → Invariant next)
    {state : σ} {inputs : List ι} (start : Invariant state)
    (meets : Along step condition state inputs) : Throughout step Property state inputs := by
  induction inputs generalizing state with
  | nil => exact holds start
  | cons input inputs induction =>
      refine ⟨holds start, fun outputs next stepped => ?_⟩
      exact induction (kept start meets.1 stepped) (meets.2 outputs next stepped)

/-- What an invariant and a condition give for one step holds of every step of a run whose steps
meet the condition. -/
theorem Along.of_invariant {condition Property : σ → ι → Prop} {Invariant : σ → Prop}
    (holds : ∀ {state input}, Invariant state → condition state input → Property state input)
    (kept : ∀ {state input outputs next}, Invariant state → condition state input →
      step state input = .ok (outputs, next) → Invariant next)
    {state : σ} {inputs : List ι} (start : Invariant state)
    (meets : Along step condition state inputs) : Along step Property state inputs := by
  induction inputs generalizing state with
  | nil => trivial
  | cons input inputs induction =>
      refine ⟨holds start meets.1, fun outputs next stepped => ?_⟩
      exact induction (kept start meets.1 stepped) (meets.2 outputs next stepped)

/-- Two conditions that agree wherever an invariant holds, and that keep it, are met by the same
runs. -/
theorem along_congr {first second : σ → ι → Prop} {Invariant : σ → Prop} {Admissible : ι → Prop}
    (same : ∀ {state input}, Invariant state → Admissible input →
      (first state input ↔ second state input))
    (kept : ∀ {state input outputs next}, Invariant state → Admissible input → first state input →
      step state input = .ok (outputs, next) → Invariant next)
    {state : σ} {inputs : List ι} (start : Invariant state)
    (admissible : ∀ input ∈ inputs, Admissible input) :
    Along step first state inputs ↔ Along step second state inputs := by
  induction inputs generalizing state with
  | nil => rfl
  | cons input inputs induction =>
      have now := admissible input List.mem_cons_self
      have later : ∀ other ∈ inputs, Admissible other := fun other member =>
        admissible other (List.mem_cons_of_mem _ member)
      simp only [Along, same start now]
      refine and_congr_right fun met => forall₃_congr fun outputs next stepped => ?_
      exact induction (kept start now ((same start now).mpr met) stepped) later

/-- No step of the run meets the second condition after a step that meets the first. -/
def NeverAfter (step : Step σ ι ω ε) (first second : σ → ι → Prop) : σ → List ι → Prop
  | _, [] => True
  | state, input :: inputs =>
      ∀ outputs next, step state input = .ok (outputs, next) →
        (first state input → Along step (fun state input => ¬ second state input) next inputs) ∧
          NeverAfter step first second next inputs

theorem NeverAfter.of_along {first second : σ → ι → Prop} {state : σ} {inputs : List ι}
    (never : Along step (fun state input => ¬ second state input) state inputs) :
    NeverAfter step first second state inputs := by
  induction inputs generalizing state with
  | nil => trivial
  | cons input inputs induction =>
      exact fun outputs next stepped =>
        ⟨fun _ => never.2 outputs next stepped, induction (never.2 outputs next stepped)⟩

/-- Two conditions are met along a run when each of them is. -/
theorem along_and {first second : σ → ι → Prop} {state : σ} {inputs : List ι} :
    Along step (fun state input => first state input ∧ second state input) state inputs ↔
      Along step first state inputs ∧ Along step second state inputs := by
  induction inputs generalizing state with
  | nil => exact ⟨fun _ => ⟨trivial, trivial⟩, fun _ => trivial⟩
  | cons input inputs induction =>
      simp only [Along, induction]
      constructor
      · rintro ⟨⟨now, nowToo⟩, later⟩
        exact ⟨⟨now, fun outputs next stepped => (later outputs next stepped).1⟩, nowToo,
          fun outputs next stepped => (later outputs next stepped).2⟩
      · rintro ⟨⟨now, later⟩, nowToo, laterToo⟩
        exact ⟨⟨now, nowToo⟩, fun outputs next stepped =>
          ⟨later outputs next stepped, laterToo outputs next stepped⟩⟩

/-- A family of conditions is met along a run when each of them is. -/
theorem along_forall {κ : Type*} {condition : κ → σ → ι → Prop} {state : σ} {inputs : List ι} :
    Along step (fun state input => ∀ key, condition key state input) state inputs ↔
      ∀ key, Along step (condition key) state inputs := by
  induction inputs generalizing state with
  | nil => exact ⟨fun _ _ => trivial, fun _ => trivial⟩
  | cons input inputs induction =>
      simp only [Along, induction]
      constructor
      · rintro ⟨now, later⟩ key
        exact ⟨now key, fun outputs next stepped => later outputs next stepped key⟩
      · intro every
        exact ⟨fun key => (every key).1, fun outputs next stepped key =>
          (every key).2 outputs next stepped⟩

/-- A property that one kind of step breaks for good and all other steps keep, as long as an
invariant holds, holds at the steps of another kind exactly when none of them comes after a step
that breaks it. -/
theorem along_iff_neverAfter_of_invariant {first second : σ → ι → Prop}
    {Intact Broken Invariant : σ → Prop}
    (disjoint : ∀ {state input}, second state input → Broken state → ¬ Intact state)
    (holds : ∀ {state input outputs next}, Invariant state →
      step state input = .ok (outputs, next) → Invariant next)
    (breaks : ∀ {state input outputs next}, Invariant state → first state input →
      step state input = .ok (outputs, next) → Broken next)
    (stays : ∀ {state input outputs next}, Broken state → step state input = .ok (outputs, next) →
      Broken next)
    (kept : ∀ {state input outputs next}, Intact state → ¬ first state input →
      step state input = .ok (outputs, next) → Intact next)
    {state : σ} {inputs : List ι} (start : Invariant state) (intact : Intact state) :
    Along step (fun state input => second state input → Intact state) state inputs ↔
      NeverAfter step first second state inputs := by
  have same {state : σ} {input : ι} (broken : Broken state) (_ : True) :
      (second state input → Intact state) ↔ ¬ second state input :=
    ⟨fun holds meets => disjoint meets broken (holds meets), fun never meets => (never meets).elim⟩
  induction inputs generalizing state with
  | nil => exact Iff.rfl
  | cons input inputs induction =>
      simp only [Along, NeverAfter, intact, implies_true, true_and]
      refine forall₃_congr fun outputs next stepped => ?_
      by_cases breaking : first state input
      · have after : Along step (fun state input => second state input → Intact state) next inputs ↔
            Along step (fun state input => ¬ second state input) next inputs :=
          along_congr same (fun broken _ _ stepped => stays broken stepped)
            (breaks start breaking stepped) fun _ _ => trivial
        rw [after]
        exact ⟨fun never => ⟨fun _ => never, .of_along never⟩, fun never => never.1 breaking⟩
      · refine (induction (holds start stepped) (kept intact breaking stepped)).trans ?_
        exact ⟨fun never => ⟨fun meets => (breaking meets).elim, never⟩, fun never => never.2⟩

/-- A property that one kind of step breaks for good and all other steps keep holds at the steps of
another kind exactly when none of them comes after a step that breaks it. -/
theorem along_iff_neverAfter {first second : σ → ι → Prop} {Intact Broken : σ → Prop}
    (disjoint : ∀ {state input}, second state input → Broken state → ¬ Intact state)
    (breaks : ∀ {state input outputs next}, first state input →
      step state input = .ok (outputs, next) → Broken next)
    (stays : ∀ {state input outputs next}, Broken state → step state input = .ok (outputs, next) →
      Broken next)
    (kept : ∀ {state input outputs next}, Intact state → ¬ first state input →
      step state input = .ok (outputs, next) → Intact next)
    {state : σ} {inputs : List ι} (intact : Intact state) :
    Along step (fun state input => second state input → Intact state) state inputs ↔
      NeverAfter step first second state inputs := by
  have invariant {state next : σ} {input : ι} {outputs : List ω} (_ : True)
      (_ : step state input = .ok (outputs, next)) : True := trivial
  have breaksToo {state next : σ} {input : ι} {outputs : List ω} (_ : True)
      (met : first state input) (stepped : step state input = .ok (outputs, next)) : Broken next :=
    breaks met stepped
  exact @along_iff_neverAfter_of_invariant _ _ _ _ step first second Intact Broken (fun _ => True)
    disjoint invariant breaksToo stays kept _ _ trivial intact

/-- If every step from a state with an invariant succeeds and keeps it, every run succeeds. -/
theorem run_isOk {Invariant : σ → Prop} {Admissible : ι → Prop}
    (succeeds : ∀ {state input}, Invariant state → Admissible input → (step state input).IsOk)
    (kept : ∀ {state input outputs next}, Invariant state → Admissible input →
      step state input = .ok (outputs, next) → Invariant next)
    {state : σ} {inputs : List ι} (start : Invariant state)
    (admissible : ∀ input ∈ inputs, Admissible input) : (run step state inputs).IsOk := by
  induction inputs generalizing state with
  | nil => exact ⟨_, rfl⟩
  | cons input inputs induction =>
      have now := admissible input List.mem_cons_self
      obtain ⟨⟨first, next⟩, stepped⟩ := succeeds start now
      obtain ⟨⟨rest, final⟩, ran⟩ := induction (kept start now stepped)
        fun other member => admissible other (List.mem_cons_of_mem _ member)
      exact ⟨(first ++ rest, final), run_cons_eq_ok.mpr ⟨first, next, rest, stepped, ran, rfl⟩⟩

/-- When each step keeps a property and puts out what it may exactly under its condition, a run has
the property throughout and puts out what it may exactly when all of its steps meet the
condition. -/
theorem outputs_iff_along {condition : σ → ι → Prop} {Invariant Property : σ → Prop}
    {Admissible : ι → Prop} {Emitted : ω → Prop}
    (kept : ∀ {state input outputs next}, Invariant state → Property state → Admissible input →
      step state input = .ok (outputs, next) → Invariant next ∧
        ((Property next ∧ ∀ output ∈ outputs, Emitted output) ↔ condition state input))
    {state final : σ} {inputs : List ι} {outputs : List ω} (start : Invariant state)
    (holds : Property state) (admissible : ∀ input ∈ inputs, Admissible input)
    (ran : run step state inputs = .ok (outputs, final)) :
    (Throughout step Property state inputs ∧ ∀ output ∈ outputs, Emitted output) ↔
      Along step condition state inputs := by
  induction inputs generalizing state outputs with
  | nil =>
      obtain ⟨rfl, _⟩ : [] = outputs ∧ state = final := by simpa using ran
      exact iff_of_true ⟨holds, by simp⟩ trivial
  | cons input inputs induction =>
      obtain ⟨first, next, rest, stepped, remaining, rfl⟩ := run_cons_eq_ok.mp ran
      obtain ⟨nextInvariant, property_iff⟩ :=
        kept start holds (admissible input List.mem_cons_self) stepped
      have later : ∀ other ∈ inputs, Admissible other := fun other member =>
        admissible other (List.mem_cons_of_mem _ member)
      have sameStep {outputs last} (again : step state input = .ok (outputs, last)) :
          last = next := by
        rw [stepped, Outcome.ok.injEq, Prod.mk.injEq] at again
        exact again.2.symm
      rw [List.forall_mem_append]
      constructor
      · rintro ⟨⟨_, onward⟩, emitted, emittedLater⟩
        have nextHolds : Property next := (onward first next stepped).head
        refine ⟨property_iff.mp ⟨nextHolds, emitted⟩, fun outputs last again => ?_⟩
        obtain rfl := sameStep again
        exact (induction nextInvariant nextHolds later remaining).mp
          ⟨onward first last stepped, emittedLater⟩
      · rintro ⟨met, onward⟩
        obtain ⟨nextHolds, emitted⟩ := property_iff.mpr met
        obtain ⟨throughout, emittedLater⟩ :=
          (induction nextInvariant nextHolds later remaining).mpr (onward first next stepped)
        refine ⟨⟨holds, fun outputs last again => ?_⟩, emitted, emittedLater⟩
        obtain rfl := sameStep again
        exact throughout

/-- When each step keeps a property exactly under its condition, a run has the property throughout
exactly when all of its steps meet the condition. -/
theorem throughout_iff_along {condition : σ → ι → Prop} {Invariant Property : σ → Prop}
    {Admissible : ι → Prop}
    (kept : ∀ {state input outputs next}, Invariant state → Property state → Admissible input →
      step state input = .ok (outputs, next) →
        Invariant next ∧ (Property next ↔ condition state input))
    {state final : σ} {inputs : List ι} {outputs : List ω} (start : Invariant state)
    (holds : Property state) (admissible : ∀ input ∈ inputs, Admissible input)
    (ran : run step state inputs = .ok (outputs, final)) :
    Throughout step Property state inputs ↔ Along step condition state inputs := by
  have keptBoth {state : σ} {input : ι} {outputs : List ω} {next : σ} (invariant : Invariant state)
      (property : Property state) (isAdmissible : Admissible input)
      (stepped : step state input = .ok (outputs, next)) : Invariant next ∧
        ((Property next ∧ ∀ output ∈ outputs, True) ↔ condition state input) := by
    simpa using kept invariant property isAdmissible stepped
  simpa using outputs_iff_along keptBoth start holds admissible ran

/-- After a step that succeeds only its own result matters. -/
theorem throughout_cons {Property : σ → Prop} {state next : σ} {input : ι} {inputs : List ι}
    {outputs : List ω} (stepped : step state input = .ok (outputs, next)) :
    Throughout step Property state (input :: inputs) ↔
      Property state ∧ Throughout step Property next inputs := by
  refine and_congr_right fun _ => ⟨fun onward => onward outputs next stepped, ?_⟩
  intro onward others last again
  obtain ⟨_, rfl⟩ : others = outputs ∧ last = next := by simpa using again.symm.trans stepped
  exact onward

/-- When a machine takes every step, and a step keeps a property exactly under its condition if
something else is given, a run along which that is given has the property throughout exactly when
all of its steps meet the condition. -/
theorem throughout_iff_along_total {given condition : σ → ι → Prop} {Invariant Property : σ → Prop}
    (succeeds : ∀ state input, (step state input).IsOk)
    (kept : ∀ {state input outputs next}, Invariant state → Property state → given state input →
      step state input = .ok (outputs, next) →
        Invariant next ∧ (Property next ↔ condition state input))
    {state : σ} {inputs : List ι} (start : Invariant state) (holds : Property state)
    (meets : Along step given state inputs) :
    Throughout step Property state inputs ↔ Along step condition state inputs := by
  induction inputs generalizing state with
  | nil => exact iff_of_true holds trivial
  | cons input inputs induction =>
      obtain ⟨⟨outputs, next⟩, stepped⟩ := succeeds state input
      obtain ⟨nextInvariant, step_iff⟩ := kept start holds meets.1 stepped
      have rest := meets.2 outputs next stepped
      rw [throughout_cons stepped, along_cons stepped, ← step_iff]
      constructor
      · rintro ⟨_, onward⟩
        exact ⟨onward.head, (induction nextInvariant onward.head rest).mp onward⟩
      · rintro ⟨nextHolds, onward⟩
        exact ⟨holds, (induction nextInvariant nextHolds rest).mpr onward⟩

/-- What no step can bring back held before the run if it holds after it. -/
theorem run_reflects {Alive : σ → Prop}
    (dies : ∀ {state input outputs next}, step state input = .ok (outputs, next) → Alive next →
      Alive state)
    {state final : σ} {inputs : List ι} {outputs : List ω}
    (ran : run step state inputs = .ok (outputs, final)) (alive : Alive final) : Alive state := by
  induction inputs generalizing state outputs with
  | nil =>
      obtain ⟨_, rfl⟩ : [] = outputs ∧ state = final := by simpa using ran
      exact alive
  | cons input inputs induction =>
      obtain ⟨_, _, _, stepped, remaining, _⟩ := run_cons_eq_ok.mp ran
      exact dies stepped (induction remaining)

/-- When each step of a machine that stays alive keeps a property exactly under its condition, a run
at whose end the machine is alive has the property throughout exactly when all of its steps meet the
condition. -/
theorem throughout_iff_along_alive {condition : σ → ι → Prop} {Property Alive : σ → Prop}
    (dies : ∀ {state input outputs next}, step state input = .ok (outputs, next) → Alive next →
      Alive state)
    (kept : ∀ {state input outputs next}, Property state → step state input = .ok (outputs, next) →
      Alive next → (Property next ↔ condition state input))
    {state final : σ} {inputs : List ι} {outputs : List ω} (holds : Property state)
    (ran : run step state inputs = .ok (outputs, final)) (alive : Alive final) :
    Throughout step Property state inputs ↔ Along step condition state inputs := by
  induction inputs generalizing state outputs with
  | nil => exact iff_of_true holds trivial
  | cons input inputs induction =>
      obtain ⟨_, _, _, stepped, remaining, _⟩ := run_cons_eq_ok.mp ran
      have step_iff := kept holds stepped (run_reflects dies remaining alive)
      rw [throughout_cons stepped, along_cons stepped, ← step_iff]
      constructor
      · rintro ⟨_, onward⟩
        exact ⟨onward.head, (induction onward.head remaining).mp onward⟩
      · rintro ⟨next, onward⟩
        exact ⟨holds, (induction next remaining).mpr onward⟩

/-- A monitor that folds over outputs is safe before, between and after them. -/
def SafeThroughout (observe : τ → ω → τ) (Safe : τ → Prop) (monitor : τ) (outputs : List ω) :
    Prop :=
  ∀ front, front <+: outputs → Safe (front.foldl observe monitor)

theorem safeThroughout_nil {observe : τ → ω → τ} {Safe : τ → Prop} {monitor : τ} :
    SafeThroughout observe Safe monitor [] ↔ Safe monitor := by
  simp [SafeThroughout]

theorem safeThroughout_cons {observe : τ → ω → τ} {Safe : τ → Prop} {monitor : τ} {output : ω}
    {outputs : List ω} :
    SafeThroughout observe Safe monitor (output :: outputs) ↔
      Safe monitor ∧ SafeThroughout observe Safe (observe monitor output) outputs := by
  simp only [SafeThroughout, List.prefix_cons_iff]
  constructor
  · intro safe
    exact ⟨safe [] (Or.inl rfl), fun front isPrefix =>
      safe (output :: front) (Or.inr ⟨front, rfl, isPrefix⟩)⟩
  · rintro ⟨start, rest⟩ front (rfl | ⟨tail, rfl, isPrefix⟩)
    · exact start
    · exact rest tail isPrefix

theorem safeThroughout_append {observe : τ → ω → τ} {Safe : τ → Prop} {monitor : τ}
    {first rest : List ω} :
    SafeThroughout observe Safe monitor (first ++ rest) ↔
      SafeThroughout observe Safe monitor first ∧
        SafeThroughout observe Safe (first.foldl observe monitor) rest := by
  induction first generalizing monitor with
  | nil =>
      simp only [List.nil_append, safeThroughout_nil, List.foldl_nil, iff_and_self]
      exact fun safe => safe [] (List.nil_prefix)
  | cons output first induction =>
      simp only [List.cons_append, safeThroughout_cons, induction, List.foldl_cons, and_assoc]

/-- Outputs take a monitor to a final state and keep it safe throughout. -/
structure Drives (observe : τ → ω → τ) (Safe : τ → Prop) (monitor : τ) (outputs : List ω)
    (final : τ) : Prop where
  reaches : outputs.foldl observe monitor = final
  safe : SafeThroughout observe Safe monitor outputs

theorem Drives.nil {observe : τ → ω → τ} {Safe : τ → Prop} {monitor : τ} (safe : Safe monitor) :
    Drives observe Safe monitor [] monitor :=
  ⟨rfl, safeThroughout_nil.mpr safe⟩

theorem Drives.cons {observe : τ → ω → τ} {Safe : τ → Prop} {monitor final : τ} {output : ω}
    {outputs : List ω} (safe : Safe monitor)
    (rest : Drives observe Safe (observe monitor output) outputs final) :
    Drives observe Safe monitor (output :: outputs) final :=
  ⟨rest.reaches, safeThroughout_cons.mpr ⟨safe, rest.safe⟩⟩

theorem Drives.append {observe : τ → ω → τ} {Safe : τ → Prop} {monitor middle final : τ}
    {first rest : List ω} (front : Drives observe Safe monitor first middle)
    (back : Drives observe Safe middle rest final) :
    Drives observe Safe monitor (first ++ rest) final := by
  obtain ⟨rfl, safeFront⟩ := front
  exact ⟨by rw [List.foldl_append, back.reaches], safeThroughout_append.mpr ⟨safeFront, back.safe⟩⟩

/-- If the outputs of each step drive the monitor safely to a state related to the next one, so do
the outputs of each run. -/
theorem run_drives {observe : τ → ω → τ} {Related : σ → τ → Prop} {Safe : τ → Prop}
    (kept : ∀ {state input outputs next monitor}, Related state monitor →
      step state input = .ok (outputs, next) →
        ∃ moved, Drives observe Safe monitor outputs moved ∧ Related next moved)
    {state final : σ} {inputs : List ι} {outputs : List ω} {monitor : τ}
    (start : Related state monitor) (safe : Safe monitor)
    (ran : run step state inputs = .ok (outputs, final)) :
    ∃ moved, Drives observe Safe monitor outputs moved ∧ Related final moved := by
  induction inputs generalizing state outputs monitor with
  | nil =>
      obtain ⟨rfl, rfl⟩ : [] = outputs ∧ state = final := by simpa using ran
      exact ⟨monitor, Drives.nil safe, start⟩
  | cons input inputs induction =>
      obtain ⟨first, next, rest, stepped, remaining, rfl⟩ := run_cons_eq_ok.mp ran
      obtain ⟨middle, front, related⟩ := kept start stepped
      have safeMiddle : Safe middle := front.reaches ▸ front.safe first (List.prefix_refl first)
      obtain ⟨moved, back, relatedFinal⟩ := induction related safeMiddle remaining
      exact ⟨moved, front.append back, relatedFinal⟩

/-- If a monitor that has read the outputs of a step stays related to the state, so does a monitor
that has read the outputs of a run. -/
theorem run_folds {observe : τ → ω → τ} {Related : σ → τ → Prop} {Admissible : ι → Prop}
    (kept : ∀ {state input outputs next monitor}, Related state monitor → Admissible input →
      step state input = .ok (outputs, next) → Related next (outputs.foldl observe monitor))
    {state final : σ} {inputs : List ι} {outputs : List ω} {monitor : τ}
    (start : Related state monitor) (admissible : ∀ input ∈ inputs, Admissible input)
    (ran : run step state inputs = .ok (outputs, final)) :
    Related final (outputs.foldl observe monitor) := by
  induction inputs generalizing state outputs monitor with
  | nil =>
      obtain ⟨rfl, rfl⟩ : [] = outputs ∧ state = final := by simpa using ran
      exact start
  | cons input inputs induction =>
      obtain ⟨first, next, rest, stepped, remaining, rfl⟩ := run_cons_eq_ok.mp ran
      rw [List.foldl_append]
      exact induction (kept start (admissible input List.mem_cons_self) stepped)
        (fun other member => admissible other (List.mem_cons_of_mem _ member)) remaining

/-- Each output follows what the outputs before it have left. -/
def Threaded (Follows : τ → ω → Prop) (leaves : τ → ω → τ) : τ → List ω → Prop
  | _, [] => True
  | last, output :: outputs =>
      Follows last output ∧ Threaded Follows leaves (leaves last output) outputs

theorem threaded_append {Follows : τ → ω → Prop} {leaves : τ → ω → τ} {last : τ}
    {front back : List ω} :
    Threaded Follows leaves last (front ++ back) ↔
      Threaded Follows leaves last front ∧ Threaded Follows leaves
          (front.foldl leaves last) back := by
  induction front generalizing last with
  | nil => simp [Threaded]
  | cons output front induction =>
      simp only [List.cons_append, Threaded, induction, List.foldl_cons, and_assoc]

/-- If the outputs of a step that meets a condition follow what is left, so do the outputs of a run
whose steps all meet it. -/
theorem run_threaded {condition : σ → ι → Prop} {Follows : τ → ω → Prop} {leaves : τ → ω → τ}
    {Related : σ → τ → Prop}
    (kept : ∀ {state input outputs next last}, Related state last → condition state input →
      step state input = .ok (outputs, next) →
        Threaded Follows leaves last outputs ∧ Related next (outputs.foldl leaves last))
    {state final : σ} {inputs : List ι} {outputs : List ω} {last : τ} (start : Related state last)
    (meets : Along step condition state inputs)
    (ran : run step state inputs = .ok (outputs, final)) :
    Threaded Follows leaves last outputs := by
  induction inputs generalizing state outputs last with
  | nil =>
      obtain ⟨rfl, _⟩ : [] = outputs ∧ state = final := by simpa using ran
      trivial
  | cons input inputs induction =>
      obtain ⟨first, next, rest, stepped, remaining, rfl⟩ := run_cons_eq_ok.mp ran
      obtain ⟨front, related⟩ := kept start meets.1 stepped
      exact threaded_append.mpr ⟨front, induction related (meets.2 first next stepped) remaining⟩

end Machine
end Foundation
