import Rflow.Foundation.Machine

/-!
# Steps that a machine takes by itself

Some of the steps of a machine are its own, and the others come from outside.  If each of its own
steps lowers a measure, the machine comes to rest when it is left alone.
-/

namespace Foundation
namespace Machine

variable {σ ι ω ε : Type*} {step : Step σ ι ω ε} {Own : σ → ι → Prop} {work : σ → Nat}

instance Along.decidable {condition : σ → ι → Prop}
    [∀ state input, Decidable (condition state input)] :
    (state : σ) → (inputs : List ι) → Decidable (Along step condition state inputs)
  | _, [] => isTrue trivial
  | state, input :: inputs =>
      match stepped : step state input with
      | .ok (_, next) =>
          haveI : Decidable (Along step condition next inputs) := Along.decidable next inputs
          decidable_of_iff (condition state input ∧ Along step condition next inputs)
            (along_cons stepped).symm
      | .err _ | .panic _ => decidable_of_iff (condition state input)
          ⟨fun now => ⟨now, fun _ _ again => nomatch stepped.symm.trans again⟩, And.left⟩

/-- No step of its own is possible. -/
def Rests (step : Step σ ι ω ε) (Own : σ → ι → Prop) (state : σ) : Prop :=
  ∀ input, Own state input → ∀ outputs next, step state input ≠ .ok (outputs, next)

/-- A run of steps that lower a measure is no longer than the measure. -/
theorem run_length_le
    (lowers : ∀ {state input outputs next}, Own state input →
      step state input = .ok (outputs, next) → work next < work state)
    {state final : σ} {inputs : List ι} {outputs : List ω} (own : Along step Own state inputs)
    (ran : run step state inputs = .ok (outputs, final)) :
    inputs.length + work final ≤ work state := by
  induction inputs generalizing state outputs with
  | nil =>
      obtain ⟨_, rfl⟩ : [] = outputs ∧ state = final := by simpa using ran
      simp
  | cons input inputs induction =>
      obtain ⟨first, next, rest, stepped, remaining, _⟩ := run_cons_eq_ok.mp ran
      obtain ⟨now, onward⟩ := (along_cons stepped).mp own
      have lower := lowers now stepped
      have later := induction onward remaining
      rw [List.length_cons]
      omega

/-- A machine that is left alone comes to rest. -/
theorem exists_rest
    (lowers : ∀ {state input outputs next}, Own state input →
      step state input = .ok (outputs, next) → work next < work state) (state : σ) :
    ∃ inputs outputs final, Along step Own state inputs ∧
      run step state inputs = .ok (outputs, final) ∧ Rests step Own final := by
  by_cases rests : Rests step Own state
  · exact ⟨[], [], state, trivial, rfl, rests⟩
  · simp only [Rests, not_forall, not_not] at rests
    obtain ⟨input, own, first, next, stepped⟩ := rests
    have _decreasing := lowers own stepped
    obtain ⟨inputs, outputs, final, onward, ran, resting⟩ := exists_rest lowers next
    exact ⟨input :: inputs, first ++ outputs, final, (along_cons stepped).mpr ⟨own, onward⟩,
      run_cons_eq_ok.mpr ⟨first, next, outputs, stepped, ran, rfl⟩, resting⟩
termination_by work state

end Machine
end Foundation
