import Rflow.Foundation.Machine

/-!
# What goes through a machine

A machine takes items in with its inputs, holds them for a while, and lets them out with its
outputs.
If no step loses, repeats or overtakes an item then no run does.
-/

namespace Foundation
namespace Machine

variable {σ ι ω ε α : Type*} {step : Step σ ι ω ε}

/-- Inputs that stand for other inputs. -/
theorem run_map {κ : Type*} {means : κ → ι} {state : σ} {inputs : List κ} :
    run (fun state input => step state (means input)) state inputs =
      run step state (inputs.map means) := by
  induction inputs generalizing state with
  | nil => rfl
  | cons input inputs induction =>
      simp only [List.map_cons, run]
      cases step state (means input) with
      | ok result => simp only [induction]
      | err error => rfl
      | panic message => rfl

/-- Items that every step hands on in order go through every run in order: what the run lets out,
followed by what it still holds, is what was held before, followed by what came in. -/
theorem run_conveys {Invariant : σ → Prop} {Admissible : ι → Prop} {taken : ι → List α}
    {given : ω → List α} {held : σ → List α}
    (conveys : ∀ {state input outputs next}, Invariant state → Admissible input →
      step state input = .ok (outputs, next) →
        Invariant next ∧ outputs.flatMap given ++ held next = held state ++ taken input)
    {state final : σ} {inputs : List ι} {outputs : List ω} (start : Invariant state)
    (admissible : ∀ input ∈ inputs, Admissible input)
    (ran : run step state inputs = .ok (outputs, final)) :
    outputs.flatMap given ++ held final = held state ++ inputs.flatMap taken := by
  induction inputs generalizing state outputs with
  | nil =>
      obtain ⟨rfl, rfl⟩ : [] = outputs ∧ state = final := by simpa using ran
      simp
  | cons input inputs induction =>
      obtain ⟨first, next, rest, stepped, remaining, rfl⟩ := run_cons_eq_ok.mp ran
      obtain ⟨invariant, early⟩ := conveys start (admissible input List.mem_cons_self) stepped
      have late := induction invariant
        (fun other member => admissible other (List.mem_cons_of_mem _ member)) remaining
      calc
        (first ++ rest).flatMap given ++ held final =
            first.flatMap given ++ (rest.flatMap given ++ held final) := by
          rw [List.flatMap_append, List.append_assoc]
        _ = (first.flatMap given ++ held next) ++ inputs.flatMap taken := by
          rw [late, List.append_assoc]
        _ = held state ++ (input :: inputs).flatMap taken := by
          rw [early, List.append_assoc, List.flatMap_cons]

/-- If every step gives what it takes or nothing, a run gives some of what it takes, in order. -/
theorem run_thins {taken : ι → Option α} {given : ω → Option α}
    (thins : ∀ {state input outputs next}, step state input = .ok (outputs, next) →
      (outputs.filterMap given).Sublist (taken input).toList)
    {state final : σ} {inputs : List ι} {outputs : List ω}
    (ran : run step state inputs = .ok (outputs, final)) :
    (outputs.filterMap given).Sublist (inputs.filterMap taken) := by
  induction inputs generalizing state outputs with
  | nil =>
      obtain ⟨rfl, rfl⟩ : [] = outputs ∧ state = final := by simpa using ran
      exact List.Sublist.refl _
  | cons input inputs induction =>
      obtain ⟨first, next, rest, stepped, remaining, rfl⟩ := run_cons_eq_ok.mp ran
      have now := thins stepped
      rw [List.filterMap_append, List.filterMap_cons]
      cases took : taken input with
      | none =>
          rw [took] at now
          exact now.append (induction remaining)
      | some item =>
          rw [took] at now
          exact now.append (induction remaining)

/-- Of the items held before and those that come in, some are given out and some are held after.
Their order is kept, the latest of them is never dropped, and none is exactly under a condition. -/
structure Coalesces (before taken given after : List α) (whole : Prop) : Prop where
  sublist : (given ++ after).Sublist (before ++ taken)
  latest : (given ++ after).getLast? = (before ++ taken).getLast?
  whole_iff : given ++ after = before ++ taken ↔ whole

theorem Coalesces.of_eq {before taken given after : List α} {whole : Prop}
    (same : given ++ after = before ++ taken) (holds : whole) :
    Coalesces before taken given after whole :=
  ⟨same ▸ List.Sublist.refl _, congrArg _ same, iff_of_true same holds⟩

theorem Coalesces.append {before middle after taken more given rest : List α}
    {firstWhole restWhole : Prop} (first : Coalesces before taken given middle firstWhole)
    (second : Coalesces middle more rest after restWhole) :
    Coalesces before (taken ++ more) (given ++ rest) after (firstWhole ∧ restWhole) := by
  refine ⟨?_, ?_, ?_⟩
  · have early := first.sublist.append_right more
    have late := second.sublist.append_left given
    simp only [List.append_assoc] at early late ⊢
    exact late.trans early
  · have early := first.latest
    have late := second.latest
    simp only [List.getLast?_append] at early late ⊢
    rw [← Option.or_assoc, late, Option.or_assoc, early, Option.or_assoc]
  · rw [← first.whole_iff, ← second.whole_iff]
    constructor
    · intro whole
      -- What one part drops, the other cannot make up for.
      have lengths := congrArg List.length whole
      have shorterFirst := first.sublist.length_le
      have shorterRest := second.sublist.length_le
      simp only [List.length_append] at lengths shorterFirst shorterRest
      exact ⟨first.sublist.eq_of_length (by simp only [List.length_append]; omega),
        second.sublist.eq_of_length (by simp only [List.length_append]; omega)⟩
    · rintro ⟨firstEq, restEq⟩
      rw [List.append_assoc, restEq, ← List.append_assoc, firstEq, List.append_assoc]

/-- One item is held and one comes in: the held one is given out before, or it is dropped. -/
theorem Coalesces.pair {held coming : α} {given after : List α} {whole : Prop}
    (coalesces : Coalesces [held] [coming] given after whole) :
    given ++ after = [held, coming] ∧ whole ∨ given ++ after = [coming] ∧ ¬ whole := by
  by_cases holds : whole
  · exact Or.inl ⟨coalesces.whole_iff.mpr holds, holds⟩
  · refine Or.inr ⟨?_, holds⟩
    have latest : (given ++ after).getLast? = some coming := coalesces.latest
    rcases List.sublist_cons_iff.mp coalesces.sublist with dropped | ⟨rest, kept, sub⟩
    · exact dropped.eq_of_length_le (List.length_pos_of_mem (List.mem_of_getLast? latest))
    · rcases List.sublist_singleton.mp sub with rfl | rfl
      · obtain rfl : held = coming := by simpa [kept] using latest
        exact kept
      · exact absurd (coalesces.whole_iff.mp kept) holds

/-- Items that a step may drop, but neither repeats nor overtakes, go through every run so.  A run
drops none exactly when each of its steps meets the condition under which it drops none. -/
theorem run_coalesces {condition : σ → ι → Prop} {taken given : ω → List α} {held : σ → List α}
    (coalesces : ∀ {state input outputs next}, step state input = .ok (outputs, next) →
      Coalesces (held state) (outputs.flatMap taken) (outputs.flatMap given) (held next)
        (condition state input))
    {state final : σ} {inputs : List ι} {outputs : List ω}
    (ran : run step state inputs = .ok (outputs, final)) :
    Coalesces (held state) (outputs.flatMap taken) (outputs.flatMap given) (held final)
      (Along step condition state inputs) := by
  induction inputs generalizing state outputs with
  | nil =>
      obtain ⟨rfl, rfl⟩ : [] = outputs ∧ state = final := by simpa using ran
      exact .of_eq (by simp) trivial
  | cons input inputs induction =>
      obtain ⟨first, next, rest, stepped, remaining, rfl⟩ := run_cons_eq_ok.mp ran
      rw [List.flatMap_append, List.flatMap_append, along_cons stepped]
      exact (coalesces stepped).append (induction remaining)

end Machine
end Foundation
