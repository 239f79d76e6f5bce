import Rflow.Foundation.Outcome

/-!
# Calls that leave outputs behind

A call that does things to the world before it ends: the outputs so far are kept however it ends.
-/

namespace Foundation

universe u v w

/-- The outputs of a call and how it ended. -/
structure Traced (ω : Type w) (ε : Type u) (α : Type v) where
  outputs : List ω
  outcome : Outcome ε α

namespace Traced

variable {ω : Type w} {ε : Type u} {α β : Type v}

/-- Go on with the value of a call, after its outputs. -/
def andThen (call : Traced ω ε α) (next : α → Traced ω ε β) : Traced ω ε β :=
  match call.outcome with
  | .ok value =>
      { outputs := call.outputs ++ (next value).outputs, outcome := (next value).outcome }
  | .err error => { outputs := call.outputs, outcome := .err error }
  | .panic message => { outputs := call.outputs, outcome := .panic message }

instance : Monad (Traced ω ε) where
  pure value := { outputs := [], outcome := .ok value }
  bind := andThen

/-- A call without outputs. -/
def lift (outcome : Outcome ε α) : Traced ω ε α := { outputs := [], outcome }

/-- A call that fails. -/
def fail (error : ε) : Traced ω ε α := lift (.err error)

/-- A call that returns its outputs when it succeeds. -/
def emit (outcome : Outcome ε (List ω × α)) : Traced ω ε α :=
  match outcome with
  | .ok (outputs, value) => { outputs, outcome := .ok value }
  | .err error => { outputs := [], outcome := .err error }
  | .panic message => { outputs := [], outcome := .panic message }

/-- Leave some outputs behind. -/
def tell (outputs : List ω) : Traced ω ε PUnit := { outputs, outcome := .ok ⟨⟩ }

@[simp]
theorem pure_outcome (value : α) : (pure value : Traced ω ε α).outcome = .ok value := rfl

@[simp]
theorem pure_outputs (value : α) : (pure value : Traced ω ε α).outputs = [] := rfl

@[simp]
theorem lift_outcome (outcome : Outcome ε α) : (lift outcome : Traced ω ε α).outcome = outcome :=
    rfl

@[simp]
theorem lift_outputs (outcome : Outcome ε α) : (lift outcome : Traced ω ε α).outputs = [] := rfl

@[simp]
theorem fail_outcome (error : ε) : (fail error : Traced ω ε α).outcome = .err error := rfl

@[simp]
theorem tell_outcome (outputs : List ω) : (tell outputs : Traced ω ε PUnit).outcome = .ok ⟨⟩ := rfl

@[simp]
theorem tell_outputs (outputs : List ω) : (tell outputs : Traced ω ε PUnit).outputs = outputs := rfl

@[simp]
theorem emit_outcome_eq_ok {call : Outcome ε (List ω × α)} {value : α} :
    (emit call).outcome = .ok value ↔ ∃ outputs, call = .ok (outputs, value) := by
  unfold emit
  cases call with
  | ok result => simp [Prod.ext_iff]
  | err error => simp
  | panic message => simp

/-- How a sequence ends depends on how its parts end only. -/
@[simp]
theorem bind_outcome (call : Traced ω ε α) (next : α → Traced ω ε β) :
    (call >>= next).outcome = (call.outcome >>= fun value => (next value).outcome) := by
  change (andThen call next).outcome = _
  unfold andThen
  cases call.outcome <;> rfl

theorem bind_outputs (call : Traced ω ε α) (next : α → Traced ω ε β) :
    (call >>= next).outputs =
      call.outputs ++
        match call.outcome with
        | .ok value => (next value).outputs
        | _ => [] := by
  change (andThen call next).outputs = _
  unfold andThen
  cases call.outcome <;> simp

/-- What follows a call matters only where the call returns. -/
theorem bind_congr_of_ok {call : Traced ω ε α} {first second : α → Traced ω ε β}
    (same : ∀ value, call.outcome = .ok value → first value = second value) :
    (call >>= first) = (call >>= second) := by
  change andThen call first = andThen call second
  unfold andThen
  cases ended : call.outcome with
  | ok value => simp only [same value ended]
  | err error => rfl
  | panic message => rfl

/-- A call that leaves some outputs behind and returns a value. -/
def Returns (call : Traced ω ε α) (outputs : List ω) (value : α) : Prop :=
  call.outputs = outputs ∧ call.outcome = .ok value

@[simp]
theorem returns_pure {result value : α} {outputs : List ω} :
    (pure result : Traced ω ε α).Returns outputs value ↔ outputs = [] ∧ result = value := by
  simp [Returns, eq_comm]

@[simp]
theorem returns_lift {outcome : Outcome ε α} {value : α} {outputs : List ω} :
    (lift outcome).Returns outputs value ↔ outcome = .ok value ∧ outputs = [] := by
  simp [Returns, eq_comm, and_comm]

@[simp]
theorem not_returns_fail {error : ε} {value : α} {outputs : List ω} :
    ¬ (fail error : Traced ω ε α).Returns outputs value := by
  simp [Returns]

@[simp]
theorem returns_tell {told outputs : List ω} {value : PUnit} :
    (tell told : Traced ω ε PUnit).Returns outputs value ↔ outputs = told := by
  simp [Returns, eq_comm]

@[simp]
theorem returns_emit {call : Outcome ε (List ω × α)} {value : α} {outputs : List ω} :
    (emit call).Returns outputs value ↔ call = .ok (outputs, value) := by
  unfold emit Returns
  cases call with
  | ok result => simp [Prod.ext_iff]
  | err error => simp
  | panic message => simp

/-- A sequence returns exactly when both of its parts do, and leaves the outputs of both. -/
theorem returns_bind {call : Traced ω ε α} {next : α → Traced ω ε β} {outputs : List ω}
    {result : β} : (call >>= next).Returns outputs result ↔
      ∃ first value rest, call.Returns first value ∧ (next value).Returns rest result ∧
        outputs = first ++ rest := by
  unfold Returns
  rw [bind_outcome, Outcome.bind_eq_ok, bind_outputs]
  constructor
  · rintro ⟨joined, value, returned, final⟩
    simp only [returned] at joined
    exact ⟨_, value, _, ⟨rfl, returned⟩, ⟨rfl, final⟩, joined.symm⟩
  · rintro ⟨_, value, _, ⟨rfl, returned⟩, ⟨rfl, final⟩, rfl⟩
    exact ⟨by simp only [returned], value, returned, final⟩

/-- Every output of the call has a property, however the call ends. -/
def Emits (Property : ω → Prop) (call : Traced ω ε α) : Prop :=
  ∀ output ∈ call.outputs, Property output

section Emits

variable {Property : ω → Prop}

@[simp]
theorem emits_pure {value : α} : (pure value : Traced ω ε α).Emits Property := by
  simp [Emits]

@[simp]
theorem emits_lift {outcome : Outcome ε α} : (lift outcome : Traced ω ε α).Emits Property := by
  simp [Emits]

@[simp]
theorem emits_fail {error : ε} : (fail error : Traced ω ε α).Emits Property := by
  simp [fail]

@[simp]
theorem emits_tell {outputs : List ω} :
    (tell outputs : Traced ω ε PUnit).Emits Property ↔ ∀ output ∈ outputs, Property output :=
        Iff.rfl

/-- What a returning call leaves behind is checked where the call returns. -/
theorem emits_emit {call : Outcome ε (List ω × α)}
    (returned : ∀ outputs value, call = .ok (outputs, value) → ∀ output ∈ outputs,
        Property output) :
    (emit call).Emits Property := by
  cases ended : call with
  | ok result => exact returned result.1 result.2 ended
  | err error => simp [Emits, emit]
  | panic message => simp [Emits, emit]

theorem Emits.mono {Weaker : ω → Prop} {call : Traced ω ε α} (emits : call.Emits Property)
    (weaker : ∀ output, Property output → Weaker output) : call.Emits Weaker :=
  fun output member => weaker output (emits output member)

/-- A sequence emits what its parts emit; the second part follows a value of the first. -/
theorem Emits.bind_of_ok {call : Traced ω ε α} {next : α → Traced ω ε β}
    (first : call.Emits Property)
    (rest : ∀ value, call.outcome = .ok value → (next value).Emits Property) :
    (call >>= next).Emits Property := by
  intro output member
  rw [bind_outputs] at member
  rcases List.mem_append.mp member with early | late
  · exact first output early
  · cases ended : call.outcome with
    | ok value => exact rest value ended output (by simpa [ended] using late)
    | err error => simp [ended] at late
    | panic message => simp [ended] at late

theorem Emits.bind {call : Traced ω ε α} {next : α → Traced ω ε β} (first : call.Emits Property)
    (rest : ∀ value, (next value).Emits Property) : (call >>= next).Emits Property :=
  first.bind_of_ok fun value _ => rest value

end Emits

/-- A property of what calls leave behind that holds of nothing, and of two parts together. -/
structure Joins (Property : List ω → Prop) : Prop where
  nil : Property []
  append : ∀ {first second}, Property first → Property second → Property (first ++ second)

/-- What the call leaves behind, taken as a whole, has a property. -/
def Leaves (Property : List ω → Prop) (call : Traced ω ε α) : Prop := Property call.outputs

section Leaves

variable {Property : List ω → Prop}

theorem Joins.leaves_pure (joins : Joins Property) (value : α) :
    (pure value : Traced ω ε α).Leaves Property := joins.nil

theorem Joins.leaves_lift (joins : Joins Property) (outcome : Outcome ε α) :
    (lift outcome : Traced ω ε α).Leaves Property := joins.nil

@[simp]
theorem leaves_tell {outputs : List ω} :
    (tell outputs : Traced ω ε PUnit).Leaves Property ↔ Property outputs := Iff.rfl

/-- A sequence leaves behind what its parts leave; the second part follows a value of the first. -/
theorem Joins.leaves_bind (joins : Joins Property) {call : Traced ω ε α} {next : α → Traced ω ε β}
    (first : call.Leaves Property)
    (rest : ∀ value, call.outcome = .ok value → (next value).Leaves Property) :
    (call >>= next).Leaves Property := by
  unfold Leaves
  rw [bind_outputs]
  refine joins.append first ?_
  cases ended : call.outcome with
  | ok value => exact rest value ended
  | err error => exact joins.nil
  | panic message => exact joins.nil

theorem tell_bind_outputs (told : List ω) (next : PUnit → Traced ω ε β) :
    (tell told >>= next).outputs = told ++ (next ⟨⟩).outputs := rfl

end Leaves

/-- The call ends only with errors that have a property. -/
def Fails (Property : ε → Prop) (call : Traced ω ε α) : Prop := call.outcome.Fails Property

section Fails

variable {Property : ε → Prop}

@[simp]
theorem fails_pure {value : α} : (pure value : Traced ω ε α).Fails Property := by
  simp [Fails]

@[simp]
theorem fails_lift {outcome : Outcome ε α} :
    (lift outcome : Traced ω ε α).Fails Property ↔ outcome.Fails Property := Iff.rfl

@[simp]
theorem fails_fail {error : ε} : (fail error : Traced ω ε α).Fails Property ↔ Property error := by
  simp [fail]

@[simp]
theorem fails_tell {outputs : List ω} : (tell outputs : Traced ω ε PUnit).Fails Property := by
  simp [Fails]

@[simp]
theorem fails_emit {call : Outcome ε (List ω × α)} :
    (emit call).Fails Property ↔ call.Fails Property := by
  unfold emit Fails
  cases call <;> simp

theorem Fails.bind_of_ok {call : Traced ω ε α} {next : α → Traced ω ε β}
    (first : call.Fails Property)
    (rest : ∀ outputs value, call.Returns outputs value → (next value).Fails Property) :
    (call >>= next).Fails Property := by
  unfold Fails
  rw [bind_outcome]
  exact Outcome.Fails.bind first fun value returned => rest _ value ⟨rfl, returned⟩

theorem Fails.bind {call : Traced ω ε α} {next : α → Traced ω ε β} (first : call.Fails Property)
    (rest : ∀ value, (next value).Fails Property) : (call >>= next).Fails Property :=
  first.bind_of_ok fun _ value _ => rest value

end Fails

/-! ## Calls that are cut short -/

/-- What cuts a call short after some of its outputs: the next one fails, or the caller is gone. -/
inductive Interruption where
  | fails (done : Nat)
  | stops (done : Nat)
  deriving DecidableEq

/-- The outputs that a call leaves behind and how it ends for its caller, if at all. -/
def interrupted (failure : ω → ε) (call : Traced ω ε α) :
    Option Interruption → List ω × Option (Outcome ε α)
  | none => (call.outputs, some call.outcome)
  | some (.fails done) =>
      match call.outputs[done]? with
      | some output => (call.outputs.take done, some (.err (failure output)))
      | none => (call.outputs, some call.outcome)
  | some (.stops done) => (call.outputs.take done, none)

/-- A call that is cut short leaves the first of its outputs behind. -/
theorem interrupted_prefix (failure : ω → ε) (call : Traced ω ε α)
    (interruption : Option Interruption) :
    (call.interrupted failure interruption).1 <+: call.outputs := by
  unfold interrupted
  split
  · exact List.prefix_refl _
  · split
    · exact List.take_prefix _ _
    · exact List.prefix_refl _
  · exact List.take_prefix _ _

end Traced
end Foundation
