import Mathlib

/-!
# Outcomes of fallible calls

A call ends with a value, with a returned error, or with a panic.  The three are kept apart because
a returned error can be handled by the caller while a panic unwinds it.
-/

namespace Foundation

universe u v

/-- How one call ends. -/
inductive Outcome (ε : Type u) (α : Type v) where
  /-- The call returned a value. -/
  | ok (value : α)
  /-- The call returned an error to its caller. -/
  | err (error : ε)
  /-- The call panicked with a message. -/
  | panic (message : String)
  deriving DecidableEq, Repr

namespace Outcome

variable {ε ε' : Type u} {α β : Type v}

instance : Monad (Outcome ε) where
  pure := ok
  bind call next :=
    match call with
    | ok value => next value
    | err error => err error
    | panic message => panic message

@[simp]
theorem pure_eq (value : α) : (pure value : Outcome ε α) = ok value := rfl

@[simp]
theorem ok_bind (value : α) (next : α → Outcome ε β) :
    ((ok value : Outcome ε α) >>= next) = next value := rfl

@[simp]
theorem err_bind (error : ε) (next : α → Outcome ε β) :
    ((err error : Outcome ε α) >>= next) = err error := rfl

@[simp]
theorem panic_bind (message : String) (next : α → Outcome ε β) :
    ((panic message : Outcome ε α) >>= next) = panic message := rfl

/-- A sequence returns a value exactly when both of its parts do. -/
theorem bind_eq_ok {call : Outcome ε α} {next : α → Outcome ε β} {result : β} :
    (call >>= next) = ok result ↔ ∃ value, call = ok value ∧ next value = ok result := by
  cases call <;> simp

/-- A check followed by a call returns a value exactly when the check passes and the call does. -/
theorem check_bind_eq_ok {check : Outcome ε PUnit} {next : PUnit → Outcome ε β} {result : β} :
    (check >>= next) = ok result ↔ check = ok ⟨⟩ ∧ next ⟨⟩ = ok result := by
  cases check <;> simp

/-- A sequence returns an error exactly when its first part does, or its second part after it. -/
theorem bind_eq_err {call : Outcome ε α} {next : α → Outcome ε β} {error : ε} :
    (call >>= next) = err error ↔
      call = err error ∨ ∃ value, call = ok value ∧ next value = err error := by
  cases call <;> simp

/-- Fail with `error` unless the condition holds. -/
def require (condition : Prop) [Decidable condition] (error : ε) : Outcome ε Unit :=
  if condition then ok () else err error

@[simp]
theorem require_eq_ok {condition : Prop} [Decidable condition] {error : ε} :
    require condition error = ok () ↔ condition := by
  unfold require
  split <;> simp_all

/-- The value of an option, or `error` when there is none. -/
def ofOption (error : ε) : Option α → Outcome ε α
  | some value => ok value
  | none => err error

@[simp]
theorem ofOption_eq_ok {error : ε} {option : Option α} {value : α} :
    ofOption error option = ok value ↔ option = some value := by
  cases option <;> simp [ofOption]

/-- Translate the returned error and leave values and panics alone. -/
def mapErr (translate : ε → ε') : Outcome ε α → Outcome ε' α
  | ok value => ok value
  | err error => err (translate error)
  | panic message => panic message

@[simp]
theorem mapErr_eq_ok {translate : ε → ε'} {call : Outcome ε α} {value : α} :
    mapErr translate call = ok value ↔ call = ok value := by
  cases call <;> simp [mapErr]

/-- The call returned a value that passes a test. -/
def any (test : α → Bool) : Outcome ε α → Bool
  | ok value => test value
  | _ => false

theorem any_eq_true {test : α → Bool} {call : Outcome ε α} :
    call.any test = true ↔ ∃ value, call = ok value ∧ test value = true := by
  cases call <;> simp [any]

/-- The call returned a value. -/
def IsOk (call : Outcome ε α) : Prop := ∃ value, call = ok value

theorem IsOk.bind {call : Outcome ε α} {next : α → Outcome ε β} (first : call.IsOk)
    (rest : ∀ value, call = ok value → (next value).IsOk) : (call >>= next).IsOk := by
  obtain ⟨value, returned⟩ := first
  rw [returned]
  exact rest value returned

/-- The call returned a value or an error. -/
def Returns (call : Outcome ε α) : Prop := ∀ message, call ≠ panic message

@[simp]
theorem returns_ok {value : α} : (ok value : Outcome ε α).Returns := by
  simp [Returns]

@[simp]
theorem returns_err {error : ε} : (err error : Outcome ε α).Returns := by
  simp [Returns]

@[simp]
theorem not_returns_panic {message : String} : ¬ (panic message : Outcome ε α).Returns := by
  simp [Returns]

theorem IsOk.returns {call : Outcome ε α} (isOk : call.IsOk) : call.Returns := by
  obtain ⟨value, rfl⟩ := isOk
  exact returns_ok

theorem returns_require {condition : Prop} [Decidable condition] {error : ε} :
    (require condition error).Returns := by
  unfold require
  split_ifs <;> simp

theorem returns_ofOption {error : ε} {option : Option α} : (ofOption error option).Returns := by
  cases option <;> simp [ofOption]

@[simp]
theorem returns_mapErr {translate : ε → ε'} {call : Outcome ε α} :
    (mapErr translate call).Returns ↔ call.Returns := by
  cases call <;> simp [mapErr]

/-- A sequence returns when its parts do; the second part follows a value of the first. -/
theorem Returns.bind {call : Outcome ε α} {next : α → Outcome ε β} (first : call.Returns)
    (rest : ∀ value, call = ok value → (next value).Returns) : (call >>= next).Returns := by
  cases call with
  | ok value => exact rest value rfl
  | err error => exact returns_err
  | panic message => exact absurd first not_returns_panic

/-- The call returns only errors with a property. -/
def Fails (Property : ε → Prop) (call : Outcome ε α) : Prop :=
  ∀ error, call = err error → Property error

section Fails

variable {Property : ε → Prop}

@[simp]
theorem fails_ok {value : α} : (ok value : Outcome ε α).Fails Property := by
  simp [Fails]

@[simp]
theorem fails_err {error : ε} : (err error : Outcome ε α).Fails Property ↔ Property error := by
  simp [Fails]

@[simp]
theorem fails_panic {message : String} : (panic message : Outcome ε α).Fails Property := by
  simp [Fails]

@[simp]
theorem fails_mapErr {Property : ε' → Prop} {translate : ε → ε'} {call : Outcome ε α} :
    (mapErr translate call).Fails Property ↔ call.Fails fun error =>
        Property (translate error) := by
  cases call <;> simp [mapErr]

/-- A call whose error has a property when its condition does not hold. -/
theorem fails_require {condition : Prop} [Decidable condition] {error : ε}
    (failed : Property error) : (require condition error).Fails Property := by
  unfold require
  split_ifs <;> simp [failed]

theorem fails_ofOption {error : ε} {option : Option α} (failed : option = none → Property error) :
    (ofOption error option).Fails Property := by
  cases option <;> simp [ofOption, failed]

/-- Every error has what every error has. -/
theorem fails_of_forall {call : Outcome ε α} (every : ∀ error, Property error) :
    call.Fails Property := fun error _ => every error

/-- A sequence fails as its parts fail; the second part follows a value of the first. -/
theorem Fails.bind {call : Outcome ε α} {next : α → Outcome ε β} (first : call.Fails Property)
    (rest : ∀ value, call = ok value → (next value).Fails Property) :
    (call >>= next).Fails Property := by
  intro error failed
  rcases bind_eq_err.mp failed with early | ⟨value, returned, late⟩
  · exact first error early
  · exact rest value returned error late

end Fails

end Outcome
end Foundation
