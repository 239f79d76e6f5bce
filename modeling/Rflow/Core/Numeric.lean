import Rflow.Foundation.Outcome

/-!
# Machine integers of the cursor arithmetic

Screen coordinates are `i32` values.  They are kept as integers; every operation that saturates,
overflows or asserts in the source says so here.  Arithmetic overflow is a panic, as it is with
overflow checks.
-/

namespace Rflow

open Foundation

/-- Smallest `i32`. -/
def i32Min : Int := -2147483648

/-- Largest `i32`. -/
def i32Max : Int := 2147483647

/-- Largest `u64`. -/
def u64Max : Nat := 18446744073709551615

/-- Nearest `i32` to an integer. -/
def saturate (value : Int) : Int := max i32Min (min i32Max value)

/-- `i32::saturating_add`. -/
def saturatingAdd (left right : Int) : Int := saturate (left + right)

/-- `i32::saturating_sub`. -/
def saturatingSub (left right : Int) : Int := saturate (left - right)

/-- `i32::saturating_abs`. -/
def saturatingAbs (value : Int) : Int := saturate |value|

/-- The `i32` subtraction `value - 1`. -/
def checkedPred (value : Int) : Outcome String Int :=
  if value ≤ i32Min then
    .panic "attempt to subtract with overflow"
  else
    .ok (value - 1)

/-- The range of `i32`. -/
def InI32 (value : Int) : Prop := i32Min ≤ value ∧ value ≤ i32Max

instance (value : Int) : Decidable (InI32 value) :=
  inferInstanceAs (Decidable (i32Min ≤ value ∧ value ≤ i32Max))

/-- The `i32` addition `left + right`. -/
def checkedAdd {ε : Type} (left right : Int) : Outcome ε Int :=
  if InI32 (left + right) then
    .ok (left + right)
  else
    .panic "attempt to add with overflow"

/-- The `i32` subtraction `left - right`. -/
def checkedSub {ε : Type} (left right : Int) : Outcome ε Int :=
  if InI32 (left - right) then
    .ok (left - right)
  else
    .panic "attempt to subtract with overflow"

/-- The cast `value as usize` of an `i32`. -/
def asUsize (value : Int) : Nat := (value % ((u64Max : Int) + 1)).toNat

/-- `Ord::clamp`, which asserts that its bounds are in order. -/
def clamp (value lower upper : Int) : Outcome String Int :=
  if lower ≤ upper then
    .ok (max lower (min upper value))
  else
    .panic "assertion failed: min <= max"

/-- `u64::saturating_add(1)`. -/
def saturatingSucc (value : Nat) : Nat := min (value + 1) u64Max

/-- `u64::wrapping_add(1)`. -/
def wrappingSucc (value : Nat) : Nat := (value + 1) % (u64Max + 1)

theorem clamp_eq_ok {value lower upper result : Int} :
    clamp value lower upper = .ok result ↔
      lower ≤ upper ∧ result = max lower (min upper value) := by
  unfold clamp
  split <;> simp_all [eq_comm]

theorem checkedAdd_eq_ok {ε : Type} {left right result : Int} :
    (checkedAdd left right : Outcome ε Int) = .ok result ↔
      InI32 (left + right) ∧ result = left + right := by
  unfold checkedAdd
  split <;> simp_all [eq_comm]

theorem checkedSub_eq_ok {ε : Type} {left right result : Int} :
    (checkedSub left right : Outcome ε Int) = .ok result ↔
      InI32 (left - right) ∧ result = left - right := by
  unfold checkedSub
  split <;> simp_all [eq_comm]

theorem asUsize_eq {value : Int} (positive : 0 ≤ value) (inRange : InI32 value) :
    asUsize value = value.toNat := by
  have below : value ≤ 2147483647 := inRange.2
  rw [asUsize, Int.emod_eq_of_lt positive (by simp only [u64Max]; omega)]

theorem checkedPred_eq_ok {value result : Int} :
    checkedPred value = .ok result ↔ i32Min < value ∧ result = value - 1 := by
  unfold checkedPred
  split <;> simp_all [eq_comm]

end Rflow
