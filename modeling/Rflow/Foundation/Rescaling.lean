import Mathlib

/-!
# Rescaling between two extents

A coordinate is mapped from one extent to another by multiplying, dividing and rounding down.  A
round trip over two extents never raises a coordinate, and leaves the multiples of the first extent
over the greatest common divisor where they are.  So however many round trips it makes, a coordinate
stays between the multiple below it and itself.
-/

namespace Foundation

/-- The coordinate on an extent that stands where `value` stands on another. -/
def rescale (fromExtent toExtent value : Int) : Int := value * toExtent / fromExtent

namespace Rescaling

variable {fromExtent toExtent value : Int}

theorem rescale_monotone (leaving : 0 < fromExtent) (entering : 0 ≤ toExtent) :
    Monotone (rescale fromExtent toExtent) := by
  intro first second ordered
  exact Int.ediv_le_ediv leaving (mul_le_mul_of_nonneg_right ordered entering)

theorem rescale_nonneg (leaving : 0 < fromExtent) (entering : 0 ≤ toExtent) (nonneg : 0 ≤ value) :
    0 ≤ rescale fromExtent toExtent value :=
  Int.ediv_nonneg (mul_nonneg nonneg entering) leaving.le

/-- A coordinate inside an extent is mapped inside the other. -/
theorem rescale_lt (leaving : 0 < fromExtent) (entering : 0 < toExtent)
    (inside : value < fromExtent) : rescale fromExtent toExtent value < toExtent := by
  rw [rescale, Int.ediv_lt_iff_lt_mul leaving, mul_comm]
  exact mul_lt_mul_of_pos_left inside entering

/-- Over to another extent and back. -/
def roundTrip (fromExtent toExtent value : Int) : Int :=
  rescale toExtent fromExtent (rescale fromExtent toExtent value)

/-- The distance between coordinates that a round trip leaves alone. -/
def grain (fromExtent toExtent : Int) : Int := fromExtent / fromExtent.gcd toExtent

theorem roundTrip_monotone (leaving : 0 < fromExtent) (entering : 0 < toExtent) :
    Monotone (roundTrip fromExtent toExtent) :=
  (rescale_monotone entering leaving.le).comp (rescale_monotone leaving entering.le)

theorem roundTrip_le (leaving : 0 < fromExtent) (entering : 0 < toExtent) :
    roundTrip fromExtent toExtent value ≤ value := by
  refine Int.ediv_le_of_le_mul entering ?_
  exact Int.ediv_mul_le _ leaving.ne'

theorem grain_pos (leaving : 0 < fromExtent) : 0 < grain fromExtent toExtent :=
  Int.ediv_pos_of_pos_of_dvd leaving (Int.natCast_nonneg _) (Int.gcd_dvd_left ..)

/-- A multiple of the grain is mapped without rounding, both over and back. -/
theorem roundTrip_of_dvd (entering : 0 < toExtent)
    (divides : grain fromExtent toExtent ∣ value) :
    roundTrip fromExtent toExtent value = value := by
  have exact_over : fromExtent ∣ value * toExtent := by
    obtain ⟨steps, rfl⟩ := divides
    obtain ⟨across, parts⟩ : (fromExtent.gcd toExtent : Int) ∣ toExtent := Int.gcd_dvd_right ..
    have whole : grain fromExtent toExtent * fromExtent.gcd toExtent = fromExtent :=
      Int.ediv_mul_cancel (Int.gcd_dvd_left ..)
    refine ⟨steps * across, ?_⟩
    calc grain fromExtent toExtent * steps * toExtent
        = grain fromExtent toExtent * steps * (fromExtent.gcd toExtent * across) := by rw [← parts]
      _ = grain fromExtent toExtent * fromExtent.gcd toExtent * (steps * across) := by ring
      _ = fromExtent * (steps * across) := by rw [whole]
  rw [roundTrip, rescale, rescale, Int.ediv_mul_cancel exact_over,
    Int.mul_ediv_cancel _ entering.ne']

/-- However many round trips a coordinate makes, it stays above the multiple of the grain below it,
and does not rise. -/
theorem iterate_roundTrip_bounds (leaving : 0 < fromExtent) (entering : 0 < toExtent)
    (trips : Nat) :
    value / grain fromExtent toExtent * grain fromExtent toExtent ≤
        (roundTrip fromExtent toExtent)^[trips] value ∧
      (roundTrip fromExtent toExtent)^[trips] value ≤ value := by
  have below : value / grain fromExtent toExtent * grain fromExtent toExtent ≤ value :=
    Int.ediv_mul_le _ (grain_pos leaving).ne'
  constructor
  · have fixed : (roundTrip fromExtent toExtent)^[trips]
        (value / grain fromExtent toExtent * grain fromExtent toExtent) =
          value / grain fromExtent toExtent * grain fromExtent toExtent :=
      Function.iterate_fixed (roundTrip_of_dvd entering (dvd_mul_left _ _)) trips
    rw [← fixed]
    exact (roundTrip_monotone leaving entering).iterate trips below
  · exact Function.iterate_le_id_of_le_id (fun _ => roundTrip_le leaving entering) trips value

/-- Round trips leave the multiples of the grain alone. -/
theorem iterate_roundTrip_of_dvd (entering : 0 < toExtent)
    (divides : grain fromExtent toExtent ∣ value) (trips : Nat) :
    (roundTrip fromExtent toExtent)^[trips] value = value :=
  Function.iterate_fixed (roundTrip_of_dvd entering divides) trips

end Rescaling
end Foundation
