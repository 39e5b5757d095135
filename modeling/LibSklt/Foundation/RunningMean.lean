import Mathlib.Algebra.Order.Field.Basic
import Mathlib.Tactic

/-!
# The mean of a growing sequence

`updateMean` moves a mean towards a new value by one part in `count`.  With
the number of values as `count` it computes the arithmetic mean of the longer
sequence; with any other positive `count` it still stays between the bounds
of the values.
-/

namespace LibSklt.Foundation.RunningMean

variable {K : Type*} [Field K] [LinearOrder K] [IsStrictOrderedRing K]

/-- The arithmetic mean of a sequence. -/
def average (values : List K) : K :=
  values.sum / values.length

/-- A mean, moved towards a value by one part in `count`. -/
def updateMean (mean value : K) (count : Nat) : K :=
  mean + (value - mean) / count

/-- Counting every value gives the mean of the longer sequence. -/
theorem updateMean_average
    {values : List K} (nonempty : values ≠ []) (value : K) :
    updateMean (average values) value (values.length + 1) =
      average (values ++ [value]) := by
  have length : (values.length : K) ≠ 0 := by
    exact_mod_cast (List.length_pos_iff.mpr nonempty).ne'
  have longer : (values.length : K) + 1 ≠ 0 := by
    exact_mod_cast Nat.succ_ne_zero values.length
  rw [updateMean, average, average, List.sum_append, List.length_append]
  simp only [List.sum_singleton, List.length_singleton, Nat.cast_add,
    Nat.cast_one]
  field_simp
  ring

/-- The update is a weighted mean of the two numbers. -/
theorem updateMean_eq
    {count : Nat} (positive : 0 < count) (mean value : K) :
    updateMean mean value count =
      ((count - 1 : Nat) * mean + value) / count := by
  have nonzero : (count : K) ≠ 0 := by
    exact_mod_cast positive.ne'
  rw [updateMean, Nat.cast_pred positive]
  field_simp
  ring

theorem le_updateMean
    {lower mean value : K} {count : Nat} (positive : 0 < count)
    (meanBound : lower ≤ mean) (valueBound : lower ≤ value) :
    lower ≤ updateMean mean value count := by
  have scaled : (0 : K) < count := by
    exact_mod_cast positive
  rw [updateMean_eq positive, le_div_iff₀ scaled]
  calc
    lower * count = (count - 1 : Nat) * lower + lower := by
      rw [Nat.cast_pred positive]
      ring
    _ ≤ (count - 1 : Nat) * mean + value := by
      gcongr

theorem updateMean_le
    {upper mean value : K} {count : Nat} (positive : 0 < count)
    (meanBound : mean ≤ upper) (valueBound : value ≤ upper) :
    updateMean mean value count ≤ upper := by
  have scaled : (0 : K) < count := by
    exact_mod_cast positive
  rw [updateMean_eq positive, div_le_iff₀ scaled]
  calc
    (count - 1 : Nat) * mean + value
        ≤ (count - 1 : Nat) * upper + upper := by
      gcongr
    _ = upper * count := by
      rw [Nat.cast_pred positive]
      ring

end LibSklt.Foundation.RunningMean
