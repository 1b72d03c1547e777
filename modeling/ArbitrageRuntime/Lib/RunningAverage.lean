import Mathlib.Data.Rat.Cast.Order
import Mathlib.Algebra.Order.AbsoluteValue.Basic
import Mathlib.Algebra.Order.Field.Basic
import Mathlib.Algebra.BigOperators.Group.List.Basic
import Mathlib.Tactic.FieldSimp
import Mathlib.Tactic.Linarith
import Mathlib.Tactic.Ring

/-! A mean of naturals that is kept from its own truncated value and the number of values so far. -/

namespace RunningAverage

/-- The mean of one value more than `count`. -/
def update (mean count value : Nat) : Nat := (mean * count + value) / (count + 1)

def track : Nat → Nat → List Nat → Nat
  | mean, _, [] => mean
  | mean, count, value :: rest => track (update mean count value) (count + 1) rest

/-- What the divisions cut off along the values, where `count` values of sum `total` came before and `cut` was
cut off from them: the next division is of what is left of the sum. -/
def cutFrom : Nat → Nat → Nat → List Nat → Nat
  | _, _, cut, [] => cut
  | count, total, cut, value :: rest =>
    cutFrom (count + 1) (total + value) (cut + (total + value - cut) % (count + 1)) rest

def cutOff (values : List Nat) : Nat := cutFrom 0 0 0 values

theorem track_concat (mean count : Nat) (values : List Nat) (value : Nat) :
    track mean count (values ++ [value]) = update (track mean count values) (count + values.length) value := by
  induction values generalizing mean count with
  | nil => rfl
  | cons first rest ih =>
    rw [List.cons_append, track, track, ih, List.length_cons, Nat.add_right_comm, Nat.add_assoc]

/-- A division loses its remainder, and the remainders add up. -/
theorem track_mul_add_cutFrom {mean count total cut : Nat} (exact : mean * count + cut = total) (values : List Nat) :
    track mean count values * (count + values.length) + cutFrom count total cut values = total + values.sum := by
  induction values generalizing mean count total cut with
  | nil => exact exact
  | cons value rest ih =>
    have left : total + value - cut = mean * count + value := by omega
    have division := Nat.div_add_mod (mean * count + value) (count + 1)
    have step :
        update mean count value * (count + 1) + (cut + (total + value - cut) % (count + 1)) = total + value := by
      rw [left, update, Nat.mul_comm]
      omega
    have run := ih step
    rw [track, cutFrom, List.length_cons, List.sum_cons, ← Nat.add_assoc total, ← run, Nat.add_right_comm count,
      Nat.add_assoc count]

theorem track_mul_add_cutOff (values : List Nat) :
    track 0 0 values * values.length + cutOff values = values.sum := by
  have run := track_mul_add_cutFrom (show 0 * 0 + 0 = 0 from rfl) values
  rw [Nat.zero_add, Nat.zero_add] at run
  exact run

/-- A truncated mean is never above the exact one. -/
theorem track_mul_le (values : List Nat) : track 0 0 values * values.length ≤ values.sum := by
  have run := track_mul_add_cutOff values
  omega

/-- The truncated mean is behind the exact one by what was cut off, shared out among the values. -/
theorem mean_sub_track {values : List Nat} (some : values ≠ []) :
    (values.sum : ℚ) / values.length - track 0 0 values = cutOff values / values.length := by
  have positive : (0 : ℚ) < values.length := by exact_mod_cast List.length_pos_iff.mpr some
  have run : (track 0 0 values : ℚ) * values.length + cutOff values = values.sum := by
    exact_mod_cast track_mul_add_cutOff values
  rw [← run]
  field_simp
  ring

/-- The truncated mean stays within one of the exact mean as long as less was cut off than there are values. -/
theorem within_one_iff {values : List Nat} (some : values ≠ []) :
    |(track 0 0 values : ℚ) - values.sum / values.length| < 1 ↔ cutOff values < values.length := by
  have positive : (0 : ℚ) < values.length := by exact_mod_cast List.length_pos_iff.mpr some
  have nonneg : (0 : ℚ) ≤ cutOff values / values.length := div_nonneg (Nat.cast_nonneg _) positive.le
  rw [abs_sub_comm, mean_sub_track some, abs_of_nonneg nonneg, div_lt_one positive]
  exact Nat.cast_lt

theorem cutFrom_le {count total cut : Nat} (values : List Nat) (bound : 2 * cut ≤ count * (count - 1)) :
    2 * cutFrom count total cut values ≤ (count + values.length) * (count + values.length - 1) := by
  induction values generalizing count total cut with
  | nil => exact bound
  | cons value rest ih =>
    have remainder : (total + value - cut) % (count + 1) ≤ count := Nat.le_of_lt_succ (Nat.mod_lt _ (Nat.succ_pos _))
    have square : (count + 1) * (count + 1 - 1) = count * (count - 1) + 2 * count := by
      rcases count with _ | count
      · rfl
      · simp only [Nat.add_sub_cancel]
        ring
    have step : 2 * (cut + (total + value - cut) % (count + 1)) ≤ (count + 1) * (count + 1 - 1) := by omega
    have run := @ih (count + 1) (total + value) _ step
    rw [Nat.add_right_comm, Nat.add_assoc] at run
    exact run

theorem cutOff_le (values : List Nat) : 2 * cutOff values ≤ values.length * (values.length - 1) := by
  have bound := @cutFrom_le 0 0 0 values (Nat.zero_le _)
  rw [Nat.zero_add] at bound
  exact bound

/-- The truncated mean is never ahead, and falls behind by at most half the number of the other values. -/
theorem mean_sub_track_mem {values : List Nat} (some : values ≠ []) :
    0 ≤ (values.sum : ℚ) / values.length - track 0 0 values ∧
      (values.sum : ℚ) / values.length - track 0 0 values ≤ ((values.length : ℚ) - 1) / 2 := by
  have count := List.length_pos_iff.mpr some
  have positive : (0 : ℚ) < values.length := by exact_mod_cast count
  have bound : (2 : ℚ) * cutOff values ≤ values.length * (values.length - 1) := by
    have cast : ((2 * cutOff values : Nat) : ℚ) ≤ (values.length * (values.length - 1) : Nat) :=
      Nat.cast_le.mpr (cutOff_le values)
    push_cast [Nat.cast_sub count] at cast
    exact cast
  rw [mean_sub_track some]
  refine ⟨div_nonneg (Nat.cast_nonneg _) positive.le, ?_⟩
  rw [div_le_div_iff₀ positive two_pos]
  linarith

end RunningAverage
