import Mathlib.Data.Rat.Floor
import Mathlib.Tactic.Linarith
import Mathlib.Tactic.Positivity
import Mathlib.Tactic.Ring

namespace Rounding

/-- Rounding to the nearest integer, ties away from zero, of a nonnegative rational. -/
def halfUp (q : ℚ) : Int :=
  ⌊q + 1 / 2⌋

/-- Rounding to the nearest integer, ties to the even one. -/
def halfEven (q : ℚ) : Int :=
  if q - ⌊q⌋ < 1 / 2 then ⌊q⌋
  else if 1 / 2 < q - ⌊q⌋ then ⌊q⌋ + 1
  else if ⌊q⌋ % 2 = 0 then ⌊q⌋ else ⌊q⌋ + 1

/-- Rounding to the nearest never passes an integer that bounds the rounded value. -/
theorem halfEven_le {q : ℚ} {n : Int} (bound : q ≤ n) : halfEven q ≤ n := by
  have lower : ⌊q⌋ ≤ n := by exact_mod_cast (Int.floor_le q).trans bound
  rcases lower.lt_or_eq with below | equal
  · unfold halfEven
    split
    · exact lower
    · split
      · omega
      · split <;> omega
  · have small : q - ⌊q⌋ < 1 / 2 := by
      rw [equal]
      linarith
    rw [halfEven, if_pos small]
    exact lower

/-- The natural floor of a rational, present when the rational is nonnegative and fits the type. -/
def floorWithin (top : Nat) (q : ℚ) : Option Nat :=
  if q < 0 then none
  else if ⌊q⌋.toNat ≤ top then some ⌊q⌋.toNat else none

theorem floorWithin_eq_some {top n : Nat} {q : ℚ} (found : floorWithin top q = some n) :
    0 ≤ q ∧ n ≤ top ∧ (n : ℚ) ≤ q ∧ q < n + 1 := by
  unfold floorWithin at found
  split at found
  · exact absurd found (by simp)
  · rename_i nonneg
    have positive : 0 ≤ q := not_lt.mp nonneg
    have floorNonneg : 0 ≤ ⌊q⌋ := Int.floor_nonneg.mpr positive
    split at found
    · rename_i fits
      cases Option.some.inj found
      have cast : ((⌊q⌋.toNat : Nat) : ℚ) = (⌊q⌋ : ℚ) := by
        exact_mod_cast congrArg (Int.cast : Int → ℚ) (Int.toNat_of_nonneg floorNonneg)
      refine ⟨positive, fits, ?_, ?_⟩
      · rw [cast]
        exact Int.floor_le q
      · rw [cast]
        exact Int.lt_floor_add_one q
    · exact absurd found (by simp)

theorem floorWithin_of_bounds {top n : Nat} {q : ℚ} (fits : n ≤ top) (lower : (n : ℚ) ≤ q)
    (upper : q < n + 1) : floorWithin top q = some n := by
  have positive : 0 ≤ q := (Nat.cast_nonneg n).trans lower
  have floorEq : ⌊q⌋ = (n : Int) := Int.floor_eq_iff.mpr ⟨by exact_mod_cast lower, by exact_mod_cast upper⟩
  rw [floorWithin, if_neg (not_lt.mpr positive), floorEq, Int.toNat_natCast, if_pos fits]

theorem floorWithin_of_lt {top : Nat} {q : ℚ} (nonneg : 0 ≤ q) (fits : q < top + 1) :
    ∃ n, floorWithin top q = some n := by
  have below : ⌊q⌋ < (top : Int) + 1 := Int.floor_lt.mpr (by exact_mod_cast fits)
  exact ⟨_, by rw [floorWithin, if_neg (not_lt.mpr nonneg), if_pos (by omega)]⟩

theorem floorWithin_mono {top n : Nat} {p q : ℚ} (nonneg : 0 ≤ p) (order : p ≤ q)
    (found : floorWithin top q = some n) : ∃ m ≤ n, floorWithin top p = some m := by
  obtain ⟨_, fits, _, upper⟩ := floorWithin_eq_some found
  have top' : (n + 1 : ℚ) ≤ top + 1 := by exact_mod_cast Nat.succ_le_succ fits
  obtain ⟨m, floor⟩ := floorWithin_of_lt nonneg ((order.trans_lt upper).trans_le top')
  obtain ⟨_, _, lower, _⟩ := floorWithin_eq_some floor
  have bound : (m : ℚ) < n + 1 := (lower.trans order).trans_lt upper
  exact ⟨m, Nat.lt_succ_iff.mp (by exact_mod_cast bound), floor⟩

/-- Two quotients compared by cross multiplication. -/
theorem div_le_div_of_cross {a b c d : Nat} (positive : 0 < d) (cross : a * d ≤ c * b) : a / b ≤ c / d := by
  rw [Nat.le_div_iff_mul_le positive]
  rcases Nat.eq_zero_or_pos b with zero | bPositive
  · simp [zero]
  · have bound : a / b * d * b ≤ c * b := by
      calc a / b * d * b = a / b * b * d := by ring
        _ ≤ a * d := Nat.mul_le_mul_right d (Nat.div_mul_le_self a b)
        _ ≤ c * b := cross
    exact Nat.le_of_mul_le_mul_right bound bPositive

/-- One more than the floor of a quotient covers the dividend, and one less than the floor does not. -/
theorem floor_plus_one_tight {dividend divisor : Nat} (positive : 0 < divisor) :
    dividend ≤ (dividend / divisor + 1) * divisor ∧
      ∀ less, less + 2 ≤ dividend / divisor + 1 → ¬ dividend ≤ less * divisor := by
  constructor
  · rw [Nat.mul_comm]
    exact le_of_lt (Nat.lt_mul_div_succ dividend positive)
  · intro less small covers
    have floor : (less + 1) * divisor ≤ dividend := (Nat.le_div_iff_mul_le positive).mp (by omega)
    rw [Nat.add_mul] at floor
    omega

end Rounding
