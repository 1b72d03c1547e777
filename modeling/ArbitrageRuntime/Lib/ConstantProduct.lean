import ArbitrageRuntime.Lib.Rounding
import Mathlib.Tactic.Linarith
import Mathlib.Tactic.Ring
import Mathlib.Algebra.Order.Ring.Nat

namespace ConstantProduct

/-- A sale pays no more than the constant product allows: `charged` counts the input in parts of
`scale`, after the fee. -/
def Pays (scale reserveIn reserveOut charged paid : Nat) : Prop :=
  paid * (reserveIn * scale + charged) ≤ charged * reserveOut

/-- Rounding the price down keeps the bound, whatever is cut off the numerator. -/
theorem pays_floor {scale reserveIn reserveOut charged numerator : Nat} (cut : numerator ≤ charged * reserveOut) :
    Pays scale reserveIn reserveOut charged (numerator / (reserveIn * scale + charged)) :=
  (Nat.div_mul_le_self numerator (reserveIn * scale + charged)).trans cut

/-- The floor of the price never falls when more is sold. -/
theorem floor_mono {scale reserveIn reserveOut small large : Nat} (order : small ≤ large)
    (positive : 0 < reserveIn * scale + large) :
    small * reserveOut / (reserveIn * scale + small) ≤ large * reserveOut / (reserveIn * scale + large) := by
  refine Rounding.div_le_div_of_cross positive ?_
  have more : small * (reserveOut * (reserveIn * scale)) ≤ large * (reserveOut * (reserveIn * scale)) :=
    Nat.mul_le_mul_right _ order
  linarith

theorem floor_lt {scale reserveIn reserveOut charged : Nat} (scaled : 0 < reserveIn * scale) (stocked : 0 < reserveOut) :
    charged * reserveOut / (reserveIn * scale + charged) < reserveOut := by
  refine (Nat.div_lt_iff_lt_mul (by omega)).mpr ?_
  have left : 0 < reserveOut * (reserveIn * scale) := Nat.mul_pos stocked scaled
  linarith

/-- A fee only helps the pool: what is paid for the charged part is below what the whole input
is worth. -/
theorem Pays.unscaled {scale reserveIn reserveOut charged paid amount : Nat}
    (pays : Pays scale reserveIn reserveOut charged paid) (positive : 0 < scale)
    (within : paid ≤ reserveOut) (fee : charged ≤ amount * scale) : Pays 1 reserveIn reserveOut amount paid := by
  unfold Pays at *
  obtain ⟨left, rfl⟩ := Nat.exists_eq_add_of_le within
  have kept : paid * reserveIn * scale ≤ charged * left := by linarith
  have scaled : paid * reserveIn * scale ≤ amount * left * scale :=
    calc paid * reserveIn * scale ≤ charged * left := kept
      _ ≤ amount * scale * left := Nat.mul_le_mul_right left fee
      _ = amount * left * scale := by ring
  have whole : paid * reserveIn ≤ amount * left := Nat.le_of_mul_le_mul_right scaled positive
  linarith

theorem Pays.product_mono {reserveIn reserveOut amount paid : Nat} (pays : Pays 1 reserveIn reserveOut amount paid)
    (within : paid ≤ reserveOut) : reserveIn * reserveOut ≤ (reserveIn + amount) * (reserveOut - paid) := by
  unfold Pays at pays
  obtain ⟨left, rfl⟩ := Nat.exists_eq_add_of_le within
  rw [Nat.add_sub_cancel_left]
  linarith

/-- Selling the proceeds straight back never returns more than was sold. -/
theorem Pays.round_trip {reserveIn reserveOut amount paid back : Nat}
    (pays : Pays 1 reserveIn reserveOut amount paid) (within : paid < reserveOut)
    (returns : Pays 1 (reserveOut - paid) (reserveIn + amount) paid back) : back ≤ amount := by
  unfold Pays at pays returns
  obtain ⟨left, rfl⟩ := Nat.exists_eq_add_of_le within.le
  rw [Nat.add_sub_cancel_left] at returns
  have chained : back * (paid + left) ≤ amount * (paid + left) := by linarith
  exact Nat.le_of_mul_le_mul_right chained (by omega)

end ConstantProduct
