import Mathlib.Algebra.Order.Ring.Nat

namespace ElapsedWindows

/-- The whole windows between two times. -/
def elapsed (window start now : Nat) : Nat :=
  (now - start) / window

theorem elapsed_mono {window start now later : Nat} (order : now ≤ later) :
    elapsed window start now ≤ elapsed window start later :=
  Nat.div_le_div_right (Nat.sub_le_sub_right order start)

/-- A start that is moved by whole windows loses exactly these. -/
theorem elapsed_advance {window start later moved : Nat} (passed : moved ≤ elapsed window start later) :
    elapsed window (start + moved * window) later = elapsed window start later - moved := by
  have whole : window * moved ≤ later - start :=
    (Nat.mul_le_mul_left window passed).trans (Nat.mul_div_le _ _)
  rw [elapsed, ← Nat.sub_sub, Nat.mul_comm moved, Nat.sub_mul_div, elapsed]

theorem elapsed_lt {window start now bound : Nat} (positive : 0 < window) (early : now < bound * window) :
    elapsed window start now < bound :=
  (Nat.div_lt_iff_lt_mul positive).mpr ((Nat.sub_le now start).trans_lt early)

end ElapsedWindows
