import Mathlib.Order.Lattice
import Mathlib.Algebra.Order.Ring.Nat
import Mathlib.Algebra.Ring.Int.Defs
import Mathlib.Tactic.Linarith

namespace Saturating

/-- Addition of naturals that stops at `top`, the largest value of the machine type. -/
def add (top a b : Nat) : Nat :=
  min (a + b) top

/-- Multiplication of naturals that stops at `top`. Subtraction needs no definition of its own:
saturating subtraction of unsigned integers is the truncated subtraction of `Nat`. -/
def mul (top a b : Nat) : Nat :=
  min (a * b) top

theorem mul_le_exact (top a b : Nat) : mul top a b ≤ a * b :=
  Nat.min_le_left _ _

theorem add_eq {top a b : Nat} (fits : a + b ≤ top) : add top a b = a + b :=
  Nat.min_eq_left fits

theorem mul_eq {top a b : Nat} (fits : a * b ≤ top) : mul top a b = a * b :=
  Nat.min_eq_left fits

theorem le_add_left {top a b : Nat} (bound : a ≤ top) : a ≤ add top a b :=
  Nat.le_min.mpr ⟨Nat.le_add_right a b, bound⟩

theorem mul_mono {top a b c d : Nat} (left : a ≤ c) (right : b ≤ d) : mul top a b ≤ mul top c d :=
  min_le_min_right top (Nat.mul_le_mul left right)

/-- Saturating twice with a positive second factor is saturating the whole product once. -/
theorem mul_mul {top a b c : Nat} (positive : 0 < c) : mul top (mul top a b) c = min (a * b * c) top := by
  unfold mul
  rcases Nat.le_total (a * b) top with fits | above
  · rw [Nat.min_eq_left fits]
  · have grows : top ≤ top * c := Nat.le_mul_of_pos_right top positive
    have whole : top ≤ a * b * c := grows.trans (Nat.mul_le_mul_right c above)
    rw [Nat.min_eq_right above, Nat.min_eq_right grows, Nat.min_eq_right whole]

/-- Two saturating decrements of a machine word are the decrement by their sum. -/
theorem sub_mul_sub_mul {top value a b c : Nat} (word : value ≤ top) :
    value - mul top a c - mul top b c = value - mul top (a + b) c := by
  unfold mul
  rw [Nat.add_mul]
  omega

/-- Adding a signed number, which stops at zero and at `top`. -/
def addSigned (top value : Nat) (net : Int) : Nat :=
  if 0 ≤ net then add top value net.toNat else value - (-net).toNat

/-- None of the additions stops short. -/
def Fits (top : Nat) : Nat → List Int → Prop
  | _, [] => True
  | value, net :: rest => 0 ≤ value + net ∧ value + net ≤ top ∧ Fits top (addSigned top value net) rest

instance Fits.decidable (top : Nat) : (value : Nat) → (nets : List Int) → Decidable (Fits top value nets)
  | _, [] => isTrue trivial
  | value, net :: rest =>
    have := Fits.decidable top (addSigned top value net) rest
    inferInstanceAs (Decidable (0 ≤ value + net ∧ value + net ≤ top ∧ Fits top (addSigned top value net) rest))

theorem addSigned_eq {top value : Nat} {net : Int} (lower : 0 ≤ value + net) (upper : value + net ≤ top) :
    (addSigned top value net : Int) = value + net := by
  unfold addSigned
  split
  · rw [add_eq (by omega)]
    omega
  · omega

/-- A sequence of additions that fit adds up exactly. -/
theorem foldl_addSigned {top value : Nat} {nets : List Int} (fits : Fits top value nets) :
    ((nets.foldl (addSigned top) value : Nat) : Int) = value + nets.sum := by
  induction nets generalizing value with
  | nil => simp
  | cons net rest ih =>
    obtain ⟨lower, upper, later⟩ := fits
    have step := addSigned_eq lower upper
    rw [List.foldl_cons, ih later, List.sum_cons, step, add_assoc]

end Saturating
