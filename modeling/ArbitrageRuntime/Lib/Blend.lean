import Mathlib.Algebra.BigOperators.Fin
import Mathlib.Algebra.Order.BigOperators.Group.Finset
import Mathlib.Algebra.Order.Field.Basic
import Mathlib.Analysis.Convex.Basic
import Mathlib.Tactic.Linarith
import Mathlib.Tactic.Ring

namespace Blend

variable {𝕜 E ι : Type} [Field 𝕜] [LinearOrder 𝕜] [IsStrictOrderedRing 𝕜] [AddCommGroup E] [Module 𝕜 E]

/-- One update of an exponentially weighted mean. -/
def blend (weight : 𝕜) (current sample : E) : E := (1 - weight) • current + weight • sample

/-- Where both the mean and the sample are in a convex set, the new mean is. -/
theorem blend_mem {s : Set E} (convex : Convex 𝕜 s) {weight : 𝕜} (unit : weight ∈ Set.Icc 0 1) {current sample : E}
    (inCurrent : current ∈ s) (inSample : sample ∈ s) : blend weight current sample ∈ s :=
  convex inCurrent inSample (sub_nonneg.mpr unit.2) unit.1 (sub_add_cancel 1 weight)

/-- A sample of nothing and then one of the whole do not lower a mean that is small enough. -/
theorem le_blend_blend_iff {weight : 𝕜} (positive : 0 < weight) (mean : 𝕜) :
    mean ≤ blend weight (blend weight mean 0) 1 ↔ mean * (2 - weight) ≤ 1 := by
  have gain : blend weight (blend weight mean 0) 1 - mean = weight * (1 - mean * (2 - weight)) := by
    simp only [blend, smul_eq_mul]
    ring
  rw [← sub_nonneg, gain, mul_nonneg_iff_of_pos_left positive, sub_nonneg]

variable (𝕜 ι) [Fintype ι]

/-- Shares of a whole that need not use it up. -/
def shares : Set (ι → 𝕜) := {share | (∀ i, 0 ≤ share i) ∧ ∑ i, share i ≤ 1}

variable {𝕜 ι}

theorem convex_shares : Convex 𝕜 (shares 𝕜 ι) := by
  intro share inShare share' inShare' a b aNonneg bNonneg whole
  refine ⟨fun i => add_nonneg (mul_nonneg aNonneg (inShare.1 i)) (mul_nonneg bNonneg (inShare'.1 i)), ?_⟩
  have sum : ∑ i, (a • share + b • share') i = a * ∑ i, share i + b * ∑ i, share' i := by
    simp only [Pi.add_apply, Pi.smul_apply, smul_eq_mul, Finset.sum_add_distrib, Finset.mul_sum]
  rw [sum]
  calc a * ∑ i, share i + b * ∑ i, share' i ≤ a * 1 + b * 1 :=
        add_le_add (mul_le_mul_of_nonneg_left inShare.2 aNonneg) (mul_le_mul_of_nonneg_left inShare'.2 bNonneg)
    _ = 1 := by rw [mul_one, mul_one, whole]

theorem share_mem {share : ι → 𝕜} (inShares : share ∈ shares 𝕜 ι) (i : ι) : share i ∈ Set.Icc 0 1 :=
  ⟨inShares.1 i, (Finset.single_le_sum (fun j _ => inShares.1 j) (Finset.mem_univ i)).trans inShares.2⟩

omit [IsStrictOrderedRing 𝕜] in
theorem pair_mem_shares {a b : 𝕜} : ![a, b] ∈ shares 𝕜 (Fin 2) ↔ 0 ≤ a ∧ 0 ≤ b ∧ a + b ≤ 1 := by
  simp [shares, Fin.forall_fin_two, and_assoc]

omit [IsStrictOrderedRing 𝕜] in
theorem triple_mem_shares {a b c : 𝕜} :
    ![a, b, c] ∈ shares 𝕜 (Fin 3) ↔ 0 ≤ a ∧ 0 ≤ b ∧ 0 ≤ c ∧ a + b + c ≤ 1 := by
  simp [shares, Fin.forall_fin_succ, Fin.sum_univ_three, and_assoc]

omit [LinearOrder 𝕜] [IsStrictOrderedRing 𝕜] in
theorem blend_pair (weight a b a' b' : 𝕜) :
    blend weight ![a, b] ![a', b'] = ![blend weight a a', blend weight b b'] := by
  ext i
  fin_cases i <;> rfl

omit [LinearOrder 𝕜] [IsStrictOrderedRing 𝕜] in
theorem blend_triple (weight a b c a' b' c' : 𝕜) :
    blend weight ![a, b, c] ![a', b', c'] = ![blend weight a a', blend weight b b', blend weight c c'] := by
  ext i
  fin_cases i <;> rfl

end Blend
