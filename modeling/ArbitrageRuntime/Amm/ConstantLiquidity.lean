import ArbitrageRuntime.Amm.UniswapV3
import Mathlib.Tactic.FieldSimp

namespace ArbitrageRuntime

/-- Whether the liquidity at hand covers an exact output: token1 leaves the pool when `zeroForOne`,
token0 otherwise. -/
def Delivers (zeroForOne : Bool) (liquidity sqrtBefore amount : ℚ) : Prop :=
  if zeroForOne then amount < liquidity * sqrtBefore else amount * sqrtBefore < liquidity

/-- What a pool asks for an exact output at constant liquidity, before its fee. -/
def exactOutCost (zeroForOne : Bool) (liquidity sqrtBefore amount : ℚ) : ℚ :=
  if zeroForOne then liquidity * (1 / (sqrtBefore - amount / liquidity) - 1 / sqrtBefore)
  else liquidity * (1 / (1 / sqrtBefore - amount / liquidity) - sqrtBefore)

variable {liquidity sqrtBefore sold amount : ℚ}

theorem exactOutCost_token1 (liquid : 0 < liquidity) (priced : 0 < sqrtBefore)
    (delivers : amount < liquidity * sqrtBefore) :
    exactOutCost true liquidity sqrtBefore amount = amount * liquidity /
      (sqrtBefore * (liquidity * sqrtBefore - amount)) := by
  have left : liquidity * sqrtBefore - amount ≠ 0 := (sub_pos.mpr delivers).ne'
  have after : sqrtBefore - amount / liquidity = (liquidity * sqrtBefore - amount) / liquidity := by
    field_simp
  rw [exactOutCost, if_pos rfl, after]
  field_simp
  ring

theorem exactOutCost_token0 (liquid : 0 < liquidity) (priced : 0 < sqrtBefore)
    (delivers : amount * sqrtBefore < liquidity) :
    exactOutCost false liquidity sqrtBefore amount = amount * sqrtBefore ^ 2 * liquidity /
      (liquidity - amount * sqrtBefore) := by
  have left : liquidity - amount * sqrtBefore ≠ 0 := (sub_pos.mpr delivers).ne'
  have after : 1 / sqrtBefore - amount / liquidity = (liquidity - amount * sqrtBefore) / (sqrtBefore * liquidity) := by
    field_simp
  rw [exactOutCost, if_neg (by decide), after]
  field_simp
  ring

theorem exactInMove_token1 (liquid : 0 < liquidity) (priced : 0 < sqrtBefore) (nonneg : 0 ≤ sold) :
    (V3PoolState.exactInMove false liquidity sqrtBefore sold).2 = sold * liquidity /
      (sqrtBefore * (liquidity * sqrtBefore + sold)) := by
  have after : sqrtBefore + sold / liquidity = (liquidity * sqrtBefore + sold) / liquidity := by
    field_simp
  have positive : 0 < liquidity * sqrtBefore + sold := by positivity
  simp only [V3PoolState.exactInMove, Bool.false_eq_true, if_false, after]
  field_simp
  ring

theorem exactInMove_token0 (liquid : 0 < liquidity) (priced : 0 < sqrtBefore) (nonneg : 0 ≤ sold) :
    (V3PoolState.exactInMove true liquidity sqrtBefore sold).2 = sold * sqrtBefore ^ 2 * liquidity /
      (liquidity + sold * sqrtBefore) := by
  have positive : 0 < liquidity + sold * sqrtBefore := by positivity
  simp only [V3PoolState.exactInMove, if_true]
  field_simp
  ring

/-- At constant liquidity a pool pays no more for tokens than it takes to hand as many out. -/
theorem exactInMove_le_exactOutCost {zeroForOne : Bool} (liquid : 0 < liquidity) (priced : 0 < sqrtBefore)
    (nonneg : 0 ≤ sold) (fewer : sold ≤ amount) (delivers : Delivers zeroForOne liquidity sqrtBefore amount) :
    (V3PoolState.exactInMove (!zeroForOne) liquidity sqrtBefore sold).2 ≤
      exactOutCost zeroForOne liquidity sqrtBefore amount := by
  cases zeroForOne with
  | true =>
    have enough : amount < liquidity * sqrtBefore := delivers
    have left : 0 < liquidity * sqrtBefore - amount := sub_pos.mpr enough
    rw [exactOutCost_token1 liquid priced enough, Bool.not_true, exactInMove_token1 liquid priced nonneg]
    refine div_le_div₀ ?_ ?_ (by positivity) ?_
    · exact mul_nonneg (nonneg.trans fewer) liquid.le
    · exact mul_le_mul_of_nonneg_right fewer liquid.le
    · exact mul_le_mul_of_nonneg_left (by linarith) priced.le
  | false =>
    have enough : amount * sqrtBefore < liquidity := delivers
    have left : 0 < liquidity - amount * sqrtBefore := sub_pos.mpr enough
    have scaled : sold * sqrtBefore ≤ amount * sqrtBefore := mul_le_mul_of_nonneg_right fewer priced.le
    rw [exactOutCost_token0 liquid priced enough, Bool.not_false, exactInMove_token0 liquid priced nonneg]
    refine div_le_div₀ ?_ ?_ left ?_
    · exact mul_nonneg (mul_nonneg (nonneg.trans fewer) (sq_nonneg _)) liquid.le
    · exact mul_le_mul_of_nonneg_right (mul_le_mul_of_nonneg_right fewer (sq_nonneg _)) liquid.le
    · have product : 0 ≤ sold * sqrtBefore := mul_nonneg nonneg priced.le
      linarith

/-- Rounding the sale does not lift it over a charge that covers the loan. -/
theorem sale_le_charge {pool next : V3PoolState} {tokenIn tokenOut : Address} {borrowed charge : Nat}
    {result : V3SwapResult} {zeroForOne : Bool} (sale : pool.simulateExactIn tokenOut tokenIn borrowed =
      some (next, result)) (distinct : tokenIn ≠ tokenOut) (direction : zeroForOne = decide (tokenOut = pool.token1))
    (delivers : Delivers zeroForOne pool.liquidity pool.sqrtPrice borrowed)
    (charged : exactOutCost zeroForOne pool.liquidity pool.sqrtPrice borrowed ≤ charge) :
    result.amountOut ≤ charge := by
  obtain ⟨liquid, priced, tokens, amountOut⟩ := V3PoolState.simulateExactIn_spec sale
  have reverse : decide (tokenOut = pool.token0 ∧ tokenIn = pool.token1) = !zeroForOne := by
    rw [direction]
    rcases tokens with ⟨sold, bought⟩ | ⟨sold, bought⟩
    · have other : pool.token0 ≠ pool.token1 := by
        rw [← sold, ← bought]
        exact distinct.symm
      simp [sold, bought, other]
    · have other : pool.token1 ≠ pool.token0 := by
        rw [← sold, ← bought]
        exact distinct.symm
      simp [sold, bought, other]
  have lessFee : pool.amountLessFee borrowed ≤ borrowed := by
    have product := Saturating.mul_le_exact u256Max borrowed (10000 - pool.feeBps)
    have share : borrowed * (10000 - pool.feeBps) ≤ borrowed * 10000 := Nat.mul_le_mul_left _ (by omega)
    unfold V3PoolState.amountLessFee u256Mul
    omega
  have bound := exactInMove_le_exactOutCost (by exact_mod_cast liquid) priced
    (Nat.cast_nonneg (pool.amountLessFee borrowed)) (by exact_mod_cast lessFee) delivers
  rw [amountOut, reverse, Int.toNat_le]
  exact Rounding.halfEven_le (bound.trans (by exact_mod_cast charged))

end ArbitrageRuntime
