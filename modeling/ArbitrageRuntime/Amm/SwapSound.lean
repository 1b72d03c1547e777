import ArbitrageRuntime.Amm.UniswapV2
import ArbitrageRuntime.Lib.ConstantProduct

namespace ArbitrageRuntime

open ConstantProduct

/-- A quote follows the constant product, or its denominator stopped at the top of the word; then
it pays at most one unit for a huge input. -/
theorem amountOutExactIn_pays {amountIn reserveIn reserveOut feeBps amountOut : Nat} (small : reserveIn < 2 ^ 112)
    (quoted : amountOutExactIn amountIn reserveIn reserveOut feeBps = some amountOut) :
    Pays 10000 reserveIn reserveOut (u256Mul amountIn (10000 - feeBps)) amountOut ∨
      amountOut ≤ 1 ∧ u256Max < reserveIn * 10000 + u256Mul amountIn (10000 - feeBps) := by
  have top : u256Max = 2 ^ 256 - 1 := rfl
  have scaled : u256Mul reserveIn 10000 = reserveIn * 10000 := Saturating.mul_eq (by omega)
  unfold amountOutExactIn at quoted
  split at quoted
  · exact absurd quoted (by simp)
  · rw [scaled] at quoted
    dsimp only at quoted
    split at quoted
    · exact absurd quoted (by simp)
    · have result := Option.some.inj quoted
      rcases Nat.lt_or_ge u256Max (reserveIn * 10000 + u256Mul amountIn (10000 - feeBps)) with above | fits
      · have denominator : u256Add (reserveIn * 10000) (u256Mul amountIn (10000 - feeBps)) = u256Max :=
          Nat.min_eq_right above.le
        rw [denominator] at result
        refine Or.inr ⟨?_, above⟩
        have cut : u256Mul (u256Mul amountIn (10000 - feeBps)) reserveOut ≤ u256Max := Nat.min_le_right _ _
        rw [← result]
        exact Nat.div_le_of_le_mul (by omega)
      · have denominator : u256Add (reserveIn * 10000) (u256Mul amountIn (10000 - feeBps)) =
            reserveIn * 10000 + u256Mul amountIn (10000 - feeBps) := Saturating.add_eq fits
        rw [← result, denominator]
        exact Or.inl (pays_floor (Saturating.mul_le_exact _ _ _))

/-- An output that is paid from reserves of the pair's size never lowers the product, also where the
new input reserve stops at the top of the word. -/
theorem product_mono_of_quote {amountIn reserveIn reserveOut feeBps amountOut : Nat} (smallIn : reserveIn < 2 ^ 112)
    (smallOut : reserveOut < 2 ^ 112) (quoted : amountOutExactIn amountIn reserveIn reserveOut feeBps = some amountOut)
    (within : amountOut < reserveOut) :
    reserveIn * reserveOut ≤ u256Add reserveIn amountIn * (reserveOut - amountOut) := by
  have top : u256Max = 2 ^ 256 - 1 := rfl
  have charged : u256Mul amountIn (10000 - feeBps) ≤ amountIn * 10000 :=
    (Saturating.mul_le_exact _ _ _).trans (Nat.mul_le_mul_left _ (by omega))
  have product : reserveIn * reserveOut ≤ 2 ^ 112 * 2 ^ 112 := Nat.mul_le_mul smallIn.le smallOut.le
  have huge (above : 2 ^ 112 * 2 ^ 112 ≤ u256Add reserveIn amountIn) :
      reserveIn * reserveOut ≤ u256Add reserveIn amountIn * (reserveOut - amountOut) :=
    product.trans (above.trans (Nat.le_mul_of_pos_right _ (by omega)))
  rcases Nat.lt_or_ge u256Max (reserveIn + amountIn) with above | fits
  · have sum : u256Add reserveIn amountIn = u256Max := Nat.min_eq_right above.le
    exact huge (by omega)
  · have sum : u256Add reserveIn amountIn = reserveIn + amountIn := Saturating.add_eq fits
    rcases amountOutExactIn_pays smallIn quoted with pays | ⟨one, saturated⟩
    · rw [sum]
      exact (pays.unscaled (by omega) within.le charged).product_mono within.le
    · exact huge (by omega)

theorem round_trip_of_quotes {amountIn reserveIn reserveOut feeBps amountOut back : Nat} (smallIn : reserveIn < 2 ^ 112)
    (smallOut : reserveOut < 2 ^ 112) (quoted : amountOutExactIn amountIn reserveIn reserveOut feeBps = some amountOut)
    (within : amountOut < reserveOut) (smallNext : u256Add reserveIn amountIn < 2 ^ 112)
    (returned : amountOutExactIn amountOut (reserveOut - amountOut) (u256Add reserveIn amountIn) feeBps = some back)
    (backWithin : back < u256Add reserveIn amountIn) : back ≤ amountIn := by
  have top : u256Max = 2 ^ 256 - 1 := rfl
  have charged (amount : Nat) : u256Mul amount (10000 - feeBps) ≤ amount * 10000 :=
    (Saturating.mul_le_exact _ _ _).trans (Nat.mul_le_mul_left _ (by omega))
  have sum : u256Add reserveIn amountIn = reserveIn + amountIn := by
    unfold u256Add Saturating.add at smallNext ⊢
    omega
  rw [sum] at returned smallNext backWithin
  have forward := (amountOutExactIn_pays smallIn quoted).resolve_right (by have := charged amountIn; omega)
  have backward := (amountOutExactIn_pays (by omega) returned).resolve_right (by have := charged amountOut; omega)
  exact (forward.unscaled (by omega) within.le (charged amountIn)).round_trip within
    (backward.unscaled (by omega) backWithin.le (charged amountOut))

namespace V2PoolState

variable {pool next : V2PoolState} {tokenIn tokenOut : Address} {amountIn : Nat} {result : V2SwapResult}

theorem reservesFor_cases {reserveIn reserveOut : Nat}
    (sides : pool.reservesFor tokenIn tokenOut = some (reserveIn, reserveOut)) :
    (tokenIn = pool.token0 ∧ tokenOut = pool.token1 ∧ reserveIn = pool.reserve0 ∧ reserveOut = pool.reserve1) ∨
      (tokenIn ≠ pool.token0 ∧ tokenIn = pool.token1 ∧ tokenOut = pool.token0 ∧
        reserveIn = pool.reserve1 ∧ reserveOut = pool.reserve0) := by
  unfold reservesFor at sides
  split at sides
  · rename_i forward
    obtain ⟨rfl, rfl⟩ := Prod.mk.inj (Option.some.inj sides)
    exact Or.inl ⟨forward.1, forward.2, rfl, rfl⟩
  · rename_i notForward
    split at sides
    · rename_i backward
      obtain ⟨rfl, rfl⟩ := Prod.mk.inj (Option.some.inj sides)
      refine Or.inr ⟨fun same => notForward ⟨same, ?_⟩, backward.1, backward.2, rfl, rfl⟩
      rw [backward.2, ← same, backward.1]
    · exact absurd sides (by simp)

/-- What a swap that goes through does to the pool. -/
structure Swapped (pool : V2PoolState) (tokenIn tokenOut : Address) (amountIn : Nat) (next : V2PoolState)
    (result : V2SwapResult) (reserveIn reserveOut : Nat) : Prop where
  before : pool.reservesFor tokenIn tokenOut = some (reserveIn, reserveOut)
  positive : 0 < amountIn ∧ 0 < reserveIn ∧ 0 < result.amountOut
  quoted : amountOutExactIn amountIn reserveIn reserveOut pool.feeBps = some result.amountOut
  within : result.amountOut < reserveOut
  newReserves : result.newReserveIn = u256Add reserveIn amountIn ∧ result.newReserveOut = reserveOut - result.amountOut
  moved : next = if tokenIn = pool.token0
    then { pool with reserve0 := result.newReserveIn, reserve1 := result.newReserveOut }
    else { pool with reserve1 := result.newReserveIn, reserve0 := result.newReserveOut }

theorem applySwapExactIn_spec (swap : pool.applySwapExactIn tokenIn tokenOut amountIn = some (next, result)) :
    ∃ reserveIn reserveOut, Swapped pool tokenIn tokenOut amountIn next result reserveIn reserveOut := by
  unfold applySwapExactIn at swap
  obtain ⟨⟨reserveIn, reserveOut⟩, sides, rest⟩ := Option.bind_eq_some_iff.mp swap
  dsimp only at rest
  split at rest
  · exact absurd rest (by simp)
  · rename_i nonzero
    obtain ⟨amountOut, quoted, last⟩ := Option.bind_eq_some_iff.mp rest
    split at last
    · exact absurd last (by simp)
    · rename_i inside
      obtain ⟨rfl, rfl⟩ := Prod.mk.inj (Option.some.inj last)
      have positive : 0 < amountIn ∧ 0 < reserveIn ∧ 0 < amountOut := by omega
      have within : amountOut < reserveOut := by omega
      exact ⟨reserveIn, reserveOut, sides, positive, quoted, within, ⟨rfl, rfl⟩, rfl⟩

variable {reserveIn reserveOut : Nat}

theorem Swapped.kept (swapped : Swapped pool tokenIn tokenOut amountIn next result reserveIn reserveOut) :
    next.pair = pool.pair ∧ next.token0 = pool.token0 ∧ next.token1 = pool.token1 ∧ next.feeBps = pool.feeBps := by
  rw [swapped.moved]
  split <;> exact ⟨rfl, rfl, rfl, rfl⟩

theorem Swapped.after (swapped : Swapped pool tokenIn tokenOut amountIn next result reserveIn reserveOut) :
    next.reservesFor tokenIn tokenOut = some (result.newReserveIn, result.newReserveOut) := by
  rcases reservesFor_cases swapped.before with ⟨isIn, isOut, -, -⟩ | ⟨notIn, isIn, isOut, -, -⟩
  · rw [swapped.moved, if_pos isIn]
    exact if_pos ⟨isIn, isOut⟩
  · rw [swapped.moved, if_neg notIn]
    exact (if_neg fun both => notIn both.1).trans (if_pos ⟨isIn, isOut⟩)

/-- In a pool of two tokens the way back sees the same reserves from the other side. -/
theorem Swapped.back (swapped : Swapped pool tokenIn tokenOut amountIn next result reserveIn reserveOut)
    (distinct : pool.token0 ≠ pool.token1) :
    next.reservesFor tokenOut tokenIn = some (result.newReserveOut, result.newReserveIn) := by
  rcases reservesFor_cases swapped.before with ⟨isIn, isOut, -, -⟩ | ⟨notIn, isIn, isOut, -, -⟩
  · rw [swapped.moved, if_pos isIn]
    have turned : ¬ (tokenOut = pool.token0 ∧ tokenIn = pool.token1) := fun both =>
      distinct (both.1.symm.trans isOut)
    exact (if_neg turned).trans (if_pos ⟨isOut, isIn⟩)
  · rw [swapped.moved, if_neg notIn]
    exact if_pos ⟨isOut, isIn⟩

theorem Swapped.products (swapped : Swapped pool tokenIn tokenOut amountIn next result reserveIn reserveOut) :
    pool.reserve0 * pool.reserve1 = reserveIn * reserveOut ∧
      next.reserve0 * next.reserve1 = result.newReserveIn * result.newReserveOut := by
  rcases reservesFor_cases swapped.before with ⟨isIn, -, rfl, rfl⟩ | ⟨notIn, -, -, rfl, rfl⟩
  · rw [swapped.moved, if_pos isIn]
    exact ⟨rfl, rfl⟩
  · rw [swapped.moved, if_neg notIn]
    exact ⟨Nat.mul_comm _ _, Nat.mul_comm _ _⟩

theorem Swapped.small (swapped : Swapped pool tokenIn tokenOut amountIn next result reserveIn reserveOut)
    (small0 : pool.reserve0 < 2 ^ 112) (small1 : pool.reserve1 < 2 ^ 112) :
    reserveIn < 2 ^ 112 ∧ reserveOut < 2 ^ 112 := by
  rcases reservesFor_cases swapped.before with ⟨-, -, rfl, rfl⟩ | ⟨-, -, -, rfl, rfl⟩
  · exact ⟨small0, small1⟩
  · exact ⟨small1, small0⟩

theorem Swapped.positive_after (swapped : Swapped pool tokenIn tokenOut amountIn next result reserveIn reserveOut) :
    0 < result.newReserveIn ∧ 0 < result.newReserveOut := by
  have top : 0 < u256Max := by decide
  have := swapped.positive
  have := swapped.within
  rw [swapped.newReserves.1, swapped.newReserves.2]
  exact ⟨Nat.lt_min.mpr ⟨by omega, top⟩, by omega⟩

/-- A swap on the pair's reserves is sound in both directions, for every fee and every input. -/
theorem applySwapExactIn_sound (small0 : pool.reserve0 < 2 ^ 112) (small1 : pool.reserve1 < 2 ^ 112)
    (swap : pool.applySwapExactIn tokenIn tokenOut amountIn = some (next, result)) :
    (∃ reserveIn reserveOut, pool.reservesFor tokenIn tokenOut = some (reserveIn, reserveOut) ∧
        0 < result.amountOut ∧ result.amountOut < reserveOut) ∧
      pool.reserve0 * pool.reserve1 ≤ next.reserve0 * next.reserve1 ∧
      (0 < next.reserve0 ∧ 0 < next.reserve1) ∧
      (next.pair = pool.pair ∧ next.token0 = pool.token0 ∧ next.token1 = pool.token1 ∧ next.feeBps = pool.feeBps) ∧
      next.reservesFor tokenIn tokenOut = some (result.newReserveIn, result.newReserveOut) ∧
      (pool.token0 ≠ pool.token1 → next.reserve0 < 2 ^ 112 → next.reserve1 < 2 ^ 112 → ∀ last back,
        next.applySwapExactIn tokenOut tokenIn result.amountOut = some (last, back) → back.amountOut ≤ amountIn) := by
  obtain ⟨reserveIn, reserveOut, swapped⟩ := applySwapExactIn_spec swap
  obtain ⟨smallIn, smallOut⟩ := swapped.small small0 small1
  have grown := product_mono_of_quote smallIn smallOut swapped.quoted swapped.within
  rw [← swapped.newReserves.1, ← swapped.newReserves.2, ← swapped.products.1, ← swapped.products.2] at grown
  have positive : 0 < next.reserve0 * next.reserve1 := by
    rw [swapped.products.2]
    exact Nat.mul_pos swapped.positive_after.1 swapped.positive_after.2
  refine ⟨⟨reserveIn, reserveOut, swapped.before, swapped.positive.2.2, swapped.within⟩, grown,
    ⟨Nat.pos_of_mul_pos_right positive, Nat.pos_of_mul_pos_left positive⟩, swapped.kept, swapped.after, ?_⟩
  intro distinct nextSmall0 nextSmall1 last back turn
  obtain ⟨backIn, backOut, returned⟩ := applySwapExactIn_spec turn
  have sides := (swapped.back distinct).symm.trans returned.before
  obtain ⟨rfl, rfl⟩ := Prod.mk.inj (Option.some.inj sides)
  have quoted := returned.quoted
  have smallNext := (returned.small nextSmall0 nextSmall1).2
  have within := returned.within
  rw [swapped.kept.2.2.2, swapped.newReserves.1, swapped.newReserves.2] at quoted
  rw [swapped.newReserves.1] at smallNext within
  exact round_trip_of_quotes smallIn smallOut swapped.quoted swapped.within smallNext quoted within

/-- A deep pool of a token and USDC, as on the main network. -/
def samplePair : V2PoolState where
  pair := 1
  token0 := 2
  token1 := 3
  reserve0 := 50000000000000
  reserve1 := 20000000000000000000000
  feeBps := 30

theorem applySwapExactIn_sound_samplePair :
    ∃ next result, samplePair.applySwapExactIn 3 2 1000000000000000000 = some (next, result) ∧
      samplePair.reserve0 * samplePair.reserve1 ≤ next.reserve0 * next.reserve1 ∧
      next.reservesFor 3 2 = some (result.newReserveIn, result.newReserveOut) ∧
      ∃ last back, next.applySwapExactIn 2 3 result.amountOut = some (last, back) ∧
        back.amountOut ≤ 1000000000000000000 := by
  obtain ⟨-, grown, -, -, sides, back⟩ := @applySwapExactIn_sound samplePair _ 3 2 1000000000000000000 _
    (by decide) (by decide) rfl
  exact ⟨_, _, rfl, grown, sides, _, _, rfl, back (by decide) (by decide) (by decide) _ _ rfl⟩

/-- A pool that names one token twice takes the way back for a second sale in the same direction,
and pays on it. -/
def twinPair : V2PoolState where
  pair := 1
  token0 := 2
  token1 := 2
  reserve0 := 1
  reserve1 := 1000
  feeBps := 30

theorem round_trip_gains_in_twinPair :
    ∃ next result last back, twinPair.applySwapExactIn 2 2 1 = some (next, result) ∧
      next.reserve0 < 2 ^ 112 ∧ next.reserve1 < 2 ^ 112 ∧
      next.applySwapExactIn 2 2 result.amountOut = some (last, back) ∧ ¬ back.amountOut ≤ 1 :=
  ⟨_, _, _, _, rfl, by decide, by decide, rfl, by decide⟩

end V2PoolState

end ArbitrageRuntime
