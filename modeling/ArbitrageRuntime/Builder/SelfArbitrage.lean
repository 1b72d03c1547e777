import ArbitrageRuntime.Builder.BuildV2
import Mathlib.Tactic.Ring
import Mathlib.Tactic.NormNum

namespace ArbitrageRuntime

/-- A pair as its factory deploys it: two distinct tokens, reserves that fit the pair's own 112-bit
words, and the fee the runtime assumes. -/
structure LendingPair extends V2PoolState where
  distinct : token0 ≠ token1
  positive0 : 0 < reserve0
  positive1 : 0 < reserve1
  bounded0 : reserve0 < 2 ^ 112
  bounded1 : reserve1 < 2 ^ 112
  fee : feeBps = 30

/-- A sale of the borrowed amount at 30 basis points, without saturation of the denominator. -/
theorem amountOutExactIn_eq {borrowed reserveIn reserveOut : Nat} (sold : 0 < borrowed) (smallSale : borrowed < 2 ^ 112)
    (nonzeroIn : 0 < reserveIn) (smallIn : reserveIn < 2 ^ 112) (nonzeroOut : 0 < reserveOut) :
    amountOutExactIn borrowed reserveIn reserveOut 30 =
      some (min (borrowed * 9970 * reserveOut) u256Max / (reserveIn * 10000 + borrowed * 9970)) := by
  have top : u256Max = 2 ^ 256 - 1 := rfl
  have withFee : u256Mul borrowed (10000 - 30) = borrowed * 9970 := Saturating.mul_eq (by omega)
  have scaled : u256Mul reserveIn 10000 = reserveIn * 10000 := Saturating.mul_eq (by omega)
  have denominator : u256Add (reserveIn * 10000) (borrowed * 9970) = reserveIn * 10000 + borrowed * 9970 :=
    Saturating.add_eq (by omega)
  have guard : ¬ (borrowed = 0 ∨ reserveIn = 0 ∨ reserveOut = 0 ∨ 10000 ≤ 30) := by omega
  have nonzero : ¬ reserveIn * 10000 + borrowed * 9970 = 0 := by omega
  rw [amountOutExactIn, if_neg guard]
  simp only [withFee, scaled, denominator, if_neg nonzero]
  rfl

/-- What the pair pays for the borrowed tokens is below what it asks for lending them, also when the
sale is quoted on reserves from before the victim, which hold fewer profit tokens and more
borrowed tokens. The saturated numerators are ordered like the exact ones. -/
theorem sale_lt_repayment {borrowed borrowReserve profitReserve quoteIn quoteOut : Nat} (lent : 0 < borrowed)
    (enough : borrowed < borrowReserve) (deeper : borrowReserve ≤ quoteIn) (shallower : quoteOut ≤ profitReserve) :
    min (borrowed * 9970 * quoteOut) u256Max / (quoteIn * 10000 + borrowed * 9970) <
      min (profitReserve * borrowed * 1000) u256Max / ((borrowReserve - borrowed) * 997) + 1 := by
  have positive : 0 < (borrowReserve - borrowed) * 997 := by omega
  have narrower : (borrowReserve - borrowed) * 997 ≤ quoteIn * 10000 + borrowed * 9970 := by omega
  refine Nat.lt_succ_of_le (Rounding.div_le_div_of_cross positive ?_)
  rcases Nat.le_total (profitReserve * borrowed * 1000) u256Max with fits | above
  · rw [Nat.min_eq_left fits]
    have feeSquared : 9970 * ((borrowReserve - borrowed) * 997) ≤ 1000 * (quoteIn * 10000 + borrowed * 9970) := by
      omega
    calc min (borrowed * 9970 * quoteOut) u256Max * ((borrowReserve - borrowed) * 997)
        ≤ borrowed * 9970 * quoteOut * ((borrowReserve - borrowed) * 997) :=
          Nat.mul_le_mul_right _ (Nat.min_le_left _ _)
      _ = borrowed * quoteOut * (9970 * ((borrowReserve - borrowed) * 997)) := by ring
      _ ≤ borrowed * profitReserve * (1000 * (quoteIn * 10000 + borrowed * 9970)) :=
          Nat.mul_le_mul (Nat.mul_le_mul_left borrowed shallower) feeSquared
      _ = profitReserve * borrowed * 1000 * (quoteIn * 10000 + borrowed * 9970) := by ring
  · rw [Nat.min_eq_right above]
    exact Nat.mul_le_mul (Nat.min_le_right _ _) narrower

/-- What an accepted victim swap does to the reserves, seen from the reverse direction. -/
theorem LendingPair.reserves_after {pair : LendingPair} {tokenIn tokenOut : Address} {amountIn : Nat}
    {after : V2PoolState} {result : V2SwapResult}
    (accepted : pair.toV2PoolState.applySwapExactIn tokenIn tokenOut amountIn = some (after, result)) :
    ∃ borrowBefore profitBefore borrowReserve profitReserve,
      pair.toV2PoolState.reservesFor tokenOut tokenIn = some (borrowBefore, profitBefore) ∧
      after.reservesFor tokenOut tokenIn = some (borrowReserve, profitReserve) ∧
      0 < profitBefore ∧ profitBefore ≤ profitReserve ∧ 0 < borrowReserve ∧ borrowReserve ≤ borrowBefore ∧
      borrowBefore < 2 ^ 112 ∧ after.feeBps = 30 := by
  obtain ⟨⟨reserveIn, reserveOut⟩, reserves, accepted⟩ := Option.bind_eq_some_iff.mp accepted
  dsimp only at accepted
  split at accepted
  · exact absurd accepted (by simp)
  · obtain ⟨amountOut, _, accepted⟩ := Option.bind_eq_some_iff.mp accepted
    split at accepted
    · exact absurd accepted (by simp)
    · rename_i delivered
      cases Option.some.inj accepted
      have paid0 : pair.reserve0 ≤ u256Add pair.reserve0 amountIn :=
        Saturating.le_add_left (pair.bounded0.le.trans (by norm_num [u256Max]))
      have paid1 : pair.reserve1 ≤ u256Add pair.reserve1 amountIn :=
        Saturating.le_add_left (pair.bounded1.le.trans (by norm_num [u256Max]))
      have distinct := pair.distinct
      have positive0 := pair.positive0
      have positive1 := pair.positive1
      have bounded0 := pair.bounded0
      have bounded1 := pair.bounded1
      unfold V2PoolState.reservesFor at reserves
      split at reserves
      · rename_i direction
        obtain ⟨rfl, rfl⟩ := direction
        cases Option.some.inj reserves
        refine ⟨pair.reserve1, pair.reserve0, pair.reserve1 - amountOut, u256Add pair.reserve0 amountIn, ?_, ?_,
          positive0, paid0, by omega, by omega, bounded1, ?_⟩
        · simp [V2PoolState.reservesFor, distinct]
        · simp [V2PoolState.reservesFor, distinct]
        · simp [pair.fee]
      · split at reserves
        · rename_i direction
          obtain ⟨rfl, rfl⟩ := direction
          cases Option.some.inj reserves
          refine ⟨pair.reserve0, pair.reserve1, pair.reserve0 - amountOut, u256Add pair.reserve1 amountIn, ?_, ?_,
            positive1, paid1, by omega, by omega, bounded0, ?_⟩
          · simp [V2PoolState.reservesFor]
          · simp [V2PoolState.reservesFor, distinct.symm]
          · simp [pair.fee, distinct.symm]
        · exact absurd reserves (by simp)

theorem quoteV2RouteExactIn_direct {quoted : V2PoolState} {tokenIn tokenOut : Address} {reserveIn reserveOut : Nat}
    (reserves : quoted.reservesFor tokenOut tokenIn = some (reserveIn, reserveOut)) (fee : quoted.feeBps = 30)
    (amount fallbackFeeBps : Nat) :
    quoteV2RouteExactIn amount [tokenOut, tokenIn] [quoted] fallbackFeeBps =
      amountOutExactIn amount reserveIn reserveOut 30 := by
  have lengths : ¬ ([tokenOut, tokenIn].length < 2 ∨ [quoted].length + 1 ≠ [tokenOut, tokenIn].length) := by simp
  rw [quoteV2RouteExactIn, if_neg lengths]
  have ownFee : (if (30 : Nat) = 0 then fallbackFeeBps else 30) = 30 := rfl
  simp only [quoteHops, reserves, fee, ownFee, Option.bind_eq_bind, Option.bind_some, Option.bind_fun_some]

/-- The direct route back through the pair that lends, on the reserves from before or after the victim. -/
theorem LendingPair.direct_sale_lt_repayment {pair : LendingPair} {tokenIn tokenOut : Address} {amountIn : Nat}
    {after : V2PoolState} {result : V2SwapResult} {borrowReserve profitReserve : Nat}
    (accepted : pair.toV2PoolState.applySwapExactIn tokenIn tokenOut amountIn = some (after, result))
    (reserves : after.reservesFor tokenOut tokenIn = some (borrowReserve, profitReserve))
    {quoted : V2PoolState} (route : quoted = pair.toV2PoolState ∨ quoted = after) {borrowed : Nat}
    (lent : 0 < borrowed) (enough : borrowed < borrowReserve) (fallbackFeeBps : Nat) :
    ∃ amountOut repayment,
      quoteV2RouteExactIn borrowed [tokenOut, tokenIn] [quoted] fallbackFeeBps = some amountOut ∧
      v2RepaymentAmountInProfitToken borrowReserve profitReserve borrowed = some repayment ∧
      amountOut < repayment := by
  obtain ⟨borrowBefore, profitBefore, borrowAfter, profitAfter, before, afterwards, profitPositive, grown, remains,
    shrunk, small, fee⟩ := LendingPair.reserves_after accepted
  cases Option.some.inj (afterwards.symm.trans reserves)
  have repaid := v2RepaymentAmountInProfitToken_eq lent enough (by omega) (profitPositive.trans_le grown)
  have smallSale : borrowed < 2 ^ 112 := by omega
  rcases route with rfl | rfl
  · refine ⟨_, _, ?_, repaid, sale_lt_repayment lent enough shrunk grown⟩
    rw [quoteV2RouteExactIn_direct before pair.fee]
    exact amountOutExactIn_eq lent smallSale (by omega) small profitPositive
  · refine ⟨_, _, ?_, repaid, sale_lt_repayment lent enough le_rfl le_rfl⟩
    rw [quoteV2RouteExactIn_direct afterwards fee]
    exact amountOutExactIn_eq lent smallSale (by omega) (by omega) (by omega)

/-- A size whose sale does not cover the repayment is skipped: its gross profit is zero wei, if it
has a native value at all. -/
theorem V2SizingInput.candidate_skips {config : Config} {sizing : V2SizingInput} {bps : Nat}
    (unprofitable : ∀ borrowed, 0 < borrowed → borrowed < sizing.borrowReserve → ∃ amountOut repayment,
      quoteV2RouteExactIn borrowed sizing.routePath sizing.routePools sizing.feeBps = some amountOut ∧
      v2RepaymentAmountInProfitToken sizing.borrowReserve sizing.profitReserve borrowed = some repayment ∧
      amountOut < repayment) : sizing.candidate config bps = .ok none := by
  unfold candidate
  dsimp only
  split
  · rfl
  · rename_i sized
    rw [not_or, not_le] at sized
    obtain ⟨amountOut, repayment, quoted, repaid, below⟩ :=
      unprofitable (u256Mul sizing.capitalCap bps / 10000) (Nat.pos_of_ne_zero sized.1) sized.2
    have nothing : amountOut - repayment = 0 := by omega
    simp only [quoted, repaid, nothing]
    cases known : tokenMetadata config sizing.profitToken with
    | none => simp [tokenAmountToNativeWei, tokenAmountToNative, known]
    | some metadata =>
      have worthless : tokenAmountToNativeWei config sizing.profitToken 0 = some 0 := by
        rw [tokenAmountToNativeWei_eq known]
        exact Rounding.floorWithin_of_bounds (Nat.zero_le _) (by simp) (by simp)
      have netZero : sizing.netOf 0 = 0 := by
        unfold netOf
        split
        · rfl
        · exact Nat.zero_sub _
      simp only [worthless, netZero, if_true]

theorem LendingPair.size_candidates_empty {pair : LendingPair} {tokenIn tokenOut : Address} {amountIn : Nat}
    {after : V2PoolState} {result : V2SwapResult} {sizing : V2SizingInput}
    (accepted : pair.toV2PoolState.applySwapExactIn tokenIn tokenOut amountIn = some (after, result))
    (reserves : after.reservesFor tokenOut tokenIn = some (sizing.borrowReserve, sizing.profitReserve))
    (path : sizing.routePath = [tokenOut, tokenIn])
    (route : sizing.routePools = [pair.toV2PoolState] ∨ sizing.routePools = [after])
    (config : Config) (fractionsBps : List Nat) :
    feeExtractionV2SizeCandidates config sizing fractionsBps = .ok [] := by
  unfold feeExtractionV2SizeCandidates
  split
  · rfl
  · refine Collect.collect_skip fun bps _ => V2SizingInput.candidate_skips ?_
    intro borrowed lent enough
    rw [path]
    rcases route with before | afterwards
    · rw [before]
      exact pair.direct_sale_lt_repayment accepted reserves (.inl rfl) lent enough sizing.feeBps
    · rw [afterwards]
      exact pair.direct_sale_lt_repayment accepted reserves (.inr rfl) lent enough sizing.feeBps

/-- The input asks for the direct route back through the pair the victim used, quoted on its
reserves from before the victim, or on the simulated ones when no pools are given. -/
def DirectRoute (input : FeeExtractionBuildInput) (pair : V2PoolState) : Prop :=
  input.stateBefore = .uniswapV2 pair ∧
    (input.v2SwapPath = none ∨ input.v2SwapPath = some [input.tokenOut, input.tokenIn]) ∧
    (input.v2SwapPools = [] ∨ input.v2SwapPools = [pair] ∨
      ∃ after result, pair.applySwapExactIn input.tokenIn input.tokenOut input.victimAmountIn =
        some (after, result) ∧ input.v2SwapPools = [after])

theorem LendingPair.build_refused {pair : LendingPair} {config : Config} {input : FeeExtractionBuildInput}
    (direct : DirectRoute input pair.toV2PoolState) (payload : ExecutionPayload) :
    buildFeeExtractionV2 config input ≠ .ok payload := by
  intro built
  obtain ⟨prepared, candidates, selected, run, sized, chosen, _⟩ := buildFeeExtractionV2_eq_ok.mp built
  obtain ⟨before, result, state, accepted, _, _, reserves, _⟩ := prepareV2_eq_ok.mp run
  obtain ⟨sameState, path, pools⟩ := direct
  cases AmmState.uniswapV2.inj (state.symm.trans sameState)
  have directPath : (prepared.sizing config input).routePath = [input.tokenOut, input.tokenIn] := by
    rcases path with absent | given
    · simp [V2Prepared.sizing, swapPathV2, absent]
    · simp [V2Prepared.sizing, swapPathV2, given]
  have directPools : (prepared.sizing config input).routePools = [pair.toV2PoolState] ∨
      (prepared.sizing config input).routePools = [prepared.poolAfter] := by
    rcases pools with none | given | ⟨after, again, sameSwap, given⟩
    · exact .inr (by simp [V2Prepared.sizing, routePoolsV2, none])
    · exact .inl (by simp [V2Prepared.sizing, routePoolsV2, given])
    · cases Option.some.inj (sameSwap.symm.trans accepted)
      exact .inr (by simp [V2Prepared.sizing, routePoolsV2, given])
  have empty := pair.size_candidates_empty accepted reserves directPath directPools config (sizingFractions config)
  cases Except.ok.inj (sized.symm.trans empty)
  exact absurd (selectV2_spec chosen).1 (by simp)

end ArbitrageRuntime
