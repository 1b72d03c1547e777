import ArbitrageRuntime.Amm.ConstantLiquidity
import ArbitrageRuntime.Builder.BuildV2
import ArbitrageRuntime.Builder.BuildV3
import ArbitrageRuntime.Executor.PoolRun

namespace ArbitrageRuntime

open Interaction Interaction.Prog Executor

variable {Data : Type} (d : Deployment Data)

/-- A step as the builder encodes it. -/
def encodedStep (step : V3SwapStep) : EncodedV3SwapStep := ⟨step.router, step.path, step.amountIn, step.minOut⟩

/-- An accepted V3 payload at work: its start call reaches the pool in the state the builder simulated, the
pool lends and charges at least what the loan is worth to it before fees, and the callback trades and
repays. -/
structure FlashRun (input : FeeExtractionBuildInput) (payload : ExecutionPayload) where
  ctx : V3CallbackContext
  metadata : EdgeMetadata
  pool : V3PoolState
  victimImpactBps : Nat
  start : Message
  callback : Message
  zeroForOne : Bool
  amountSpecified : Int
  sqrtPriceLimitX96 : Nat
  charge : Nat
  initial : Storage Data
  opened : Storage Data
  before : Balances
  preProfitBalance : Nat
  repaid : Storage Data
  after : Balances
  called : payload.calldata = encodeStartV3FlashSwap ctx.pool ctx.borrowToken ctx.borrowAmount ctx.feeTier
    ctx.minProfit ctx.profitToken ctx.profitRecipient (ctx.steps.map encodedStep)
  sampled : payload.edgeMetadata = some metadata
  simulated : simulateVictimExactIn input.stateBefore input.tokenIn input.tokenOut input.victimAmountIn =
    some ⟨.uniswapV3 pool, victimImpactBps⟩
  starts : (startV3FlashSwap d start ctx.pool ctx.borrowToken ctx.borrowAmount ctx.feeTier ctx.minProfit
    ctx.profitToken ctx.profitRecipient ctx.steps).Reaches (PoolAnswers d pool ctx metadata.amountOutWei)
    (.swapV3 ctx.pool d.self zeroForOne amountSpecified sqrtPriceLimitX96 (d.encodeV3 ctx)) initial before opened before
  guards : v3Guards d opened callback (d.encodeV3 ctx) = .ok ctx
  delivers : Delivers zeroForOne pool.liquidity pool.sqrtPrice ctx.borrowAmount
  charged : exactOutCost zeroForOne pool.liquidity pool.sqrtPrice ctx.borrowAmount ≤ charge
  trades : (tradeV3 d callback ctx (amount0Delta zeroForOne ctx.borrowAmount charge)
    (amount1Delta zeroForOne ctx.borrowAmount charge)).Yields (PoolAnswers d pool ctx metadata.amountOutWei) opened
    (lend before ctx.borrowToken ctx.borrowAmount) preProfitBalance repaid after

variable {d}

/-- The start call that carries the payload's arguments has the payload's one step. -/
theorem encodeStartV3FlashSwap_inj {pool borrowToken profitToken profitRecipient : Address}
    {borrowAmount feeTier minProfit : Nat} {step : EncodedV3SwapStep} {ctx : V3CallbackContext}
    (same : encodeStartV3FlashSwap pool borrowToken borrowAmount feeTier minProfit profitToken profitRecipient [step] =
      encodeStartV3FlashSwap ctx.pool ctx.borrowToken ctx.borrowAmount ctx.feeTier ctx.minProfit ctx.profitToken
        ctx.profitRecipient (ctx.steps.map encodedStep)) :
    ctx.borrowToken = borrowToken ∧ ctx.borrowAmount = borrowAmount ∧ ctx.profitToken = profitToken ∧
      ∃ only, ctx.steps = [only] := by
  simp only [encodeStartV3FlashSwap, Calldata.mk.injEq, List.cons.injEq, Abi.Token.address.injEq, Abi.Token.uint.injEq,
    Abi.Token.array.injEq, true_and, and_true] at same
  obtain ⟨_, borrow, amount, _, _, profit, _, steps⟩ := same
  refine ⟨borrow.symm, amount.symm, profit.symm, ?_⟩
  have length := congrArg List.length steps
  simp only [List.length_map, List.length_cons, List.length_nil] at length
  exact List.length_eq_one_iff.mp length.symm

/-- The pool takes back at least what the router pays for the loan: no accepted V3 payload earns anything
on the pool it was simulated on. -/
theorem v3FlashRun_never_profits {config : Config} {input : FeeExtractionBuildInput} {payload : ExecutionPayload}
    (built : buildFeeExtractionV3 config input = .ok payload) (distinct : input.tokenIn ≠ input.tokenOut)
    (run : FlashRun d input payload) : run.after input.tokenIn ≤ run.before input.tokenIn := by
  obtain ⟨prepared, selected, repaymentNative, minProfitWei, executor, bps, _, prepares, sized, _, _, _, _, rfl⟩ :=
    buildFeeExtractionV3_spec built
  obtain ⟨_, _, ⟨next, result, sale, paid⟩, _⟩ := normalizedV3Candidate_spec sized
  obtain ⟨victimPool, victim, _, state, swapped, _⟩ := prepareV3_eq_ok.mp prepares
  have simulatedPool : run.pool = prepared.poolAfter := by
    have simulated := run.simulated
    rw [state] at simulated
    obtain ⟨⟨after, outcome⟩, again, same⟩ := Option.bind_eq_some_iff.mp simulated
    cases Option.some.inj (swapped.symm.trans again)
    simp only [Option.some.injEq, PostSwapSimulation.mk.injEq, AmmState.uniswapV3.injEq] at same
    exact same.1.symm
  have simulatedSale : run.metadata.amountOutWei = result.amountOut := by
    rw [← Option.some.inj run.sampled]
    exact paid.symm
  obtain ⟨borrow, amount, profit, step, single⟩ := encodeStartV3FlashSwap_inj run.called
  obtain ⟨first, second, _, _, _, _, ⟨firstToken, _, _⟩, ⟨secondToken, _, _⟩, _, _, _, direction, _⟩ :=
    startV3FlashSwap_asks run.starts
  rw [borrow, secondToken, simulatedPool] at direction
  have delivers := run.delivers
  have charged := run.charged
  rw [simulatedPool, amount] at delivers charged
  have covered : result.amountOut ≤ run.charge := sale_le_charge sale distinct direction delivers charged
  obtain ⟨_, _, tokens, _⟩ := V3PoolState.simulateExactIn_spec sale
  have owed : run.ctx.profitToken = if run.zeroForOne then run.pool.token0 else run.pool.token1 := by
    rw [profit, simulatedPool, direction]
    rcases tokens with ⟨sold, bought⟩ | ⟨sold, bought⟩
    · have other : prepared.poolAfter.token0 ≠ prepared.poolAfter.token1 := by
        rw [← sold, ← bought]
        exact distinct.symm
      simp [sold, bought, other]
    · simp [sold, bought]
  have balance := tradeV3_profitBalance single owed run.trades
  rw [profit, simulatedSale] at balance
  omega

section Mispriced

/-- The pool trades the two tokens one for one, and the configuration values the first at twice the second. -/
def mispricedConfig : Config :=
  { testConfig with
    monitoredTokens :=
      [{ address := 1, decimals := 18, priceEth := 2 }, { address := 2, decimals := 18, priceEth := 1 }] }

/-- Token 2, the fee and token 1. -/
def directPath : Bytes := List.replicate 19 0 ++ [2] ++ [0, 11, 184] ++ List.replicate 19 0 ++ [1]

def mispricedInput : FeeExtractionBuildInput :=
  { secondPairInput with
    stateBefore := .uniswapV3
      { pool := 30
        token0 := 1
        token1 := 2
        sqrtPriceX96 := 2 ^ 96
        liquidity := 10 ^ 24
        currentTick := 0
        feeBps := 30
        initializedTicks := [⟨-100, 1⟩] }
    routeKind := .uniswapV3 3000 directPath
    v2SwapPath := none
    v2SwapPools := [] }

def poolAfterVictim : V3PoolState where
  pool := 30
  token0 := 1
  token1 := 2
  sqrtPriceX96 := 79228083523865064300074843161
  liquidity := 10 ^ 24
  currentTick := -1
  feeBps := 30
  initializedTicks := [⟨-100, 1⟩]

def mispricedSale : Nat := 14955029596632175

/-- The fee-free price of the loan, rounded up. -/
def mispricedCharge : Nat := 15000030135015587

def mispricedContext : V3CallbackContext where
  executionId := 15 * 10 ^ 15
  pool := 30
  borrowToken := 2
  borrowAmount := 15 * 10 ^ 15
  feeTier := 3000
  minProfit := 1
  profitToken := 1
  profitRecipient := 12
  steps := [⟨40, directPath, 15 * 10 ^ 15, minAmountOut mispricedConfig mispricedSale⟩]

theorem mispriced_simulated : simulateVictimExactIn mispricedInput.stateBefore 1 2 (10 ^ 18) =
    some ⟨.uniswapV3 poolAfterVictim, 0⟩ := by decide +kernel

theorem mispriced_builds : ∃ payload, buildFeeExtractionV3 mispricedConfig mispricedInput = .ok payload ∧
    payload.calldata = encodeStartV3FlashSwap 30 2 (15 * 10 ^ 15) 3000 1 1 12 (mispricedContext.steps.map encodedStep) ∧
    ∃ metadata, payload.edgeMetadata = some metadata ∧ metadata.amountOutWei = mispricedSale := by
  have accepted : ∃ payload, buildFeeExtractionV3 mispricedConfig mispricedInput = .ok payload ∧
      (match payload.edgeMetadata with
        | some metadata => decide (metadata.amountInWei = 15 * 10 ^ 15 ∧ metadata.amountOutWei = mispricedSale)
        | none => false) = true := Collect.exists_of_holdsOf (by decide +kernel)
  obtain ⟨payload, built, amounts⟩ := accepted
  obtain ⟨prepared, selected, repaymentNative, minProfitWei, executor, bps, _, prepares, _, _, minimum, _, _, rfl⟩ :=
    buildFeeExtractionV3_spec built
  obtain ⟨amountIn, amountOut⟩ := of_decide_eq_true amounts
  obtain ⟨_, _, route, _⟩ := prepareV3_eq_ok.mp prepares
  have kind : AmmRouteKind.uniswapV3 3000 directPath = .uniswapV3 prepared.feeTier prepared.path := route
  obtain ⟨tier, path⟩ := AmmRouteKind.uniswapV3.inj kind
  cases Except.ok.inj minimum
  refine ⟨_, built, ?_, _, rfl, amountOut⟩
  change selected.candidate.amountIn = 15 * 10 ^ 15 at amountIn
  change selected.candidate.amountOut = mispricedSale at amountOut
  change encodeStartV3FlashSwap 30 2 selected.candidate.amountIn prepared.feeTier 1 1 12
    [⟨40, prepared.path, selected.candidate.amountIn, minAmountOut mispricedConfig selected.candidate.amountOut⟩] = _
  rw [amountIn, amountOut, ← tier, ← path]
  rfl

/-- An owner who allows everything, before and after the start call. -/
def mispricedInitial : Storage PlainData :=
  { deployed 1 with
    allowedV3Pools := fun _ => true
    allowedRouters := fun _ => true
    allowedBorrowTokens := fun _ => true
    allowedFeeTiers := fun _ => true }

def mispricedOpened : Storage PlainData :=
  { mispricedInitial with
    executionInProgress := true
    activeExecutionId := 15 * 10 ^ 15
    opening := some (.v3 mispricedContext (.inr mispricedContext) fun _ => true) }

theorem mispriced_starts : (startV3FlashSwap plain ⟨1, 0, 0⟩ 30 2 (15 * 10 ^ 15) 3000 1 1 12
    mispricedContext.steps).Reaches (PoolAnswers plain poolAfterVictim mispricedContext mispricedSale)
    (.swapV3 30 plain.self true (-(15 * 10 ^ 15)) minSqrtRatioPlusOne (plain.encodeV3 mispricedContext))
    mispricedInitial (fun _ => 10 ^ 18) mispricedOpened (fun _ => 10 ^ 18) := by
  refine .inr ⟨(1 : Address), mispricedInitial, _, ⟨rfl, rfl, rfl⟩, ?_⟩
  refine .inr ⟨(2 : Address), mispricedInitial, _, ⟨rfl, rfl, rfl⟩, ?_⟩
  exact .inl ⟨rfl, rfl, rfl⟩

/-- The balances while the executor holds the loan, and once the router has sold it. -/
def mispricedLent : Balances := lend (fun _ => 10 ^ 18) 2 (15 * 10 ^ 15)

def mispricedSold : Balances := lend (spend mispricedLent 2 (15 * 10 ^ 15)) 1 mispricedSale

theorem mispriced_step : (executeV3Step plain ⟨30, 0, 0⟩
    ⟨40, directPath, 15 * 10 ^ 15, minAmountOut mispricedConfig mispricedSale⟩ 0).Yields
    (PoolAnswers plain poolAfterVictim mispricedContext mispricedSale) mispricedOpened mispricedLent mispricedSale
    mispricedOpened mispricedSold := by
  have tokenIn : v3PathTokenIn directPath = .ok 2 := by decide +kernel
  have tokenOut : v3PathTokenOut directPath = .ok 1 := by decide +kernel
  have approved : (forceApprove plain 2 40 (15 * 10 ^ 15)).Yields
      (PoolAnswers plain poolAfterVictim mispricedContext mispricedSale) mispricedOpened mispricedLent ()
      mispricedOpened mispricedLent :=
    yields_bind.mpr ⟨u256Max, _, _, ⟨u256Max, _, _, ⟨rfl, rfl⟩, rfl, rfl, rfl⟩, rfl, rfl, rfl⟩
  have checked : (checkStepOutput plain 1 (10 ^ 18) mispricedSale (minAmountOut mispricedConfig mispricedSale) 0).Yields
      (PoolAnswers plain poolAfterVictim mispricedContext mispricedSale) mispricedOpened mispricedSold mispricedSale
      mispricedOpened mispricedSold := by
    refine yields_bind.mpr ⟨10 ^ 18 + mispricedSale, _, _,
      ⟨10 ^ 18 + mispricedSale, _, _, ⟨fun _ => by decide, by decide, rfl, rfl⟩, rfl, rfl, rfl⟩, ?_⟩
    refine yields_bind.mpr ⟨(), _, _, yields_refuse.mpr ⟨by decide, rfl, rfl⟩, ?_⟩
    exact yields_bind.mpr ⟨(), _, _, yields_refuse.mpr ⟨by decide +kernel, rfl, rfl⟩, by decide, rfl, rfl⟩
  unfold executeV3Step
  rw [tokenIn, tokenOut]
  refine yields_bind.mpr ⟨2, _, _, ⟨rfl, rfl, rfl⟩, yields_bind.mpr ⟨1, _, _, ⟨rfl, rfl, rfl⟩, ?_⟩⟩
  refine yields_bind.mpr ⟨15 * 10 ^ 15, _, _, ⟨rfl, rfl, rfl⟩, ?_⟩
  refine yields_bind.mpr ⟨(), _, _, yields_refuse.mpr ⟨by decide, rfl, rfl⟩, ?_⟩
  refine yields_bind.mpr ⟨(), _, _, approved, ?_⟩
  refine yields_bind.mpr ⟨10 ^ 18, _, _, ⟨(10 ^ 18 : Nat), _, _, ⟨fun _ => by decide, by decide, rfl, rfl⟩,
    rfl, rfl, rfl⟩, ?_⟩
  exact yields_bind.mpr ⟨mispricedSale, _, _, ⟨mispricedSale, _, _, ⟨rfl, by decide, rfl, rfl⟩, rfl, rfl, rfl⟩, checked⟩

theorem mispriced_trades : (tradeV3 plain ⟨30, 0, 0⟩ mispricedContext (amount0Delta true (15 * 10 ^ 15) mispricedCharge)
    (amount1Delta true (15 * 10 ^ 15) mispricedCharge)).Yields
    (PoolAnswers plain poolAfterVictim mispricedContext mispricedSale) mispricedOpened mispricedLent (10 ^ 18)
    mispricedOpened (spend mispricedSold 1 mispricedCharge) := by
  have paid : (payDelta 1 30 (mispricedCharge : Int)).Yields
      (PoolAnswers plain poolAfterVictim mispricedContext mispricedSale) mispricedOpened mispricedSold mispricedCharge
      mispricedOpened (spend mispricedSold 1 mispricedCharge) := by
    have transferred : (transferToken 1 30 mispricedCharge).Yields
        (PoolAnswers plain poolAfterVictim mispricedContext mispricedSale) mispricedOpened mispricedSold ()
        mispricedOpened (spend mispricedSold 1 mispricedCharge) :=
      yields_bind.mpr ⟨true, _, _, ⟨true, _, _, ⟨rfl, by decide, rfl, rfl⟩, rfl, rfl, rfl⟩,
        yields_refuse.mpr ⟨by decide, rfl, rfl⟩⟩
    exact yields_bind.mpr ⟨(), _, _, transferred, rfl, rfl, rfl⟩
  have settled : (settleV3PoolDebt mispricedContext (amount0Delta true (15 * 10 ^ 15) mispricedCharge)
      (amount1Delta true (15 * 10 ^ 15) mispricedCharge)).Yields
      (PoolAnswers plain poolAfterVictim mispricedContext mispricedSale) mispricedOpened mispricedSold mispricedCharge
      mispricedOpened (spend mispricedSold 1 mispricedCharge) := by
    refine yields_bind.mpr ⟨1, _, _, ⟨(1 : Address), _, _, ⟨rfl, rfl, rfl⟩, rfl, rfl, rfl⟩, ?_⟩
    refine yields_bind.mpr ⟨2, _, _, ⟨(2 : Address), _, _, ⟨rfl, rfl, rfl⟩, rfl, rfl, rfl⟩, ?_⟩
    exact yields_bind.mpr ⟨mispricedCharge, _, _, paid, yields_bind.mpr ⟨0, _, _, ⟨rfl, rfl, rfl⟩, rfl, rfl, rfl⟩⟩
  refine yields_bind.mpr ⟨10 ^ 18, _, _, ⟨(10 ^ 18 : Nat), _, _, ⟨fun _ => by decide, by decide, rfl, rfl⟩,
    rfl, rfl, rfl⟩, ?_⟩
  refine yields_bind.mpr ⟨(), _, _, yields_bind.mpr ⟨mispricedSale, _, _, mispriced_step, rfl, rfl, rfl⟩, ?_⟩
  exact yields_bind.mpr ⟨mispricedCharge, _, _, settled, rfl, rfl, rfl⟩

/-- The accepted payload runs through and loses 45000538383412 base units. -/
theorem exists_mispricedRun : ∃ payload, buildFeeExtractionV3 mispricedConfig mispricedInput = .ok payload ∧
    ∃ run : FlashRun plain mispricedInput payload, run.before 1 = 10 ^ 18 ∧
      run.after 1 = 10 ^ 18 - 45000538383412 := by
  obtain ⟨payload, built, called, metadata, sampled, sale⟩ := mispriced_builds
  have starts := mispriced_starts
  have trades := mispriced_trades
  rw [← sale] at starts trades
  have delivers : (mispricedContext.borrowAmount : ℚ) < poolAfterVictim.liquidity * poolAfterVictim.sqrtPrice := by
    decide +kernel
  have left : spend mispricedSold 1 mispricedCharge 1 = 10 ^ 18 - 45000538383412 := by decide
  exact ⟨payload, built, {
    ctx := mispricedContext
    metadata := metadata
    pool := poolAfterVictim
    victimImpactBps := 0
    start := ⟨1, 0, 0⟩
    callback := ⟨30, 0, 0⟩
    zeroForOne := true
    amountSpecified := -(15 * 10 ^ 15)
    sqrtPriceLimitX96 := minSqrtRatioPlusOne
    charge := mispricedCharge
    initial := mispricedInitial
    opened := mispricedOpened
    before := fun _ => 10 ^ 18
    preProfitBalance := 10 ^ 18
    repaid := mispricedOpened
    after := spend mispricedSold 1 mispricedCharge
    called := called
    sampled := sampled
    simulated := mispriced_simulated
    starts := starts
    guards := v3Guards_eq_ok.mpr ⟨rfl, rfl, rfl, rfl⟩
    delivers := delivers
    charged := by decide +kernel
    trades := trades }, rfl, left⟩

end Mispriced

theorem v3FlashRun_never_profits_mispriced : ∃ payload,
    buildFeeExtractionV3 mispricedConfig mispricedInput = .ok payload ∧
      ∃ run : FlashRun plain mispricedInput payload, run.after 1 ≤ run.before 1 := by
  obtain ⟨payload, built, run, _, _⟩ := exists_mispricedRun
  exact ⟨payload, built, run, v3FlashRun_never_profits built (by decide) run⟩

/-- The builder books a profit, and the run it books it for leaves the executor with less than it had. -/
theorem mispricedRun_loses :
    ¬ ∀ config input payload, buildFeeExtractionV3 config input = .ok payload →
      ∀ run : FlashRun plain input payload, run.before input.tokenIn < run.after input.tokenIn := by
  intro claim
  obtain ⟨payload, built, run, before, after⟩ := exists_mispricedRun
  have profit : run.before 1 < run.after 1 := claim _ _ payload built run
  rw [before, after] at profit
  exact absurd profit (by decide)

end ArbitrageRuntime
