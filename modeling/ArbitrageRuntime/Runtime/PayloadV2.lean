import ArbitrageRuntime.Builder.SelfArbitrage

namespace ArbitrageRuntime

structure CachedV2Pool where
  token0 : Address
  token1 : Address
  reserve0 : Nat
  reserve1 : Nat

/-- The part of a decoded victim swap that the V2 payload reads. -/
structure V2SwapSignal where
  path : List Address
  router : Address
  amountIn : Nat

structure ContextSignal where
  priorityScore : ℚ
  toxicityScore : ℚ

/-- What the node and the pool cache answer while one payload is built, and the reverse route search
of Scavenger mode. Deployed pairs hold two distinct tokens and 112-bit reserves. -/
structure V2Chain where
  routerFactory : Address → Option Address
  getPair : Address → Address → Address → Option Address
  getOrFetchV2 : Address → Option CachedV2Pool
  bestScavengerV2ReverseRoute : Option (List Address × List V2PoolState)
  deployed : ∀ pair pool, getOrFetchV2 pair = some pool →
    pool.token0 ≠ pool.token1 ∧ pool.reserve0 < 2 ^ 112 ∧ pool.reserve1 < 2 ^ 112

inductive V2PayloadStop
  | missingTokenIn
  | missingTokenOut
  | factoryUnavailable
  | pairLookupsFailed
  | pairNotFound
  | poolStateUnavailable (pair : Address)
  | poolTokenMismatch (pair : Address)
  | zeroReserves (pair : Address)
  | capitalNotParsed
  | build (stop : BuildStop)

def defaultV2Router (network : String) : Option Address :=
  if network = "polygon" then some 0xa5e0829caced8ffdd4de3c43696c57f7d7a678ff
  else if network = "bsc" ∨ network = "bnb" then some 0x10ed43c718714eb63d5aa57b78b54704e256024e
  else if network = "ethereum" then some 0x7a250d5630b4cf539739df2c5dacb4c659f2488d
  else none

def executionV2Router (config : Config) (fallback : Address) : Address :=
  (defaultV2Router config.network).getD fallback

def defaultV2Factories (network : String) : List Address :=
  if network = "polygon" then
    [0x5757371414417b8c6caad45baef941abc7d3ab32, 0xc35dadb65012ec5796536bd9864ed8773abc74c4]
  else if network = "bsc" ∨ network = "bnb" then
    [0xca143ce32fe78f1f7019d7d551a6402fc5350c73, 0xc35dadb65012ec5796536bd9864ed8773abc74c4]
  else if network = "ethereum" then
    [0x5c69bee701ef814a2b6a3edd4b1652cb9cc5aa6f, 0xc0aee478e3658e2610c5f7a4a2e1777ce9e4f2ac]
  else []

def pushUniqueAddress (addresses : List Address) (address : Address) : List Address :=
  if address ≠ 0 ∧ address ∉ addresses then addresses ++ [address] else addresses

def v2Factories (chain : V2Chain) (config : Config) (router : Address) : List Address :=
  ((chain.routerFactory router).toList ++ config.mev.uniswapV2Factory.toList ++
    defaultV2Factories config.network).foldl pushUniqueAddress []

/-- The first factory that knows the pair. The texts of the failed lookups are left out. -/
def findV2Pair (chain : V2Chain) (config : Config) (router tokenIn tokenOut : Address) :
    Except V2PayloadStop (Address × Address) :=
  let factories := v2Factories chain config router
  if factories = [] then .error .factoryUnavailable
  else
    match factories.findSome? fun factory =>
        match chain.getPair factory tokenIn tokenOut with
        | some pair => if pair ≠ 0 then some (factory, pair) else none
        | none => none with
    | some found => .ok found
    | none => .error .pairLookupsFailed

def poolTokensMatch (poolToken0 poolToken1 tokenIn tokenOut : Address) : Bool :=
  (poolToken0 = tokenIn ∧ poolToken1 = tokenOut) ∨ (poolToken0 = tokenOut ∧ poolToken1 = tokenIn)

def contextualCapitalAvailableWei (config : Config) (context : ContextSignal) : Option Nat :=
  parseEther (max
    (config.mev.capitalEth *
      config.mev.contextualCapitalMultiplier context.priorityScore context.toxicityScore)
    (1 / 10 ^ 6))

/-- The route back to the profit token: searched for in Scavenger mode, otherwise direct through the
victim's pair. -/
def v2ReverseRoute (chain : V2Chain) (config : Config) (tokenIn tokenOut : Address) (pool : V2PoolState) :
    List Address × List V2PoolState :=
  if config.mev.opportunityMode = .scavenger then
    chain.bestScavengerV2ReverseRoute.getD ([tokenOut, tokenIn], [pool])
  else ([tokenOut, tokenIn], [pool])

def v2PayloadInput (chain : V2Chain) (config : Config) (signal : V2SwapSignal) (tokenIn tokenOut : Address)
    (pool : V2PoolState) (capitalAvailableWei gasPrice : Nat) (context : ContextSignal) :
    FeeExtractionBuildInput where
  router := executionV2Router config signal.router
  pair := pool.pair
  recipient := config.profitAddress
  tokenIn := tokenIn
  tokenOut := tokenOut
  victimAmountIn := signal.amountIn
  stateBefore := .uniswapV2 pool
  capitalAvailableWei := capitalAvailableWei
  gasPriceWei := gasPrice
  contextPriorityScore := context.priorityScore
  contextToxicityScore := context.toxicityScore
  routeKind := .uniswapV2
  v2SwapPath := some (v2ReverseRoute chain config tokenIn tokenOut pool).1
  v2SwapPools := (v2ReverseRoute chain config tokenIn tokenOut pool).2

def buildV2Payload (chain : V2Chain) (config : Config) (signal : V2SwapSignal) (gasPrice : Nat)
    (context : ContextSignal) : Except V2PayloadStop ExecutionPayload :=
  match signal.path with
  | [] => .error .missingTokenIn
  | [_] => .error .missingTokenOut
  | tokenIn :: tokenOut :: _ =>
    match findV2Pair chain config (executionV2Router config signal.router) tokenIn tokenOut with
    | .error stop => .error stop
    | .ok (_, pair) =>
      if pair = 0 then .error .pairNotFound
      else
        match chain.getOrFetchV2 pair with
        | none => .error (.poolStateUnavailable pair)
        | some cached =>
          if poolTokensMatch cached.token0 cached.token1 tokenIn tokenOut = false then
            .error (.poolTokenMismatch pair)
          else if cached.reserve0 = 0 ∨ cached.reserve1 = 0 then .error (.zeroReserves pair)
          else
            let pool : V2PoolState :=
              { pair := pair
                token0 := cached.token0
                token1 := cached.token1
                reserve0 := cached.reserve0
                reserve1 := cached.reserve1
                feeBps := 30 }
            match contextualCapitalAvailableWei config context with
            | none => .error .capitalNotParsed
            | some capital =>
              match buildFeeExtractionV2 config
                  (v2PayloadInput chain config signal tokenIn tokenOut pool capital gasPrice context) with
              | .error stop => .error (.build stop)
              | .ok payload => .ok payload

/-- Outside Scavenger mode the V2 payload only tries the direct route, so it is never built. -/
theorem buildV2Payload_refused {chain : V2Chain} {config : Config} {signal : V2SwapSignal} {gasPrice : Nat}
    {context : ContextSignal} (direct : config.mev.opportunityMode ≠ .scavenger) (payload : ExecutionPayload) :
    buildV2Payload chain config signal gasPrice context ≠ .ok payload := by
  intro built
  unfold buildV2Payload at built
  split at built
  · exact absurd built (by simp)
  · exact absurd built (by simp)
  · rename_i tokenIn tokenOut _ _
    split at built
    · exact absurd built (by simp)
    · rename_i pair _
      split at built
      · exact absurd built (by simp)
      · split at built
        · exact absurd built (by simp)
        · rename_i cached fetched
          split at built
          · exact absurd built (by simp)
          · split at built
            · exact absurd built (by simp)
            · rename_i nonzero
              obtain ⟨distinct, bounded0, bounded1⟩ := chain.deployed pair cached fetched
              let lending : LendingPair :=
                { pair := pair
                  token0 := cached.token0
                  token1 := cached.token1
                  reserve0 := cached.reserve0
                  reserve1 := cached.reserve1
                  feeBps := 30
                  distinct := distinct
                  positive0 := by omega
                  positive1 := by omega
                  bounded0 := bounded0
                  bounded1 := bounded1
                  fee := rfl }
              dsimp only at built
              split at built
              · exact absurd built (by simp)
              · rename_i capital _
                split at built
                · exact absurd built (by simp)
                · rename_i builtDirect
                  refine lending.build_refused ⟨rfl, .inr ?_, .inr (.inl ?_)⟩ _ builtDirect
                  · simp [v2PayloadInput, v2ReverseRoute, direct]
                  · simp [v2PayloadInput, v2ReverseRoute, direct, lending]

/-- Selling the borrowed token back to the pair that lends it never covers the repayment, so every
size of the direct route is skipped, no build on it succeeds, and the runtime builds no V2 payload
outside Scavenger mode. -/
theorem no_self_arbitrage_on_lending_pair {pair : LendingPair} {tokenIn tokenOut : Address} {amountIn : Nat}
    {after : V2PoolState} {result : V2SwapResult}
    (accepted : pair.toV2PoolState.applySwapExactIn tokenIn tokenOut amountIn = some (after, result)) :
    ∃ borrowReserve profitReserve, after.reservesFor tokenOut tokenIn = some (borrowReserve, profitReserve) ∧
      (∀ quoted borrowed fallbackFeeBps, (quoted = pair.toV2PoolState ∨ quoted = after) → 0 < borrowed →
        borrowed < borrowReserve → ∃ amountOut repayment,
          quoteV2RouteExactIn borrowed [tokenOut, tokenIn] [quoted] fallbackFeeBps = some amountOut ∧
          v2RepaymentAmountInProfitToken borrowReserve profitReserve borrowed = some repayment ∧
          amountOut < repayment) ∧
      (∀ config (sizing : V2SizingInput) fractionsBps, sizing.borrowReserve = borrowReserve →
        sizing.profitReserve = profitReserve → sizing.routePath = [tokenOut, tokenIn] →
        (sizing.routePools = [pair.toV2PoolState] ∨ sizing.routePools = [after]) →
        feeExtractionV2SizeCandidates config sizing fractionsBps = .ok []) ∧
      (∀ config input payload, DirectRoute input pair.toV2PoolState →
        buildFeeExtractionV2 config input ≠ .ok payload) ∧
      ∀ chain config signal gasPrice context payload, config.mev.opportunityMode ≠ .scavenger →
        buildV2Payload chain config signal gasPrice context ≠ .ok payload := by
  obtain ⟨_, _, borrowReserve, profitReserve, _, reserves, _⟩ := LendingPair.reserves_after accepted
  refine ⟨borrowReserve, profitReserve, reserves, ?_, ?_, ?_, ?_⟩
  · intro quoted borrowed fallbackFeeBps route lent enough
    exact pair.direct_sale_lt_repayment accepted reserves route lent enough fallbackFeeBps
  · rintro config sizing fractionsBps rfl rfl path route
    exact pair.size_candidates_empty accepted reserves path route config fractionsBps
  · intro config input payload direct
    exact pair.build_refused direct payload
  · intro chain config signal gasPrice context payload direct
    exact buildV2Payload_refused direct payload

/-- The pair of the builder's sample input. -/
def balancedPair : LendingPair where
  pair := 30
  token0 := 1
  token1 := 2
  reserve0 := 10 ^ 21
  reserve1 := 10 ^ 21
  feeBps := 30
  distinct := by decide
  positive0 := by norm_num
  positive1 := by norm_num
  bounded0 := by norm_num
  bounded1 := by norm_num
  fee := rfl

theorem no_self_arbitrage_on_balancedPair :
    ∃ after result, balancedPair.toV2PoolState.applySwapExactIn 1 2 (10 ^ 18) = some (after, result) ∧
      ∃ borrowReserve profitReserve, after.reservesFor 2 1 = some (borrowReserve, profitReserve) ∧
        ∀ borrowed, 0 < borrowed → borrowed < borrowReserve → ∃ amountOut repayment,
          quoteV2RouteExactIn borrowed [2, 1] [after] 30 = some amountOut ∧
          v2RepaymentAmountInProfitToken borrowReserve profitReserve borrowed = some repayment ∧
          amountOut < repayment := by
  have accepted : ∃ step, balancedPair.toV2PoolState.applySwapExactIn 1 2 (10 ^ 18) = some step :=
    Option.isSome_iff_exists.mp (by decide +kernel)
  obtain ⟨⟨after, result⟩, accepted⟩ := accepted
  obtain ⟨borrowReserve, profitReserve, reserves, sales, _⟩ := no_self_arbitrage_on_lending_pair accepted
  exact ⟨after, result, accepted, borrowReserve, profitReserve, reserves,
    fun borrowed lent enough => sales after borrowed 30 (.inr rfl) lent enough⟩

/-- A pool that names one token twice: the way back is answered in the direction of the victim. -/
def twinLendingPool : V2PoolState where
  pair := 30
  token0 := 1
  token1 := 1
  reserve0 := 10 ^ 21
  reserve1 := 10 ^ 21
  feeBps := 30

/-- A victim who sells one part in a hundred on it, with the direct route quoted on the reserves from before. -/
def twinPoolInput : FeeExtractionBuildInput :=
  { secondPairInput with
    tokenOut := 1
    victimAmountIn := 10 ^ 19
    stateBefore := .uniswapV2 twinLendingPool
    v2SwapPath := none
    v2SwapPools := [twinLendingPool] }

/-- On such a pool the sale pays more than the repayment, and a build on the direct route succeeds. -/
theorem self_arbitrage_on_twinLendingPool :
    (∃ step borrowReserve profitReserve amountOut repayment,
      twinLendingPool.applySwapExactIn 1 1 (10 ^ 19) = some step ∧
      step.1.reservesFor 1 1 = some (borrowReserve, profitReserve) ∧ 10 ^ 18 < borrowReserve ∧
      quoteV2RouteExactIn (10 ^ 18) [1, 1] [twinLendingPool] 30 = some amountOut ∧
      v2RepaymentAmountInProfitToken borrowReserve profitReserve (10 ^ 18) = some repayment ∧
      ¬ amountOut < repayment) ∧
    DirectRoute twinPoolInput twinLendingPool ∧
      ∃ payload, buildFeeExtractionV2 testConfig twinPoolInput = .ok payload ∧
        decide (payload.targetContract ≠ 0) = true :=
  ⟨⟨_, 1010000000000000000000, 990128419656029387012,
      996006981039903216, 984249497408011336, rfl, by decide +kernel, by norm_num, by decide +kernel,
      by decide +kernel, by norm_num⟩,
    ⟨rfl, .inl rfl, .inr (.inl rfl)⟩,
    Collect.exists_of_holdsOf (by decide +kernel)⟩

end ArbitrageRuntime
