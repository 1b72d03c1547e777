import ArbitrageRuntime.Adaptive.Policy
import ArbitrageRuntime.Runtime.ReverseRoute

namespace ArbitrageRuntime

def SwapSignal.isPartialDecode (signal : SwapSignal) : Bool := signal.decodeConfidence < 0.99

/-- The cluster of a signal. Its path is never empty. -/
def SwapSignal.cluster (signal : SwapSignal) : ClusterKey where
  router := signal.router
  tokenIn := signal.path.headD 0
  tokenOut := signal.path.getLastD 0
  selector := signal.selector

def defaultV3Router (network : String) : Option Address :=
  if network = "polygon" ∨ network = "ethereum" ∨ network = "arbitrum" then
    some 0xe592427a0aece92de3edee1f18e0157c05861564
  else if network = "bsc" ∨ network = "bnb" then some 0x13f4ea83d0bd40e75c8222255bc855a974568dd4
  else none

def executionV3Router (config : Config) (fallback : Address) : Address :=
  (defaultV3Router config.network).getD fallback

def defaultV3Factories (network : String) : List Address :=
  if network = "polygon" ∨ network = "ethereum" ∨ network = "arbitrum" then
    [0x1f98431c8ad98523631ae4a59f267346ea31f984]
  else if network = "bsc" ∨ network = "bnb" then [0x0bfbcf9fa4f9c56b0f40a671ad40e0805a091865]
  else []

/-- The configuration with the V3 factory, which only the pool lookup reads. -/
structure RuntimeConfig extends PricedConfig where
  uniswapV3Factory : Option Address

inductive V3PayloadStop
  | missingTokenIn
  | missingTokenOut
  | factoryUnavailable
  | poolLookupsFailed
  | poolNotFound
  | poolStateUnavailable (pool : Address)
  | poolTokenMismatch (pool : Address)
  | emptyLiquidityOrPrice (pool : Address)
  | capitalNotParsed
  | exactOutWithoutMinimum
  | exactOutBelowGasCost (amountInMax gasCost : Nat)
  | build (stop : BuildStop)

inductive PayloadStop
  | v2 (stop : V2PayloadStop)
  | v3 (stop : V3PayloadStop)

/-- The builder has divided by zero, which unwinds its task. -/
def PayloadStop.panics : PayloadStop → Bool
  | .v2 (.build .divisionByZero) => true
  | .v3 (.build .divisionByZero) => true
  | _ => false

def v3Factories (config : RuntimeConfig) : List Address :=
  (config.uniswapV3Factory.toList ++ defaultV3Factories config.network).foldl pushUniqueAddress []

def polygonV3ShadowFeeTiers : List Nat := [100, 500, 3000, 10000]

/-- A swap for an exact output has to be worth more than its gas. -/
def exactOutCheck (signal : SwapSignal) (gasPrice : Nat) : Except V3PayloadStop Unit :=
  match signal.kind with
  | .v3 _ _ _ true =>
    if signal.amountOutMin = none then .error .exactOutWithoutMinimum
    else if signal.amountIn ≤ u256Mul gasPrice 300000 then
      .error (.exactOutBelowGasCost signal.amountIn (u256Mul gasPrice 300000))
    else .ok ()
  | _ => .ok ()

/-- The pool as it is handed to the builder: the cache does not know its ticks. -/
def v3State (pool : Address) (cached : CachedV3Pool) (feeTier : Nat) : V3PoolState where
  pool := pool
  token0 := cached.token0
  token1 := cached.token1
  sqrtPriceX96 := cached.sqrtPriceX96
  liquidity := cached.liquidity
  currentTick := cached.currentTick
  feeBps := feeTier / 100
  initializedTicks := []

def v3PayloadInput (config : RuntimeConfig) (signal : SwapSignal) (tokenIn tokenOut : Address) (state : V3PoolState)
    (discoveredFeeTier feeTier : Nat) (encodedPath : Bytes) (capitalAvailableWei gasPrice : Nat)
    (context : Adaptive.ContextSignal) : FeeExtractionBuildInput where
  router := executionV3Router config.toConfig signal.router
  pair := state.pool
  recipient := config.profitAddress
  tokenIn := tokenIn
  tokenOut := tokenOut
  victimAmountIn := signal.amountIn
  stateBefore := .uniswapV3 state
  capitalAvailableWei := capitalAvailableWei
  gasPriceWei := gasPrice
  contextPriorityScore := context.priorityScore
  contextToxicityScore := context.toxicityScore
  routeKind := .uniswapV3 discoveredFeeTier
    (if discoveredFeeTier = feeTier then encodedPath else encodeV3Path tokenOut discoveredFeeTier tokenIn)
  v2SwapPath := none
  v2SwapPools := []

/-- The part of a context signal that the builders read. -/
def builderContext (context : Adaptive.ContextSignal) : ContextSignal where
  priorityScore := context.priorityScore
  toxicityScore := context.toxicityScore

namespace ChainView

variable (view : ChainView) (config : RuntimeConfig)

/-- The first factory that knows the pool. The texts of the failed lookups are left out. -/
def findV3Pool (tokenIn tokenOut : Address) (feeTier : Nat) : Except V3PayloadStop Address :=
  if v3Factories config = [] then .error .factoryUnavailable
  else
    match (v3Factories config).findSome? fun factory =>
        (view.getPool factory tokenIn tokenOut feeTier).filter fun pool => pool ≠ 0 with
    | some pool => .ok pool
    | none => .error .poolLookupsFailed

/-- In shadow mode a partly decoded signal may find its pool at another fee tier. -/
def findV3PoolWithShadowFeeFallback (signal : SwapSignal) (tokenIn tokenOut : Address) (feeTier : Nat) :
    Except V3PayloadStop (Address × Nat) :=
  match view.findV3Pool config tokenIn tokenOut feeTier with
  | .ok pool => .ok (pool, feeTier)
  | .error primary =>
    if config.allowSend || !signal.isPartialDecode then .error primary
    else
      match (polygonV3ShadowFeeTiers.filter fun tier => tier ≠ feeTier).findSome? fun tier =>
          (view.findV3Pool config tokenIn tokenOut tier).toOption.map fun pool => (pool, tier) with
      | some found => .ok found
      | none => .error .poolLookupsFailed

def buildV3Payload (signal : SwapSignal) (gasPrice : Nat) (context : Adaptive.ContextSignal) (feeTier : Nat)
    (encodedPath : Bytes) : Except V3PayloadStop ExecutionPayload :=
  match signal.path with
  | [] => .error .missingTokenIn
  | [_] => .error .missingTokenOut
  | tokenIn :: tokenOut :: _ =>
    match view.findV3PoolWithShadowFeeFallback config signal tokenIn tokenOut feeTier with
    | .error stop => .error stop
    | .ok (pool, discoveredFeeTier) =>
      if pool = 0 then .error .poolNotFound
      else
        match view.getOrFetchV3 pool with
        | none => .error (.poolStateUnavailable pool)
        | some cached =>
          if poolTokensMatch cached.token0 cached.token1 tokenIn tokenOut = false then .error (.poolTokenMismatch pool)
          else if cached.liquidity = 0 ∨ cached.sqrtPriceX96 = 0 then .error (.emptyLiquidityOrPrice pool)
          else
            match contextualCapitalAvailableWei config.toConfig (builderContext context) with
            | none => .error .capitalNotParsed
            | some capital =>
              match exactOutCheck signal gasPrice with
              | .error stop => .error stop
              | .ok _ =>
                match buildFeeExtractionV3 config.toConfig (v3PayloadInput config signal tokenIn tokenOut
                    (v3State pool cached discoveredFeeTier) discoveredFeeTier feeTier encodedPath capital gasPrice
                    context) with
                | .error stop => .error (.build stop)
                | .ok payload => .ok payload

/-- The reverse route that the V2 builder asks for, once it knows the pair of the victim. -/
def reverseRoute (signal : SwapSignal) (context : Adaptive.ContextSignal) :
    Option (List Address × List V2PoolState) :=
  match signal.path with
  | tokenIn :: tokenOut :: _ =>
    let router := executionV2Router config.toConfig signal.router
    match findV2Pair (view.v2Chain none) config.toConfig router tokenIn tokenOut,
      contextualCapitalAvailableWei config.toConfig (builderContext context) with
    | .ok (_, pair), some capital =>
      view.bestScavengerV2ReverseRoute config.toConfig signal tokenIn tokenOut pair router capital
    | _, _ => none
  | _ => none

def buildPayload (signal : SwapSignal) (gasPrice : Nat) (context : Adaptive.ContextSignal) :
    Except PayloadStop ExecutionPayload :=
  match signal.kind with
  | .v2 =>
    match buildV2Payload (view.v2Chain (view.reverseRoute config signal context)) config.toConfig
        ⟨signal.path, signal.router, signal.amountIn⟩ gasPrice (builderContext context) with
    | .error stop => .error (.v2 stop)
    | .ok payload => .ok payload
  | .v3 feeTier encodedPath _ _ =>
    match view.buildV3Payload config signal gasPrice context feeTier encodedPath with
    | .error stop => .error (.v3 stop)
    | .ok payload => .ok payload

end ChainView

/-- A simulated swap keeps the ticks of its pool. -/
theorem initializedTicks_of_simulateExactIn {pool next : V3PoolState} {tokenIn tokenOut : Address} {amountIn : Nat}
    {result : V3SwapResult} (swapped : pool.simulateExactIn tokenIn tokenOut amountIn = some (next, result)) :
    next.initializedTicks = pool.initializedTicks := by
  unfold V3PoolState.simulateExactIn at swapped
  dsimp only at swapped
  split at swapped
  · exact absurd swapped (by simp)
  split at swapped
  · exact absurd swapped (by simp)
  split at swapped
  · exact absurd swapped (by simp)
  split at swapped
  · exact absurd swapped (by simp)
  · obtain ⟨sqrtPriceX96After, _, swapped⟩ := Option.bind_eq_some_iff.mp swapped
    obtain ⟨amountOut, _, swapped⟩ := Option.bind_eq_some_iff.mp swapped
    cases Option.some.inj swapped
    rfl

/-- The V3 builder insists on the ticks of the pool. -/
theorem buildFeeExtractionV3_refuses_without_ticks {config : Config} {input : FeeExtractionBuildInput}
    {pool : V3PoolState} (state : input.stateBefore = .uniswapV3 pool) (none : pool.initializedTicks = [])
    (payload : ExecutionPayload) : buildFeeExtractionV3 config input ≠ .ok payload := by
  intro built
  obtain ⟨prepared, _, _, _, _, _, _, run, _⟩ := buildFeeExtractionV3_spec built
  obtain ⟨before, result, _, same, swapped, _, ticks, _⟩ := prepareV3_eq_ok.mp run
  cases AmmState.uniswapV3.inj (state.symm.trans same)
  exact ticks ((initializedTicks_of_simulateExactIn swapped).trans none)

namespace ChainView

variable {view : ChainView} {config : RuntimeConfig} {signal : SwapSignal} {gasPrice : Nat}
  {context : Adaptive.ContextSignal}

/-- The cache knows no ticks, so that the runtime never builds a V3 payload. -/
theorem buildV3Payload_refused {feeTier : Nat} {encodedPath : Bytes} (payload : ExecutionPayload) :
    view.buildV3Payload config signal gasPrice context feeTier encodedPath ≠ .ok payload := by
  intro built
  unfold buildV3Payload at built
  split at built
  · exact absurd built (by simp)
  · exact absurd built (by simp)
  split at built
  · exact absurd built (by simp)
  split at built
  · exact absurd built (by simp)
  split at built
  · exact absurd built (by simp)
  split at built
  · exact absurd built (by simp)
  split at built
  · exact absurd built (by simp)
  split at built
  · exact absurd built (by simp)
  split at built
  · exact absurd built (by simp)
  split at built
  · exact absurd built (by simp)
  · rename_i builtV3
    exact buildFeeExtractionV3_refuses_without_ticks rfl rfl _ builtV3

theorem buildV2Payload_ok {chain : V2Chain} {config : Config} {swap : V2SwapSignal} {context : ContextSignal}
    {payload : ExecutionPayload} (built : buildV2Payload chain config swap gasPrice context = .ok payload) :
    ∃ input, buildFeeExtractionV2 config input = .ok payload := by
  unfold buildV2Payload at built
  split at built
  · exact absurd built (by simp)
  · exact absurd built (by simp)
  split at built
  · exact absurd built (by simp)
  split at built
  · exact absurd built (by simp)
  split at built
  · exact absurd built (by simp)
  split at built
  · exact absurd built (by simp)
  split at built
  · exact absurd built (by simp)
  dsimp only at built
  split at built
  · exact absurd built (by simp)
  split at built
  · exact absurd built (by simp)
  · rename_i builtV2
    cases Except.ok.inj built
    exact ⟨_, builtV2⟩

/-- What the runtime does build is a V2 payload in Scavenger mode. -/
theorem buildPayload_ok {payload : ExecutionPayload}
    (built : view.buildPayload config signal gasPrice context = .ok payload) :
    config.mev.opportunityMode = .scavenger ∧ signal.kind = .v2 ∧
      ∃ input, buildFeeExtractionV2 config.toConfig input = .ok payload := by
  unfold buildPayload at built
  split at built
  · rename_i kind
    split at built
    · exact absurd built (by simp)
    · rename_i builtV2
      cases Except.ok.inj built
      refine ⟨?_, kind, buildV2Payload_ok builtV2⟩
      by_contra other
      exact buildV2Payload_refused other _ builtV2
  · split at built
    · exact absurd built (by simp)
    · rename_i builtV3
      exact absurd builtV3 (buildV3Payload_refused _)

end ChainView

end ArbitrageRuntime
