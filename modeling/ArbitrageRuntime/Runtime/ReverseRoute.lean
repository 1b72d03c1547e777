import ArbitrageRuntime.Decoder.Signal
import ArbitrageRuntime.Runtime.PayloadV2
import ArbitrageRuntime.Runtime.SanityGate

namespace ArbitrageRuntime

structure CachedV3Pool where
  token0 : Address
  token1 : Address
  sqrtPriceX96 : Nat
  liquidity : Nat
  currentTick : Int

/-- The pools as the node and the pool cache show them. -/
structure ChainView where
  routerFactory : Address → Option Address
  getPair : Address → Address → Address → Option Address
  getOrFetchV2 : Address → Option CachedV2Pool
  getPool : Address → Address → Address → Nat → Option Address
  getOrFetchV3 : Address → Option CachedV3Pool
  deployed : ∀ pair pool, getOrFetchV2 pair = some pool →
    pool.token0 ≠ pool.token1 ∧ pool.reserve0 < 2 ^ 112 ∧ pool.reserve1 < 2 ^ 112

/-- The view of the V2 builder, with the outcome of the route search. -/
def ChainView.v2Chain (view : ChainView) (route : Option (List Address × List V2PoolState)) : V2Chain where
  routerFactory := view.routerFactory
  getPair := view.getPair
  getOrFetchV2 := view.getOrFetchV2
  bestScavengerV2ReverseRoute := route
  deployed := view.deployed

/-- The edges of a route. -/
def routeEdges : List Address → List (Address × Address)
  | first :: second :: rest => (first, second) :: routeEdges (second :: rest)
  | _ => []

/-- Walks the pools of a route; a pool that does not trade its edge ends the walk. -/
def walkRoute {α : Type} (visit : α → V2PoolState → Nat → Nat → Option α) (route : List Address)
    (pools : List V2PoolState) (start : α) : Option α :=
  if route.length < 2 ∨ pools.length + 1 ≠ route.length then none
  else
    (pools.zip (routeEdges route)).foldlM (fun state hop => do
      let (reserveIn, reserveOut) ← hop.1.reservesFor hop.2.1 hop.2.2
      visit state hop.1 reserveIn reserveOut) start

def quoteV2RuntimeRouteExactIn (amountIn : Nat) (route : List Address) (pools : List V2PoolState) : Option Nat :=
  walkRoute (fun amount pool reserveIn reserveOut => amountOutExactIn amount reserveIn reserveOut pool.feeBps)
    route pools amountIn

/-- The worst impact on the way. -/
def quoteV2RuntimeRouteImpactBps (amountIn : Nat) (route : List Address) (pools : List V2PoolState) : Option Nat :=
  (walkRoute (fun (amount, worst) pool reserveIn reserveOut => do
      let amountOut ← amountOutExactIn amount reserveIn reserveOut pool.feeBps
      some (amountOut, max worst (priceImpactBps amount amountOut reserveIn reserveOut)))
    route pools (amountIn, 0)).map Prod.snd

def routeHasLowLiquidityProbe (probeAmount : Nat) (route : List Address) (pools : List V2PoolState) : Bool :=
  (walkRoute (fun _ _ reserveIn reserveOut =>
      if reserveIn ≤ u256Mul probeAmount 20 ∨ reserveOut ≤ 1 then none else some ())
    route pools ()).isNone

def scavengerV2RouteScore (amountOut impactBps routeLen : Nat) : Nat :=
  let hopCount := max (routeLen - 1) 1
  let penaltyBps := u64Add (u64Add 10000 (u64Mul impactBps 2)) (u64Mul (hopCount - 1) 250)
  u256Mul amountOut 10000 / max penaltyBps 1

/-- The way back over one token in the middle: over none, over a monitored one or over one of the next two of the
victim's path. -/
def scavengerReverseRouteCandidates (config : Config) (signal : SwapSignal) (tokenIn tokenOut : Address) :
    List (List Address) :=
  let middles := (config.monitoredTokens.take 6).map MonitoredTokenConfig.address ++ (signal.path.drop 2).take 2
  let routes := [tokenOut, tokenIn] ::
    (middles.filter fun middle => middle ≠ tokenIn ∧ middle ≠ tokenOut).map fun middle => [tokenOut, middle, tokenIn]
  routes.foldl (fun kept route => if route ∈ kept then kept else kept ++ [route]) []

namespace ChainView

variable (view : ChainView) (config : Config)

/-- The pair of one edge. A longer route keeps off the victim's pair. -/
def edgePool (router victimPair : Address) (routeLen : Nat) (edge : Address × Address) : Option V2PoolState :=
  match findV2Pair (view.v2Chain none) config router edge.1 edge.2 with
  | .error _ => none
  | .ok (_, pair) =>
    if pair = 0 ∨ (2 < routeLen ∧ pair = victimPair) then none
    else
      (view.getOrFetchV2 pair).map fun cached =>
        { pair := pair
          token0 := cached.token0
          token1 := cached.token1
          reserve0 := cached.reserve0
          reserve1 := cached.reserve1
          feeBps := 30 }

def loadV2RoutePools (router : Address) (route : List Address) (victimPair : Address) : Option (List V2PoolState) :=
  if route.length < 2 then none else (routeEdges route).mapM (view.edgePool config router victimPair route.length)

/-- A route with its score, unless it does not trade, moves a price too far or is too thin. -/
def scoredRoute (router victimPair : Address) (probeAmount : Nat) (route : List Address) :
    Option (Nat × List Address × List V2PoolState) := do
  let pools ← view.loadV2RoutePools config router route victimPair
  let amountOut ← quoteV2RuntimeRouteExactIn probeAmount route pools
  let impactBps := (quoteV2RuntimeRouteImpactBps probeAmount route pools).getD 10000
  if scavengerQualityPriceImpactCapBps config < impactBps then none
  else if routeHasLowLiquidityProbe probeAmount route pools then none
  else some (scavengerV2RouteScore amountOut impactBps route.length, route, pools)

/-- The first of the routes with the best score. -/
def bestScavengerV2ReverseRoute (signal : SwapSignal) (tokenIn tokenOut victimPair router : Address)
    (capitalAvailableWei : Nat) : Option (List Address × List V2PoolState) :=
  let probeAmount := u256Mul capitalAvailableWei 25 / 10000
  if probeAmount = 0 then none
  else
    let scored := (scavengerReverseRouteCandidates config signal tokenIn tokenOut).filterMap
      (view.scoredRoute config router victimPair probeAmount)
    let best := scored.foldl (fun (best : Option (Nat × List Address × List V2PoolState)) route =>
      match best with
      | some kept => if kept.1 < route.1 then some route else best
      | none => some route) none
    best.map Prod.snd

end ChainView

end ArbitrageRuntime
