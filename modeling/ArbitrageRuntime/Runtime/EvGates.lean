import ArbitrageRuntime.Adaptive.Limits
import ArbitrageRuntime.Decoder.Signal
import ArbitrageRuntime.Runtime.SanityGate

namespace ArbitrageRuntime

def MevConfig.effectiveMinRoiBps (mev : MevConfig) : Nat :=
  roundedAtLeastOne (match mev.opportunityMode with
    | .conservative => mev.minRoiBps
    | .aggressive => mev.minRoiBps * 0.25
    | .scavenger => mev.minRoiBps * 0.05)

def roiBps (profitWei costWei : Nat) : Nat :=
  if costWei = 0 then 0 else min (profitWei * 10000 / costWei) u64Max

/-- The verdict of a gate. Its detail text is left out. -/
structure GateDiagnostic where
  pass : Bool
  reason : String
  expectedProfitWei : Nat
  executionCostWei : Nat
  minProfitWei : Nat
  netEvUsd : ℚ
  roiBps : Nat
  deriving DecidableEq

def profitUsd (config : PricedConfig) (payload : ExecutionPayload) : ℚ :=
  weiToEth payload.expectedProfitWei * config.ethUsdPrice

/-- The minimal size of a swap in wei. -/
def effectiveMinLargeSwapWei (config : PricedConfig) : Nat := (parseEther config.mev.effectiveMinLargeSwapEth).getD 0

def lookupIsFresh (config : PricedConfig) (lookupLatencyMs : Nat) : Bool :=
  lookupLatencyMs ≤ max config.mev.effectiveMaxPendingAgeMs 1

def gasBudgetOk (config : PricedConfig) (payload : ExecutionPayload) : Bool :=
  payload.gasLimit ≤ config.mev.maxGasPerTx

def scavengerEvGateResult (config : PricedConfig) (payload : ExecutionPayload) (lookupLatencyMs : Nat) (pass : Bool) :
    GateDiagnostic where
  pass := pass
  reason :=
    if lookupIsFresh config lookupLatencyMs = false then "ev_lookup_stale"
    else if payload.expectedProfitWei = 0 then "ev_zero_expected_profit"
    else if gasBudgetOk config payload = false then "ev_gas_limit_above_cap"
    else "ev_gate_pass"
  expectedProfitWei := payload.expectedProfitWei
  executionCostWei := 0
  minProfitWei := 0
  netEvUsd := profitUsd config payload
  roiBps := 0

def standardEvGateResult (config : PricedConfig) (payload : ExecutionPayload) (minProfitWei : Nat)
    (pass lookupIsFresh largeEnough inevitableImpact profitAboveThreshold gasBudgetOk : Bool) : GateDiagnostic where
  pass := pass
  reason :=
    if lookupIsFresh = false then "ev_lookup_stale"
    else if largeEnough = false then "ev_notional_below_min"
    else if inevitableImpact = false then "ev_price_impact_too_low"
    else if profitAboveThreshold = false then "ev_profit_below_min_wei"
    else if profitUsd config payload < config.mev.effectiveMinProfitUsd then "ev_profit_below_min_usd"
    else if gasBudgetOk = false then "ev_gas_limit_above_cap"
    else "ev_gate_pass"
  expectedProfitWei := payload.expectedProfitWei
  executionCostWei := 0
  minProfitWei := minProfitWei
  netEvUsd := profitUsd config payload
  roiBps := 0

/-- The two gates on the expected value differ in the impact from which a swap counts as inevitable. -/
def evGateDiagnosticFrom (inevitableImpactBps : Nat) (config : PricedConfig) (payload : ExecutionPayload)
    (signal : SwapSignal) (lookupLatencyMs minProfitWei : Nat) : GateDiagnostic :=
  let fresh := lookupIsFresh config lookupLatencyMs
  let budget := gasBudgetOk config payload
  if config.mev.opportunityMode = .scavenger then
    scavengerEvGateResult config payload lookupLatencyMs (fresh && payload.expectedProfitWei ≠ 0 && budget)
  else
    let largeEnough : Bool := effectiveMinLargeSwapWei config ≤ signal.notionalWei
    let inevitableImpact : Bool := inevitableImpactBps ≤ payload.priceImpactBps
    let profitAboveThreshold : Bool := minProfitWei ≤ payload.expectedProfitWei
    let pass := fresh && largeEnough && inevitableImpact && profitAboveThreshold &&
      config.mev.effectiveMinProfitUsd ≤ profitUsd config payload && budget
    standardEvGateResult config payload minProfitWei pass fresh largeEnough inevitableImpact profitAboveThreshold budget

def evGateDiagnosticV2 (config : PricedConfig) (payload : ExecutionPayload) (signal : SwapSignal)
    (lookupLatencyMs minProfitWei : Nat) : GateDiagnostic :=
  evGateDiagnosticFrom 8 config payload signal lookupLatencyMs minProfitWei

def evGateDiagnosticV3 (config : PricedConfig) (payload : ExecutionPayload) (signal : SwapSignal)
    (lookupLatencyMs minProfitWei : Nat) : GateDiagnostic :=
  evGateDiagnosticFrom 6 config payload signal lookupLatencyMs minProfitWei

def evGateDiagnostic (config : PricedConfig) (payload : ExecutionPayload) (signal : SwapSignal)
    (lookupLatencyMs minProfitWei : Nat) : GateDiagnostic :=
  match signal.kind with
  | .v2 => evGateDiagnosticV2 config payload signal lookupLatencyMs minProfitWei
  | .v3 _ _ _ _ => evGateDiagnosticV3 config payload signal lookupLatencyMs minProfitWei

def passesEvGate (config : PricedConfig) (payload : ExecutionPayload) (signal : SwapSignal)
    (lookupLatencyMs minProfitWei : Nat) : Bool :=
  (evGateDiagnostic config payload signal lookupLatencyMs minProfitWei).pass

def scavengerQualityDiagnostic (config : PricedConfig) (payload : ExecutionPayload) (executionCostWei : Nat) :
    GateDiagnostic :=
  let impactCap := scavengerQualityPriceImpactCapBps config.toConfig
  { pass := payload.expectedProfitWei ≠ 0 ∧ payload.priceImpactBps ≤ impactCap
    reason :=
      if payload.expectedProfitWei = 0 then "quality_zero_expected_profit"
      else if impactCap < payload.priceImpactBps then "quality_price_impact_above_cap"
      else "quality_gate_pass"
    expectedProfitWei := payload.expectedProfitWei
    executionCostWei := executionCostWei
    minProfitWei := 0
    netEvUsd := profitUsd config payload
    roiBps := roiBps payload.expectedProfitWei executionCostWei }

/-- The impact as a percentage of its cap, cut off at a hundred. -/
def qualityImpactScore (config : PricedConfig) (payload : ExecutionPayload) : Nat :=
  ⌊clamp 0 100 ((payload.priceImpactBps : ℚ) / max config.mev.effectiveMaxPriceImpactBps 1 * 100)⌋.toNat

def standardQualityDiagnostic (config : PricedConfig) (payload : ExecutionPayload) (executionCostWei : Nat) :
    GateDiagnostic :=
  let roi := roiBps payload.expectedProfitWei executionCostWei
  let impactScore := qualityImpactScore config payload
  { pass := config.mev.effectiveMinRoiBps ≤ roi ∧ impactScore ≤ 100
    reason :=
      if roi < config.mev.effectiveMinRoiBps then "quality_roi_below_min"
      else if 100 < impactScore then "quality_impact_score_above_cap"
      else "quality_gate_pass"
    expectedProfitWei := payload.expectedProfitWei
    executionCostWei := executionCostWei
    minProfitWei := 0
    netEvUsd := profitUsd config payload
    roiBps := roi }

def qualityGateDiagnostic (config : PricedConfig) (payload : ExecutionPayload) (executionCostWei : Nat) :
    GateDiagnostic :=
  if config.mev.opportunityMode = .scavenger then scavengerQualityDiagnostic config payload executionCostWei
  else standardQualityDiagnostic config payload executionCostWei

def passesQualityGate (config : PricedConfig) (payload : ExecutionPayload) (executionCostWei : Nat) : Bool :=
  (qualityGateDiagnostic config payload executionCostWei).pass

/-- The gas of a payload with the safety margin. -/
def safetyGasCostWei (config : PricedConfig) (payload : ExecutionPayload) (gasPrice : Nat) : Nat :=
  u256Mul (u256Mul gasPrice payload.gasLimit) config.mev.gasSafetyMarginBps / 10000

/-- What the scavenger gates read from the environment. -/
structure ScavengerSettings where
  minGasFractionBps : Option Nat
  minEconomicEdgeUsd : Option ℚ
  requireNetPositive : Option Bool

namespace ScavengerSettings

variable (settings : ScavengerSettings)

/-- The smallest edge over the gas that is worth a try. -/
def floorWei (config : PricedConfig) (gasCostWei : Nat) : Nat :=
  let fractionBps := max 1 (min (settings.minGasFractionBps.getD 100) 10000)
  let minEdgeNative := max (settings.minEconomicEdgeUsd.getD 0.0005) 0 / max config.ethUsdPrice 0.000001
  max (u256Mul gasCostWei fractionBps / 10000) ((toU256Rounded (minEdgeNative * weiPerEth)).getD 0)

def requiredEdgeWei (config : PricedConfig) (gasCostWei : Nat) : Nat :=
  if settings.requireNetPositive.getD true then u256Add gasCostWei (settings.floorWei config gasCostWei)
  else settings.floorWei config gasCostWei

end ScavengerSettings

def scavengerPayloadHasEconomicEdge (config : PricedConfig) (settings : ScavengerSettings) (payload : ExecutionPayload)
    (gasPrice : Nat) : Bool :=
  if payload.expectedProfitWei = 0 then false
  else settings.requiredEdgeWei config (u256Mul gasPrice payload.gasLimit) ≤ payload.expectedProfitWei

def scavengerEconomicEdgeDiagnostic (config : PricedConfig) (settings : ScavengerSettings) (payload : ExecutionPayload)
    (gasPrice : Nat) : GateDiagnostic :=
  let gasCostWei := u256Mul gasPrice payload.gasLimit
  let requiredEdge := settings.requiredEdgeWei config gasCostWei
  let pass : Bool := requiredEdge ≤ payload.expectedProfitWei
  { pass := pass
    reason :=
      if payload.expectedProfitWei = 0 then "ev_zero_expected_profit"
      else if pass = false then "ev_scavenger_edge_below_floor"
      else "ev_gate_pass"
    expectedProfitWei := payload.expectedProfitWei
    executionCostWei := gasCostWei
    minProfitWei := requiredEdge
    netEvUsd := weiToEth (payload.expectedProfitWei - gasCostWei) * config.ethUsdPrice
    roiBps := roiBps payload.expectedProfitWei gasCostWei }

/-- One of the two directions of the first edge of the path trades in the pool. -/
def tradesFirstEdge (pool : V2PoolState) (path : List Address) : Bool :=
  match path with
  | first :: second :: _ => (pool.reservesFor first second).isSome || (pool.reservesFor second first).isSome
  | _ => false

def poolStateValid (signal : SwapSignal) : AmmState → Bool
  | .uniswapV2 pool => pool.reserve0 ≠ 0 && pool.reserve1 ≠ 0 && tradesFirstEdge pool signal.path
  | .uniswapV3 pool => pool.liquidity ≠ 0 && pool.sqrtPriceX96 ≠ 0 && !pool.initializedTicks.isEmpty

def scavengerWarQuoteDiagnostic (config : PricedConfig) (payload : ExecutionPayload) (signal : SwapSignal)
    (gasPrice : Nat) (economic : GateDiagnostic) : GateDiagnostic :=
  let safetyGasCost := safetyGasCostWei config payload gasPrice
  let requiredEdge := u256Add safetyGasCost (economic.minProfitWei - economic.executionCostWei)
  let roi := roiBps payload.expectedProfitWei safetyGasCost
  let valid := poolStateValid signal payload.poolStateBefore
  let impactCap := scavengerQualityPriceImpactCapBps config.toConfig
  { pass := economic.pass ∧ valid ∧ safetyGasCost < payload.expectedProfitWei ∧
      requiredEdge ≤ payload.expectedProfitWei ∧ config.mev.effectiveMinRoiBps ≤ roi ∧
      payload.priceImpactBps ≤ impactCap
    reason :=
      if economic.pass = false then economic.reason
      else if valid = false then "scavenger_quote_invalid_pool_state"
      else if payload.expectedProfitWei ≤ safetyGasCost then "scavenger_quote_net_after_gas_not_positive"
      else if payload.expectedProfitWei < requiredEdge then "scavenger_quote_edge_below_safety_floor"
      else if roi < config.mev.effectiveMinRoiBps then "scavenger_quote_roi_below_min"
      else if impactCap < payload.priceImpactBps then "scavenger_quote_price_impact_above_cap"
      else "scavenger_quote_pass"
    expectedProfitWei := payload.expectedProfitWei
    executionCostWei := safetyGasCost
    minProfitWei := requiredEdge
    netEvUsd := weiToEth (payload.expectedProfitWei - safetyGasCost) * config.ethUsdPrice
    roiBps := roi }

/-- The verdict on the figures of a payload. Its detail text is left out. -/
structure EvValidationReport where
  pass : Bool
  reason : String
  grossEdgeUsd : ℚ
  netEdgeUsd : ℚ
  gasCostUsd : ℚ
  roiBps : Nat
  deriving DecidableEq

/-- The tick at a square root price, by the natural logarithm. -/
def tickFromSqrtPriceX96 (ln : ℚ → ℚ) (value : Nat) : Option Int :=
  let sqrt := value / q96
  if sqrt ≤ 0 then none
  else some (max (-2 ^ 31) (min ⌊ln (sqrt * sqrt) / ln 1.0001⌋ (2 ^ 31 - 1)))

/-- What is wrong with the state of the pool that a payload was built on. -/
def poolStateDefect (ln : ℚ → ℚ) (signal : SwapSignal) : AmmState → Option String
  | .uniswapV2 pool =>
    if pool.reserve0 = 0 ∨ pool.reserve1 = 0 then some "reserve_normalization_zero"
    else if 2 ≤ signal.path.length ∧ tradesFirstEdge pool signal.path = false then some "pool_token_mismatch"
    else none
  | .uniswapV3 pool =>
    if pool.liquidity = 0 then some "v3_liquidity_zero"
    else if pool.initializedTicks.isEmpty then some "v3_tick_data_missing"
    else if pool.sqrtPriceX96 = 0 then some "sqrt_price_x96_zero"
    else
      match tickFromSqrtPriceX96 ln pool.sqrtPriceX96 with
      | some derivedTick => if 250 < |derivedTick - pool.currentTick| then some "tick_sqrt_price_mismatch" else none
      | none => none

/-- The first defect of a payload. Exact figures are always finite. -/
def payloadDefect (ln : ℚ → ℚ) (config : PricedConfig) (payload : ExecutionPayload) (signal : SwapSignal)
    (roi : Nat) : Option String :=
  match config.monitoredTokens.find? fun token => token.address == payload.profitToken with
  | none => some "token_decimals_unknown"
  | some profitMeta =>
    if 30 < profitMeta.decimals ∨ profitMeta.priceEth ≤ 0 then some "invalid_token_metadata"
    else if 10000 < profitUsd config payload ∨ 100000 < roi then some "ev_outlier_profit_or_roi"
    else if payload.capitalCommittedWei = 0 then some "capital_usage_zero"
    else poolStateDefect ln signal payload.poolStateBefore

def validatePayloadEv (ln : ℚ → ℚ) (config : PricedConfig) (payload : ExecutionPayload) (signal : SwapSignal)
    (gasPrice : Nat) : EvValidationReport :=
  let gasCostWei := safetyGasCostWei config payload gasPrice
  let grossEdgeUsd := profitUsd config payload
  let gasCostUsd := weiToEth gasCostWei * config.ethUsdPrice
  let roi := roiBps payload.expectedProfitWei gasCostWei
  let defect := payloadDefect ln config payload signal roi
  { pass := defect.isNone
    reason := defect.getD "ev_validation_pass"
    grossEdgeUsd := grossEdgeUsd
    netEdgeUsd := grossEdgeUsd - gasCostUsd
    gasCostUsd := gasCostUsd
    roiBps := roi }

end ArbitrageRuntime
