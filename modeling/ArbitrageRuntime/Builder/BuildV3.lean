import ArbitrageRuntime.Builder.Thresholds
import ArbitrageRuntime.Builder.SizingV3
import ArbitrageRuntime.Lib.Collect

namespace ArbitrageRuntime

/-- What the V3 builder fixes before it tries sizes. -/
structure V3Prepared where
  feeTier : Nat
  path : Bytes
  poolAfter : V3PoolState
  victimImpactBps : Nat
  capitalCapToken : Nat

def v3Route (kind : AmmRouteKind) : Option (Nat × Bytes) :=
  match kind with
  | .uniswapV3 feeTier path => some (feeTier, path)
  | .uniswapV2 => none

def prepareV3 (config : Config) (input : FeeExtractionBuildInput) : Except BuildStop V3Prepared := do
  let (feeTier, path) ← orRefuse (v3Route input.routeKind) .notV3RouteKind
  let postVictim ← orRefuse
    (simulateVictimExactIn input.stateBefore input.tokenIn input.tokenOut input.victimAmountIn)
    .victimSimulationFailed
  match postVictim.stateAfter with
  | .uniswapV2 _ => .error (.refused .wrongSimulatedState)
  | .uniswapV3 poolAfter =>
    let _ ← refuseIf (poolAfter.initializedTicks = []) .tickDataMissing
    let _ ← refuseIf (effectivePayloadPriceImpactCapBps config < postVictim.slippageImpactBps)
      (.victimPriceImpactTooHigh postVictim.slippageImpactBps)
    let capitalCapToken ← orRefuse
      (nativeWeiToTokenAmount config input.tokenOut input.capitalAvailableWei)
      (.borrowTokenNormalization input.tokenOut)
    .ok
      { feeTier := feeTier
        path := path
        poolAfter := poolAfter
        victimImpactBps := postVictim.slippageImpactBps
        capitalCapToken := capitalCapToken }

def V3Prepared.candidates (prepared : V3Prepared) (config : Config) (input : FeeExtractionBuildInput) :
    List NormalizedV3Candidate :=
  normalizedV3SizeCandidates config prepared.poolAfter input.tokenIn input.tokenOut prepared.capitalCapToken
    prepared.feeTier (gasCost config input.gasPriceWei (gasEstimateV3 config)) (sizingFractions config)

def selectV3 (config : Config) (input : FeeExtractionBuildInput) (candidates : List NormalizedV3Candidate) :
    Except BuildStop NormalizedV3Candidate :=
  if payloadShadowResearchMode config then
    orRefuse (selectScavengerV3Candidate candidates) .noPositiveGrossEdge
  else
    orRefuse (selectBestV3Candidate candidates input.contextPriorityScore input.contextToxicityScore)
      .noRoiPositiveSize

/-- The status of the telemetry sample after the research mode branch. -/
def v3EdgeStatus (config : Config) : String :=
  if payloadShadowResearchMode config then
    if config.allowSend = false then "v3_shadow_ready"
    else if config.mev.opportunityMode = .scavenger then "v3_live_ready"
    else "payload_built"
  else "payload_built"

def payloadV3 (config : Config) (input : FeeExtractionBuildInput) (prepared : V3Prepared)
    (selected : NormalizedV3Candidate) (repaymentNative : ℚ) (minProfitWei : Nat) (executor : Address) :
    ExecutionPayload where
  tx := []
  calldata := encodeStartV3FlashSwap input.pair input.tokenOut selected.candidate.amountIn prepared.feeTier
    minProfitWei input.tokenIn input.recipient
    [{ router := input.router
       path := prepared.path
       amountIn := selected.candidate.amountIn
       minOut := minAmountOut config selected.candidate.amountOut }]
  targetContract := executor
  value := 0
  pair := input.pair
  ammKind := .uniswapV3 prepared.feeTier prepared.path
  capitalCommittedWei := selected.candidate.amountIn
  expectedProfitWei := simulatedProfitWei config selected.grossProfitNativeWei selected.netProfitNativeWei
  gasLimit := gasEstimateV3 config
  priceImpactBps := prepared.victimImpactBps
  profitToken := input.tokenIn
  profitRecipient := input.recipient
  contextPriorityScore := input.contextPriorityScore
  contextToxicityScore := input.contextToxicityScore
  edgeMetadata := some
    { status := v3EdgeStatus config
      gasEstimate := gasEstimateV3 config
      bestSizeBps := selected.candidate.capitalFractionBps
      amountInWei := selected.candidate.amountIn
      amountOutWei := selected.candidate.amountOut
      grossEdgeWei := selected.grossProfitNativeWei
      grossEdgeNative := weiToEth selected.grossProfitNativeWei
      repaymentWei := selected.repaymentWei
      repaymentNative := repaymentNative
      priceImpactBps := prepared.victimImpactBps
      selfSlippageBps := selected.candidate.selfSlippageBps }
  poolStateBefore := input.stateBefore

/-- From the selected V3 size to the payload. -/
def finishV3 (config : Config) (input : FeeExtractionBuildInput) (prepared : V3Prepared)
    (selected : NormalizedV3Candidate) : Except BuildStop ExecutionPayload := do
  let _ ← refuseIf (selected.grossProfitNativeWei = 0) .noNormalizedGrossEdge
  let _ ← orRefuse (tokenAmountToNative config input.tokenIn selected.candidate.amountOut)
    (.profitTokenNormalization input.tokenIn)
  let repaymentNative ← orRefuse (tokenAmountToNative config input.tokenOut selected.repaymentWei)
    (.repaymentTokenNormalization input.tokenOut)
  let minProfitWei ← effectivePayloadMinProfitWei config
  let simulatedProfit := simulatedProfitWei config selected.grossProfitNativeWei selected.netProfitNativeWei
  let _ ← refuseIf (payloadShadowResearchMode config = false ∧ simulatedProfit < minProfitWei)
    (.profitBelowMinimum simulatedProfit minProfitWei)
  let _ ← refuseIf (payloadShadowResearchMode config = true ∧ config.allowSend = true ∧
    config.mev.opportunityMode = .scavenger ∧ selected.netProfitNativeWei = 0) .zeroNetLiveEdge
  let executor ← orRefuse (config.mev.mevExecutorV3 <|> config.mev.mevExecutor) .executorMissing
  .ok (payloadV3 config input prepared selected repaymentNative minProfitWei executor)

def buildFeeExtractionV3 (config : Config) (input : FeeExtractionBuildInput) :
    Except BuildStop ExecutionPayload := do
  let prepared ← prepareV3 config input
  let selected ← selectV3 config input (prepared.candidates config input)
  finishV3 config input prepared selected

/-- Everything the preparation of a V3 build checks and computes. -/
theorem prepareV3_eq_ok {config : Config} {input : FeeExtractionBuildInput} {prepared : V3Prepared} :
    prepareV3 config input = .ok prepared ↔
      ∃ before result, input.routeKind = .uniswapV3 prepared.feeTier prepared.path ∧
        input.stateBefore = .uniswapV3 before ∧
        before.simulateExactIn input.tokenIn input.tokenOut input.victimAmountIn =
          some (prepared.poolAfter, result) ∧
        prepared.victimImpactBps = result.priceImpactBps ∧
        prepared.poolAfter.initializedTicks ≠ [] ∧
        result.priceImpactBps ≤ effectivePayloadPriceImpactCapBps config ∧
        nativeWeiToTokenAmount config input.tokenOut input.capitalAvailableWei =
          some prepared.capitalCapToken := by
  constructor
  · intro run
    obtain ⟨⟨feeTier, path⟩, route, run⟩ := Collect.bind_eq_ok_iff.mp run
    obtain ⟨postVictim, simulated, run⟩ := Collect.bind_eq_ok_iff.mp run
    rw [orRefuse_eq_ok] at route simulated
    have kind : input.routeKind = .uniswapV3 feeTier path := by
      unfold v3Route at route
      split at route
      · rename_i tier bytes same
        cases Option.some.inj route
        exact same
      · exact absurd route (by simp)
    cases before : input.stateBefore with
    | uniswapV2 pool =>
      rw [before] at simulated
      obtain ⟨⟨next, result⟩, _, simulated⟩ := Option.bind_eq_some_iff.mp simulated
      cases Option.some.inj simulated
      exact absurd run (by simp)
    | uniswapV3 pool =>
      rw [before] at simulated
      obtain ⟨⟨next, result⟩, swapped, simulated⟩ := Option.bind_eq_some_iff.mp simulated
      cases Option.some.inj simulated
      obtain ⟨_, ticks, run⟩ := Collect.bind_eq_ok_iff.mp run
      obtain ⟨_, impact, run⟩ := Collect.bind_eq_ok_iff.mp run
      obtain ⟨cap, capped, run⟩ := Collect.bind_eq_ok_iff.mp run
      cases Except.ok.inj run
      rw [refuseIf_eq_ok] at ticks
      rw [refuseIf_eq_ok, not_lt] at impact
      rw [orRefuse_eq_ok] at capped
      exact ⟨pool, result, kind, rfl, swapped, rfl, ticks, impact, capped⟩
  · rintro ⟨pool, result, kind, before, swapped, impactEq, ticks, impact, capped⟩
    have simulated : simulateVictimExactIn input.stateBefore input.tokenIn input.tokenOut input.victimAmountIn =
        some { stateAfter := .uniswapV3 prepared.poolAfter, slippageImpactBps := prepared.victimImpactBps } := by
      simp only [simulateVictimExactIn, before, swapped, impactEq, Option.bind_eq_bind, Option.bind_some]
    rw [← impactEq] at impact
    simp only [prepareV3, kind, v3Route, simulated, orRefuse, refuseIf, if_neg ticks, if_neg (not_lt.mpr impact),
      capped, Bind.bind, Except.bind]

/-- The selected V3 size is one of the candidates, and outside research mode something of it is left after the gas. -/
theorem selectV3_spec {config : Config} {input : FeeExtractionBuildInput} {candidates : List NormalizedV3Candidate}
    {selected : NormalizedV3Candidate} (chosen : selectV3 config input candidates = .ok selected) :
    selected ∈ candidates ∧ (payloadShadowResearchMode config = false → selected.netProfitNativeWei ≠ 0) := by
  unfold selectV3 at chosen
  split at chosen
  · rename_i shadow
    exact ⟨(List.mem_filter.mp (PickMax.pickMax_mem (orRefuse_eq_ok.mp chosen))).1,
      fun live => absurd (shadow.symm.trans live) (by decide)⟩
  · have member := List.mem_filter.mp (PickMax.pickMax_mem (orRefuse_eq_ok.mp chosen))
    have filtered := member.2
    simp only [decide_eq_true_eq] at filtered
    exact ⟨member.1, fun _ => filtered.2.1⟩

/-- What an accepted V3 build is made of. -/
theorem buildFeeExtractionV3_spec {config : Config} {input : FeeExtractionBuildInput} {payload : ExecutionPayload}
    (built : buildFeeExtractionV3 config input = .ok payload) :
    ∃ prepared selected repaymentNative minProfitWei executor, ∃ bps ∈ sizingFractions config,
      prepareV3 config input = .ok prepared ∧
      normalizedV3Candidate config prepared.poolAfter input.tokenIn input.tokenOut prepared.capitalCapToken
        prepared.feeTier (gasCost config input.gasPriceWei (gasEstimateV3 config)) bps = some selected ∧
      selected.grossProfitNativeWei ≠ 0 ∧
      effectivePayloadMinProfitWei config = .ok minProfitWei ∧
      (payloadShadowResearchMode config = false →
        selected.netProfitNativeWei ≠ 0 ∧ minProfitWei ≤ selected.netProfitNativeWei) ∧
      (config.mev.mevExecutorV3 <|> config.mev.mevExecutor) = some executor ∧
      payload = payloadV3 config input prepared selected repaymentNative minProfitWei executor := by
  obtain ⟨prepared, run, built⟩ := Collect.bind_eq_ok_iff.mp built
  obtain ⟨selected, chosen, built⟩ := Collect.bind_eq_ok_iff.mp built
  obtain ⟨_, gross, built⟩ := Collect.bind_eq_ok_iff.mp built
  obtain ⟨_, _, built⟩ := Collect.bind_eq_ok_iff.mp built
  obtain ⟨repaymentNative, _, built⟩ := Collect.bind_eq_ok_iff.mp built
  obtain ⟨minProfitWei, minimum, built⟩ := Collect.bind_eq_ok_iff.mp built
  obtain ⟨_, enough, built⟩ := Collect.bind_eq_ok_iff.mp built
  obtain ⟨_, _, built⟩ := Collect.bind_eq_ok_iff.mp built
  obtain ⟨executor, configured, built⟩ := Collect.bind_eq_ok_iff.mp built
  obtain ⟨member, left⟩ := selectV3_spec chosen
  obtain ⟨bps, tried, sized⟩ := normalizedV3SizeCandidates_mem member
  rw [refuseIf_eq_ok] at gross enough
  rw [orRefuse_eq_ok] at configured
  refine ⟨prepared, selected, repaymentNative, minProfitWei, executor, bps, tried, run, sized, gross, minimum, ?_,
    configured, (Except.ok.inj built).symm⟩
  intro live
  simp only [live, simulatedProfitWei, Bool.false_eq_true, if_false, true_and, not_lt] at enough
  exact ⟨left live, enough⟩

end ArbitrageRuntime
