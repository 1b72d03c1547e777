import ArbitrageRuntime.Builder.Thresholds
import ArbitrageRuntime.Builder.SizingV2

namespace ArbitrageRuntime

/-- What the V2 builder fixes before it tries sizes. -/
structure V2Prepared where
  poolAfter : V2PoolState
  victimImpactBps : Nat
  borrowReserve : Nat
  profitReserve : Nat
  capitalCapToken : Nat

def prepareV2 (config : Config) (input : FeeExtractionBuildInput) : Except BuildStop V2Prepared := do
  let postVictim ← orRefuse
    (simulateVictimExactIn input.stateBefore input.tokenIn input.tokenOut input.victimAmountIn)
    .victimSimulationFailed
  match postVictim.stateAfter with
  | .uniswapV3 _ => .error (.refused .wrongSimulatedState)
  | .uniswapV2 poolAfter =>
    let _ ← refuseIf (effectivePayloadPriceImpactCapBps config < postVictim.slippageImpactBps)
      (.victimPriceImpactTooHigh postVictim.slippageImpactBps)
    let (reserveIn, reserveOut) ← orRefuse (poolAfter.reservesFor input.tokenOut input.tokenIn) .noReversePath
    let capitalCapToken ← orRefuse
      (v2BorrowCapFromNative config input.tokenOut input.tokenIn input.capitalAvailableWei reserveIn reserveOut)
      (.borrowTokenNormalization input.tokenOut)
    .ok
      { poolAfter := poolAfter
        victimImpactBps := postVictim.slippageImpactBps
        borrowReserve := reserveIn
        profitReserve := reserveOut
        capitalCapToken := capitalCapToken }

def swapPathV2 (input : FeeExtractionBuildInput) : List Address :=
  input.v2SwapPath.getD [input.tokenOut, input.tokenIn]

def routePoolsV2 (input : FeeExtractionBuildInput) (poolAfter : V2PoolState) : List V2PoolState :=
  if input.v2SwapPools.isEmpty then [poolAfter] else input.v2SwapPools

def V2Prepared.sizing (prepared : V2Prepared) (config : Config) (input : FeeExtractionBuildInput) :
    V2SizingInput where
  borrowReserve := prepared.borrowReserve
  profitReserve := prepared.profitReserve
  routePath := swapPathV2 input
  routePools := routePoolsV2 input prepared.poolAfter
  capitalCap := prepared.capitalCapToken
  profitToken := input.tokenIn
  gasCostWei := gasCost config input.gasPriceWei (gasEstimateV2 config)
  feeBps := prepared.poolAfter.feeBps
  scavenger := config.mev.opportunityMode = .scavenger

def selectV2 (config : Config) (input : FeeExtractionBuildInput) (candidates : List SizeCandidate) :
    Except BuildStop SizeCandidate :=
  if payloadShadowResearchMode config then
    orRefuse (selectScavengerV2Candidate candidates) .noPositiveGrossEdge
  else
    orRefuse (selectBestSizeCandidate candidates input.contextPriorityScore input.contextToxicityScore)
      .noRoiPositiveSize

/-- The repayment the builder books for the selected size, zero when there is none. -/
def V2Prepared.repaymentWei (prepared : V2Prepared) (selected : SizeCandidate) : Nat :=
  (v2RepaymentAmountInProfitToken prepared.borrowReserve prepared.profitReserve selected.amountIn).getD 0

def payloadV2 (config : Config) (input : FeeExtractionBuildInput) (prepared : V2Prepared)
    (selected : SizeCandidate) (repaymentNative : ℚ) (minProfitWei : Nat) (executor : Address) :
    ExecutionPayload where
  tx := []
  calldata := encodeStartV2FlashSwap input.pair input.tokenOut selected.amountIn minProfitWei
    input.tokenIn input.recipient
    [{ router := input.router
       path := swapPathV2 input
       amountIn := selected.amountIn
       minOut := minAmountOut config selected.amountOut }]
  targetContract := executor
  value := 0
  pair := input.pair
  ammKind := .uniswapV2
  capitalCommittedWei := selected.amountIn
  expectedProfitWei := simulatedProfitWei config selected.grossProfitWei selected.netProfitWei
  gasLimit := gasEstimateV2 config
  priceImpactBps := prepared.victimImpactBps
  profitToken := input.tokenIn
  profitRecipient := input.recipient
  contextPriorityScore := input.contextPriorityScore
  contextToxicityScore := input.contextToxicityScore
  edgeMetadata := some
    { status := "payload_built"
      gasEstimate := gasEstimateV2 config
      bestSizeBps := selected.capitalFractionBps
      amountInWei := selected.amountIn
      amountOutWei := selected.amountOut
      grossEdgeWei := selected.grossProfitWei
      grossEdgeNative := weiToEth selected.grossProfitWei
      repaymentWei := prepared.repaymentWei selected
      repaymentNative := repaymentNative
      priceImpactBps := prepared.victimImpactBps
      selfSlippageBps := selected.selfSlippageBps }
  poolStateBefore := input.stateBefore

/-- From the selected size to the payload. -/
def finishV2 (config : Config) (input : FeeExtractionBuildInput) (prepared : V2Prepared)
    (selected : SizeCandidate) : Except BuildStop ExecutionPayload := do
  let repaymentNative ← orRefuse (tokenAmountToNative config input.tokenIn (prepared.repaymentWei selected))
    (.profitTokenNormalization input.tokenIn)
  let minProfitWei ← effectivePayloadMinProfitWei config
  let simulatedProfit := simulatedProfitWei config selected.grossProfitWei selected.netProfitWei
  let _ ← refuseIf (payloadShadowResearchMode config = false ∧ simulatedProfit < minProfitWei)
    (.profitBelowMinimum simulatedProfit minProfitWei)
  let executor ← orRefuse config.mev.mevExecutor .executorMissing
  .ok (payloadV2 config input prepared selected repaymentNative minProfitWei executor)

def buildFeeExtractionV2 (config : Config) (input : FeeExtractionBuildInput) :
    Except BuildStop ExecutionPayload := do
  let prepared ← prepareV2 config input
  let candidates ← feeExtractionV2SizeCandidates config (prepared.sizing config input) (sizingFractions config)
  let selected ← selectV2 config input candidates
  finishV2 config input prepared selected

theorem buildFeeExtractionV2_eq_ok {config : Config} {input : FeeExtractionBuildInput} {payload : ExecutionPayload} :
    buildFeeExtractionV2 config input = .ok payload ↔
      ∃ prepared candidates selected, prepareV2 config input = .ok prepared ∧
        feeExtractionV2SizeCandidates config (prepared.sizing config input) (sizingFractions config) =
          .ok candidates ∧
        selectV2 config input candidates = .ok selected ∧
        finishV2 config input prepared selected = .ok payload := by
  simp only [buildFeeExtractionV2, Collect.bind_eq_ok_iff]
  constructor
  · rintro ⟨prepared, run, candidates, sized, selected, chosen, finished⟩
    exact ⟨prepared, candidates, selected, run, sized, chosen, finished⟩
  · rintro ⟨prepared, candidates, selected, run, sized, chosen, finished⟩
    exact ⟨prepared, run, candidates, sized, selected, chosen, finished⟩

/-- Everything the preparation of a V2 build checks and computes. -/
theorem prepareV2_eq_ok {config : Config} {input : FeeExtractionBuildInput} {prepared : V2Prepared} :
    prepareV2 config input = .ok prepared ↔
      ∃ before result, input.stateBefore = .uniswapV2 before ∧
        before.applySwapExactIn input.tokenIn input.tokenOut input.victimAmountIn =
          some (prepared.poolAfter, result) ∧
        prepared.victimImpactBps = result.priceImpactBps ∧
        result.priceImpactBps ≤ effectivePayloadPriceImpactCapBps config ∧
        prepared.poolAfter.reservesFor input.tokenOut input.tokenIn =
          some (prepared.borrowReserve, prepared.profitReserve) ∧
        v2BorrowCapFromNative config input.tokenOut input.tokenIn input.capitalAvailableWei
          prepared.borrowReserve prepared.profitReserve = some prepared.capitalCapToken := by
  constructor
  · intro run
    obtain ⟨postVictim, simulated, run⟩ := Collect.bind_eq_ok_iff.mp run
    rw [orRefuse_eq_ok] at simulated
    cases before : input.stateBefore with
    | uniswapV3 pool =>
      rw [before] at simulated
      obtain ⟨⟨next, result⟩, _, simulated⟩ := Option.bind_eq_some_iff.mp simulated
      cases Option.some.inj simulated
      exact absurd run (by simp)
    | uniswapV2 pool =>
      rw [before] at simulated
      obtain ⟨⟨next, result⟩, swapped, simulated⟩ := Option.bind_eq_some_iff.mp simulated
      cases Option.some.inj simulated
      obtain ⟨_, impact, run⟩ := Collect.bind_eq_ok_iff.mp run
      obtain ⟨⟨reserveIn, reserveOut⟩, reserves, run⟩ := Collect.bind_eq_ok_iff.mp run
      obtain ⟨cap, capped, run⟩ := Collect.bind_eq_ok_iff.mp run
      cases Except.ok.inj run
      rw [refuseIf_eq_ok, not_lt] at impact
      rw [orRefuse_eq_ok] at reserves capped
      exact ⟨pool, result, rfl, swapped, rfl, impact, reserves, capped⟩
  · rintro ⟨pool, result, before, swapped, impactEq, impact, reserves, capped⟩
    have simulated : simulateVictimExactIn input.stateBefore input.tokenIn input.tokenOut input.victimAmountIn =
        some { stateAfter := .uniswapV2 prepared.poolAfter, slippageImpactBps := prepared.victimImpactBps } := by
      simp only [simulateVictimExactIn, before, swapped, impactEq, Option.bind_eq_bind, Option.bind_some]
    rw [← impactEq] at impact
    simp only [prepareV2, simulated, orRefuse, refuseIf, if_neg (not_lt.mpr impact), reserves, capped,
      Bind.bind, Except.bind]

theorem finishV2_eq_ok {config : Config} {input : FeeExtractionBuildInput} {prepared : V2Prepared}
    {selected : SizeCandidate} {payload : ExecutionPayload} :
    finishV2 config input prepared selected = .ok payload ↔
      ∃ repaymentNative minProfitWei executor,
        tokenAmountToNative config input.tokenIn (prepared.repaymentWei selected) = some repaymentNative ∧
        effectivePayloadMinProfitWei config = .ok minProfitWei ∧
        (payloadShadowResearchMode config = false → minProfitWei ≤ selected.netProfitWei) ∧
        config.mev.mevExecutor = some executor ∧
        payload = payloadV2 config input prepared selected repaymentNative minProfitWei executor := by
  constructor
  · intro run
    obtain ⟨repaymentNative, worth, run⟩ := Collect.bind_eq_ok_iff.mp run
    obtain ⟨minProfitWei, minimum, run⟩ := Collect.bind_eq_ok_iff.mp run
    obtain ⟨_, enough, run⟩ := Collect.bind_eq_ok_iff.mp run
    obtain ⟨executor, configured, run⟩ := Collect.bind_eq_ok_iff.mp run
    rw [orRefuse_eq_ok] at worth configured
    rw [refuseIf_eq_ok] at enough
    refine ⟨repaymentNative, minProfitWei, executor, worth, minimum, ?_, configured, (Except.ok.inj run).symm⟩
    intro live
    simp only [live, simulatedProfitWei, Bool.false_eq_true, if_false, true_and, not_lt] at enough
    exact enough
  · rintro ⟨repaymentNative, minProfitWei, executor, worth, minimum, enough, configured, rfl⟩
    have passes : ¬ (payloadShadowResearchMode config = false ∧
        simulatedProfitWei config selected.grossProfitWei selected.netProfitWei < minProfitWei) := by
      rintro ⟨live, below⟩
      simp only [live, simulatedProfitWei, Bool.false_eq_true, if_false] at below
      exact absurd (enough live) (not_le.mpr below)
    simp only [finishV2, worth, minimum, configured, orRefuse, refuseIf, if_neg passes, Bind.bind, Except.bind]

/-- The selected size is one of the candidates, and research mode selects only a positive gross edge. -/
theorem selectV2_spec {config : Config} {input : FeeExtractionBuildInput} {candidates : List SizeCandidate}
    {selected : SizeCandidate} (chosen : selectV2 config input candidates = .ok selected) :
    selected ∈ candidates ∧ (payloadShadowResearchMode config = true → selected.grossProfitWei ≠ 0) := by
  unfold selectV2 at chosen
  split at chosen
  · have member := PickMax.pickMax_mem (orRefuse_eq_ok.mp chosen)
    rw [List.mem_filter] at member
    have filtered := member.2
    simp only [decide_eq_true_eq] at filtered
    exact ⟨member.1, fun _ => filtered.2.1⟩
  · rename_i live
    exact ⟨PickMax.pickMax_mem (orRefuse_eq_ok.mp chosen), fun shadow => absurd shadow live⟩

/-- A candidate that passes the research filter is enough for a selection in every mode. -/
theorem selectV2_exists {config : Config} {input : FeeExtractionBuildInput} {candidates : List SizeCandidate}
    {size : SizeCandidate} (member : size ∈ candidates) (sized : size.amountIn ≠ 0)
    (positive : size.grossProfitWei ≠ 0) (flat : size.selfSlippageBps ≤ 2500) :
    ∃ selected, selectV2 config input candidates = .ok selected := by
  unfold selectV2
  split
  · have kept : size ∈ candidates.filter fun candidate =>
        candidate.amountIn ≠ 0 ∧ candidate.grossProfitWei ≠ 0 ∧ candidate.selfSlippageBps ≤ 2500 := by
      rw [List.mem_filter]
      exact ⟨member, by simp [sized, positive, flat]⟩
    obtain ⟨selected, found⟩ := PickMax.pickMax_exists SizeCandidate.grossProfitWei (List.ne_nil_of_mem kept)
    exact ⟨selected, orRefuse_eq_ok.mpr found⟩
  · obtain ⟨selected, found⟩ := PickMax.pickMax_exists
      (sizingScore (clamp 0 (3 / 2) input.contextPriorityScore) (clamp 0 1 input.contextToxicityScore))
      (List.ne_nil_of_mem member)
    exact ⟨selected, orRefuse_eq_ok.mpr found⟩

/-- The last candidate is selected when no other has a greater gross profit or a greater score. -/
theorem selectV2_last {config : Config} {input : FeeExtractionBuildInput} {sizes : List SizeCandidate}
    {last : SizeCandidate} (sized : last.amountIn ≠ 0) (positive : last.grossProfitWei ≠ 0)
    (flat : last.selfSlippageBps ≤ 2500) (greatestGross : ∀ size ∈ sizes, size.grossProfitWei ≤ last.grossProfitWei)
    (greatestScore : ∀ size ∈ sizes,
      sizingScore (clamp 0 (3 / 2) input.contextPriorityScore) (clamp 0 1 input.contextToxicityScore) size ≤
        sizingScore (clamp 0 (3 / 2) input.contextPriorityScore) (clamp 0 1 input.contextToxicityScore) last) :
    selectV2 config input (sizes ++ [last]) = .ok last := by
  unfold selectV2
  split
  · refine orRefuse_eq_ok.mpr ?_
    have kept : (sizes ++ [last]).filter (fun candidate =>
        candidate.amountIn ≠ 0 ∧ candidate.grossProfitWei ≠ 0 ∧ candidate.selfSlippageBps ≤ 2500) =
        sizes.filter (fun candidate =>
          candidate.amountIn ≠ 0 ∧ candidate.grossProfitWei ≠ 0 ∧ candidate.selfSlippageBps ≤ 2500) ++ [last] := by
      simp [List.filter_append, sized, positive, flat]
    rw [selectScavengerV2Candidate, kept]
    exact PickMax.pickMax_concat _ _ fun size member => greatestGross size (List.mem_filter.mp member).1
  · exact orRefuse_eq_ok.mpr (PickMax.pickMax_concat _ _ greatestScore)

/-- Every candidate of the sizing loop comes from one of the fractions. -/
theorem feeExtractionV2SizeCandidates_mem {config : Config} {sizing : V2SizingInput} {fractionsBps : List Nat}
    {candidates : List SizeCandidate} {size : SizeCandidate}
    (sized : feeExtractionV2SizeCandidates config sizing fractionsBps = .ok candidates)
    (member : size ∈ candidates) :
    ∃ bps ∈ fractionsBps, sizing.candidate config bps = .ok (some size) := by
  unfold feeExtractionV2SizeCandidates at sized
  split at sized
  · cases Except.ok.inj sized
    exact absurd member (by simp)
  · exact Collect.collect_mem sized member

/-- What an accepted V2 build is made of: the prepared state, the fraction and the size it selected. -/
theorem buildFeeExtractionV2_spec {config : Config} {input : FeeExtractionBuildInput} {payload : ExecutionPayload}
    (built : buildFeeExtractionV2 config input = .ok payload) :
    ∃ prepared selected repaymentNative minProfitWei executor, ∃ bps ∈ sizingFractions config,
      prepareV2 config input = .ok prepared ∧
      (prepared.sizing config input).candidate config bps = .ok (some selected) ∧
      (payloadShadowResearchMode config = true → selected.grossProfitWei ≠ 0) ∧
      effectivePayloadMinProfitWei config = .ok minProfitWei ∧
      (payloadShadowResearchMode config = false → minProfitWei ≤ selected.netProfitWei) ∧
      config.mev.mevExecutor = some executor ∧
      payload = payloadV2 config input prepared selected repaymentNative minProfitWei executor := by
  obtain ⟨prepared, candidates, selected, run, sized, chosen, finished⟩ := buildFeeExtractionV2_eq_ok.mp built
  obtain ⟨repaymentNative, minProfitWei, executor, _, minimum, enough, configured, result⟩ :=
    finishV2_eq_ok.mp finished
  obtain ⟨member, positive⟩ := selectV2_spec chosen
  obtain ⟨bps, tried, pushed⟩ := feeExtractionV2SizeCandidates_mem sized member
  exact ⟨prepared, selected, repaymentNative, minProfitWei, executor, bps, tried, run, pushed, positive, minimum,
    enough, configured, result⟩

/-- A victim who buys token 2 on a balanced pair, with a second pair that pays twice as much of token 1
for it. -/
def secondPairInput : FeeExtractionBuildInput where
  router := 40
  pair := 30
  recipient := 12
  tokenIn := 1
  tokenOut := 2
  victimAmountIn := 10 ^ 18
  stateBefore := .uniswapV2
    { pair := 30, token0 := 1, token1 := 2, reserve0 := 10 ^ 21, reserve1 := 10 ^ 21, feeBps := 30 }
  capitalAvailableWei := 10 ^ 17
  gasPriceWei := 10 ^ 9
  contextPriorityScore := 1 / 2
  contextToxicityScore := 1 / 2
  routeKind := .uniswapV2
  v2SwapPath := some [2, 1]
  v2SwapPools :=
    [{ pair := 31, token0 := 1, token1 := 2, reserve0 := 2 * 10 ^ 21, reserve1 := 10 ^ 21, feeBps := 30 }]

theorem secondPairInput_builds : ∃ payload, buildFeeExtractionV2 testConfig secondPairInput = .ok payload ∧
    decide (payload.targetContract ≠ 0) = true :=
  Collect.exists_of_holdsOf (by decide +kernel)

end ArbitrageRuntime
