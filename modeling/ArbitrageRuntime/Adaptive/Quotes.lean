import ArbitrageRuntime.Adaptive.Scores

namespace ArbitrageRuntime.Adaptive

structure AdaptiveQuoteInput where
  cluster : ClusterKey
  pair : Address
  hourUtc : Nat
  contextPriorityScore : ℚ
  contextToxicityScore : ℚ
  expectedProfitWei : Nat
  executionCostWei : Nat
  gasPriceWei : Nat
  lookupLatencyMs : ℚ
  notionalEth : ℚ
  priceImpactBps : Nat
  relayPressureOverride : Option ℚ

structure PreflightInput where
  cluster : ClusterKey
  notionalEth : ℚ
  gasPriceWei : Nat
  pathLen : Nat

structure PreflightQuote where
  shouldContinue : Bool
  regime : MarketRegime
  rejectReason : Option String
  preflightScore : ℚ
  upperBoundEvUsd : ℚ
  estimatedGasCostUsd : ℚ
  mempoolDensity : ℚ
  clusterHeat : ℚ
  gasPressure : ℚ
  impactHint : ℚ
  sizeScore : ℚ
  deriving DecidableEq

structure AdaptiveQuote where
  shouldExecute : Bool
  regime : MarketRegime
  rejectReason : Option String
  selectedRelay : Option String
  evRealUsd : ℚ
  thresholdDynamicUsd : ℚ
  pPositive : ℚ
  competitionScore : ℚ
  riskScore : ℚ
  competitionPenaltyUsd : ℚ
  riskPenaltyUsd : ℚ
  pathPenaltyUsd : ℚ
  mempoolDensity : ℚ
  clusterHeat : ℚ
  builderPressure : ℚ
  latencyPenalty : ℚ
  gasPressure : ℚ
  contextPriorityScore : ℚ
  contextToxicityScore : ℚ
  deriving DecidableEq

structure RelayQuote where
  relay : String
  relayPressure : ℚ
  acceptRate : ℚ
  inclusionRate : ℚ
  acceptedNotIncludedRate : ℚ
  revertRate : ℚ
  submitLatencyMs : ℚ
  finalizationLatencyMs : ℚ
  score : ℚ

namespace AdaptivePolicy

variable (policy : AdaptivePolicy)

/-- The answer of `preflight_score` from the flows that are left after pruning. -/
def preflightQuote (curves : Curves) (now : Instant) (input : PreflightInput) : PreflightQuote :=
  let mempoolDensity := policy.mempoolDensity
  let clusterHeat := policy.clusterHeat curves input.cluster now
  let gasPressure := policy.gasPressure (weiToGwei input.gasPriceWei)
  let sizeScore := curves.sizePressure input.notionalEth
  let impactHint := policy.impactHint curves input.notionalEth input.pathLen
  let pathPenalty := pathPenalty input.pathLen
  let builderPressure := policy.builderPathPressure
  let regime := marketRegime mempoolDensity clusterHeat gasPressure (policy.latencyPenalty policy.lookupLatencyEwmaMs)
    policy.failurePressure policy.poorRealization builderPressure
  let gasFloorUsd := weiToEth (u256Mul input.gasPriceWei policy.preflightGasEstimate) * policy.ethUsdPrice
  let notionalUsd := max input.notionalEth 0 * policy.ethUsdPrice
  let grossEdgeUpperUsd := notionalUsd * (0.00020 + impactHint * 0.00115) * (1 - clusterHeat * 0.16) *
    (1 - pathPenalty * 0.12)
  let gasDragUsd := gasFloorUsd * (1 + gasPressure * 0.85)
  let competitionDragUsd := grossEdgeUpperUsd * (clusterHeat * 0.42 + mempoolDensity * 0.18 + gasPressure * 0.12)
  let upperBoundEvUsd := grossEdgeUpperUsd - gasDragUsd - competitionDragUsd
  let preflightScore := clamp 0 1 (impactHint * 0.36 + sizeScore * 0.24 + (1 - clusterHeat) * 0.20 +
    (1 - mempoolDensity) * 0.10 + (1 - gasPressure) * 0.10 - pathPenalty * 0.10)
  let minPreflightEv := policy.baseThresholdUsd * 0.55
  let shouldContinue : Bool := policy.minLargeSwapEth ≤ input.notionalEth ∧ minPreflightEv < upperBoundEvUsd ∧
    0.28 ≤ preflightScore ∧ 0.18 ≤ impactHint ∧ clusterHeat ≤ 0.92 ∧ gasPressure ≤ 0.96 ∧ builderPressure ≤ 0.94
  let rejectReason :=
    if shouldContinue then none
    else if input.notionalEth < policy.minLargeSwapEth then some "notional_below_min"
    else if upperBoundEvUsd ≤ minPreflightEv then some "ev_upper_bound_below_min"
    else if preflightScore < 0.28 then some "preflight_score_too_low"
    else if impactHint < 0.18 then some "impact_hint_too_low"
    else if 0.92 < clusterHeat then some "cluster_saturated"
    else if 0.96 < gasPressure then some "gas_pressure_too_high"
    else if 0.94 < builderPressure then some "builder_path_toxic"
    else some "preflight_reject"
  { shouldContinue := shouldContinue
    regime := regime
    rejectReason := rejectReason
    preflightScore := preflightScore
    upperBoundEvUsd := upperBoundEvUsd
    estimatedGasCostUsd := gasDragUsd
    mempoolDensity := mempoolDensity
    clusterHeat := clusterHeat
    gasPressure := gasPressure
    impactHint := impactHint
    sizeScore := sizeScore }

def preflightScore (curves : Curves) (now : Instant) (input : PreflightInput) : AdaptivePolicy × PreflightQuote :=
  (policy.prune now, (policy.prune now).preflightQuote curves now input)

/-- The answer of `quote` from the flows that are left after pruning. -/
def adaptiveQuote (curves : Curves) (now : Instant) (input : AdaptiveQuoteInput) : AdaptiveQuote :=
  let expectedProfitUsd := weiToEth input.expectedProfitWei * policy.ethUsdPrice
  let gasCostUsd := weiToEth input.executionCostWei * policy.ethUsdPrice
  let mempoolDensity := policy.mempoolDensity
  let clusterHeat := policy.clusterHeat curves input.cluster now
  let gasPressure := policy.gasPressure (weiToGwei input.gasPriceWei)
  let sizePressure := curves.sizePressure input.notionalEth
  let impactPressure := clamp 0 1 (input.priceImpactBps / policy.maxPriceImpactBps)
  let latencyPenalty := policy.latencyPenalty input.lookupLatencyMs
  let failurePressure := policy.failurePressure
  let poorRealization := policy.poorRealization
  let historical := policy.historicalProfiles ⟨input.cluster.router, input.pair, input.hourUtc⟩
  let pathPressure := input.relayPressureOverride.getD (policy.builderPathPressureForCluster none input.cluster)
  let historicalPressure := (historical.map HistoricalOutcomeStats.pressure).getD 0
  let historicalConfidence := (historical.map HistoricalOutcomeStats.confidence).getD 0
  let historicalCalibration := (historical.map fun profile => profile.calibration historicalConfidence).getD .default
  let builderPressure := clamp 0 1 (pathPressure * (1 - historicalConfidence * 0.45) +
    historicalPressure * historicalConfidence * 0.55)
  let regime := recalibratedRegime (marketRegime mempoolDensity clusterHeat gasPressure latencyPenalty failurePressure
    poorRealization builderPressure) historicalCalibration.regimeShift
  let contextPriorityScore := clamp 0 1.5 input.contextPriorityScore
  let contextToxicityScore := clamp 0 1 input.contextToxicityScore
  let competitionScore := clamp 0 1 (curves.competitionScore clusterHeat mempoolDensity gasPressure sizePressure
      impactPressure builderPressure regime * policy.chainCompetitionMult *
    (1 + (1 - clamp 0 1 contextPriorityScore) * 0.06) * (1 + contextToxicityScore * 0.20) *
    max historicalCalibration.competitionMult (1 / 10 ^ 9))
  let riskScore := clamp 0 1 (curves.riskScore failurePressure latencyPenalty poorRealization gasPressure
      impactPressure builderPressure regime * policy.chainRiskMult *
    (1 + contextToxicityScore * 0.24) * (1 - clamp 0 1 contextPriorityScore * 0.08) *
    max historicalCalibration.riskMult (1 / 10 ^ 9))
  let pPresent := probabilityPositive competitionScore riskScore failurePressure latencyPenalty poorRealization
    gasPressure builderPressure regime
  let pPositive := match historical with
    | some profile => clamp 0.04 0.99 (pPresent * (1 - historicalConfidence * 0.40) +
        profile.target * historicalConfidence * 0.40)
    | none => pPresent
  let competitionPenaltyUsd := curves.competitionPenalty expectedProfitUsd competitionScore clusterHeat builderPressure
    regime
  let riskPenaltyUsd := curves.riskPenalty expectedProfitUsd riskScore failurePressure builderPressure regime
  let pathPenaltyUsd := pathExecutionPenaltyUsd expectedProfitUsd builderPressure failurePressure latencyPenalty
    gasPressure contextToxicityScore
  let evRealUsd := pPositive * expectedProfitUsd - gasCostUsd - competitionPenaltyUsd - riskPenaltyUsd - pathPenaltyUsd
  let thresholdPresentUsd := policy.dynamicThreshold mempoolDensity failurePressure gasPressure latencyPenalty
      poorRealization clusterHeat builderPressure regime * policy.chainThresholdMult *
    (1 + contextToxicityScore * 0.18) * (1 - clamp 0 1 contextPriorityScore * 0.08) *
    max historicalCalibration.thresholdMult (1 / 10 ^ 9)
  let thresholdDynamicUsd := match historical with
    | some profile => thresholdPresentUsd * (1 + profile.thresholdPenalty * historicalConfidence * 0.75)
    | none => thresholdPresentUsd
  let shouldExecute : Bool := thresholdDynamicUsd < evRealUsd ∧ minProbabilityThreshold regime ≤ pPositive ∧
    competitionScore ≤ maxCompetitionThreshold regime ∧ riskScore ≤ maxRiskThreshold regime
  let rejectReason :=
    if shouldExecute then none
    else if evRealUsd ≤ thresholdDynamicUsd then some "ev_real_below_threshold"
    else if pPositive < minProbabilityThreshold regime then some "probability_too_low"
    else if maxCompetitionThreshold regime < competitionScore then some "competition_too_high"
    else if maxRiskThreshold regime < riskScore then some "risk_too_high"
    else if 0.76 < builderPressure then some "builder_pressure_too_high"
    else some "adaptive_reject"
  { shouldExecute := shouldExecute
    regime := regime
    rejectReason := rejectReason
    selectedRelay := none
    evRealUsd := evRealUsd
    thresholdDynamicUsd := thresholdDynamicUsd
    pPositive := pPositive
    competitionScore := competitionScore
    riskScore := riskScore
    competitionPenaltyUsd := competitionPenaltyUsd
    riskPenaltyUsd := riskPenaltyUsd
    pathPenaltyUsd := pathPenaltyUsd
    mempoolDensity := mempoolDensity
    clusterHeat := clusterHeat
    builderPressure := builderPressure
    latencyPenalty := latencyPenalty
    gasPressure := gasPressure
    contextPriorityScore := contextPriorityScore
    contextToxicityScore := contextToxicityScore }

def quote (curves : Curves) (now : Instant) (input : AdaptiveQuoteInput) : AdaptivePolicy × AdaptiveQuote :=
  (policy.prune now, (policy.prune now).adaptiveQuote curves now input)

def relayQuote (relay : String) : RelayQuote :=
  let stats := policy.relayStats relay
  let relayPressure := policy.builderPathPressureForRelay relay
  let acceptRate := (stats.map RelayStats.relayAcceptRateEwma).getD policy.relayAcceptRateEwma
  let inclusionRate := (stats.map RelayStats.inclusionSuccessRateEwma).getD policy.inclusionSuccessRateEwma
  let acceptedNotIncludedRate :=
    (stats.map RelayStats.acceptedNotIncludedRateEwma).getD policy.acceptedNotIncludedRateEwma
  let revertRate := (stats.map RelayStats.includedRevertRateEwma).getD policy.includedRevertRateEwma
  let submitLatencyMs := (stats.map RelayStats.submitLatencyEwmaMs).getD policy.submitLatencyEwmaMs
  let finalizationLatencyMs := (stats.map RelayStats.finalizationLatencyEwmaMs).getD policy.finalizeLatencyEwmaMs
  { relay := relay
    relayPressure := relayPressure
    acceptRate := acceptRate
    inclusionRate := inclusionRate
    acceptedNotIncludedRate := acceptedNotIncludedRate
    revertRate := revertRate
    submitLatencyMs := submitLatencyMs
    finalizationLatencyMs := finalizationLatencyMs
    score := relayPressure * 0.48 + clamp 0 1 (1 - acceptRate) * 0.20 + clamp 0 1 acceptedNotIncludedRate * 0.14 +
      clamp 0 1 revertRate * 0.08 + clamp 0 1 (1 - inclusionRate) * 0.05 +
      excess submitLatencyMs submitTargetMs * 0.03 + excess finalizationLatencyMs finalizeTargetMs * 0.02 }

def rankRelays (relays : List String) : List RelayQuote :=
  (relays.map policy.relayQuote).insertionSort fun left right => left.score ≤ right.score

end AdaptivePolicy

def isBetterQuote (candidate current : AdaptiveQuote) : Bool :=
  let candidateMargin := candidate.evRealUsd - candidate.thresholdDynamicUsd
  let currentMargin := current.evRealUsd - current.thresholdDynamicUsd
  if candidate.shouldExecute ≠ current.shouldExecute then candidate.shouldExecute
  else if epsilon < |candidateMargin - currentMargin| then currentMargin < candidateMargin
  else if epsilon < |candidate.pPositive - current.pPositive| then current.pPositive < candidate.pPositive
  else candidate.builderPressure < current.builderPressure

namespace AdaptivePolicy

/-- The quotes of the further relays, each taken at a time of its own, against the best one so far. -/
def quoteFurtherRelays (curves : Curves) (input : AdaptiveQuoteInput) (times : Nat → Instant) :
    Nat → AdaptivePolicy × AdaptiveQuote → List RelayQuote → AdaptivePolicy × AdaptiveQuote
  | _, best, [] => best
  | i, (policy, best), relay :: relays =>
    let pressure := policy.builderPathPressureForCluster (some relay.relay) input.cluster
    let (policy, candidate) := policy.quote curves (times i) { input with relayPressureOverride := some pressure }
    let named := { candidate with selectedRelay := some relay.relay }
    quoteFurtherRelays curves input times (i + 1) (policy, if isBetterQuote named best then named else best) relays

def quoteForRelays (policy : AdaptivePolicy) (curves : Curves) (times : Nat → Instant) (input : AdaptiveQuoteInput)
    (relays : List String) : AdaptivePolicy × AdaptiveQuote :=
  let ranked := policy.rankRelays relays
  let pressure := ranked.head?.map fun relay => policy.builderPathPressureForCluster (some relay.relay) input.cluster
  let (policy, first) := policy.quote curves (times 0) { input with relayPressureOverride := pressure }
  let best := match ranked.head? with
    | some relay => { first with selectedRelay := some relay.relay }
    | none => first
  quoteFurtherRelays curves input times 1 (policy, best) ranked.tail

section

variable {curves : Curves} {input : AdaptiveQuoteInput} {times : Nat → Instant} {Keeps : AdaptivePolicy → Prop}
  {Holds : AdaptiveQuote → Prop} (pruned : ∀ policy now, Keeps policy → Keeps (policy.prune now))

include pruned in
theorem quoteFurtherRelays_policy (relays : List RelayQuote) (i : Nat) {best : AdaptivePolicy × AdaptiveQuote}
    (kept : Keeps best.1) : Keeps (quoteFurtherRelays curves input times i best relays).1 := by
  induction relays generalizing i best with
  | nil => exact kept
  | cons relay relays ih => exact ih (i + 1) (pruned _ (times i) kept)

include pruned in
/-- The quotes of the relays do no more to the policy than to prune its flows. -/
theorem quoteForRelays_policy {policy : AdaptivePolicy} (relays : List String) (kept : Keeps policy) :
    Keeps (policy.quoteForRelays curves times input relays).1 :=
  quoteFurtherRelays_policy pruned _ 1 (pruned policy (times 0) kept)

variable (quoted : ∀ policy now override relay, Keeps policy →
  Holds { policy.adaptiveQuote curves now { input with relayPressureOverride := override } with
    selectedRelay := relay })

include pruned quoted in
theorem quoteFurtherRelays_quote (relays : List RelayQuote) (i : Nat) {best : AdaptivePolicy × AdaptiveQuote}
    (kept : Keeps best.1) (holds : Holds best.2) :
    Holds (quoteFurtherRelays curves input times i best relays).2 := by
  induction relays generalizing i best with
  | nil => exact holds
  | cons relay relays ih =>
    have next : Keeps (best.1.prune (times i)) := pruned _ (times i) kept
    refine ih (i + 1) next ?_
    dsimp only
    split
    · exact quoted _ (times i) _ (some relay.relay) next
    · exact holds

include pruned quoted in
/-- What every quote of one relay has, the best of them has. -/
theorem quoteForRelays_quote {policy : AdaptivePolicy} (relays : List String) (kept : Keeps policy) :
    Holds (policy.quoteForRelays curves times input relays).2 := by
  have next : Keeps (policy.prune (times 0)) := pruned policy (times 0) kept
  refine quoteFurtherRelays_quote pruned quoted _ 1 next ?_
  dsimp only
  split
  · exact quoted _ (times 0) _ _ next
  · exact quoted _ (times 0) _ none next

end

end AdaptivePolicy

end ArbitrageRuntime.Adaptive
