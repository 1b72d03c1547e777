import ArbitrageRuntime.Storage.Tables
import ArbitrageRuntime.Adaptive.Policy

namespace ArbitrageRuntime.Storage

/-- The rows of one pair and router at one hour. -/
structure OutcomeContext where
  hourUtc : Nat
  pair : String
  router : String
  deriving DecidableEq

def ExecutionOutcomeRow.context (row : ExecutionOutcomeRow) : OutcomeContext where
  hourUtc := hourUtc row.recordedAt
  pair := row.pair
  router := row.router

def average (values : List ℚ) : ℚ := values.sum / values.length

def outcomeRate (outcome : String) (rows : List ExecutionOutcomeRow) : ℚ :=
  average (rows.map fun row => if row.outcome = outcome then 1 else 0)

def realizedCapture (rows : List ExecutionOutcomeRow) : ℚ :=
  average (rows.map fun row =>
    if 0 < row.expectedProfitEth then min (max (row.realizedProfitEth / row.expectedProfitEth) 0) 1.25 else 0)

/-- The columns that the two profile queries select from a context. -/
structure ContextRates where
  samples : Nat
  successRate : ℚ
  missRate : ℚ
  revertRate : ℚ
  realizedCapture : ℚ

def contextRates (rows : List ExecutionOutcomeRow) : ContextRates where
  samples := rows.length
  successRate := outcomeRate "included_success" rows
  missRate := outcomeRate "accepted_not_included" rows
  revertRate := outcomeRate "included_revert" rows
  realizedCapture := realizedCapture rows

abbrev OutcomeGroup := OutcomeContext × List ExecutionOutcomeRow

/-- The profile of a context; an address that does not parse is the zero address. -/
def historicalProfile (parseAddress : String → Option Address) (group : OutcomeGroup) :
    Adaptive.HistoricalOutcomeProfile :=
  let rates := contextRates group.2
  { hourUtc := group.1.hourUtc % 2 ^ 8
    pair := (parseAddress group.1.pair).getD 0
    router := (parseAddress group.1.router).getD 0
    samples := rates.samples
    successRate := rates.successRate
    acceptedNotIncludedRate := rates.missRate
    revertRate := rates.revertRate
    realizedCapture := rates.realizedCapture }

structure ToxicitySnapshot extends OutcomeContext, ContextRates where
  toxicityScore : ℚ

/-- The score before it is clamped, as the ORDER BY of SQLite spells it out. -/
def toxicityRank (rates : ContextRates) : ℚ :=
  (1 - rates.successRate) * 0.30 + rates.missRate * 0.30 + rates.revertRate * 0.25 +
    (1 - rates.realizedCapture) * 0.15

def toxicitySnapshot (group : OutcomeGroup) : ToxicitySnapshot :=
  let rates := contextRates group.2
  { group.1, rates with
    toxicityScore := clamp 0 1 (clamp 0 1 (1 - rates.successRate) * 0.30 + clamp 0 1 rates.missRate * 0.30 +
      clamp 0 1 rates.revertRate * 0.25 + clamp 0 1 (1 - rates.realizedCapture) * 0.15) }

structure RelaySnapshot where
  relay : String
  score : ℚ
  pressure : ℚ
  acceptRate : ℚ
  inclusionRate : ℚ
  accepted : Nat
  submitFailed : Nat
  includedSuccess : Nat
  includedRevert : Nat
  notIncludedTimeout : Nat
  submitLatencyMs : ℚ
  finalizationLatencyMs : ℚ

def RelayMetrics.snapshot (row : RelayMetrics) : RelaySnapshot where
  relay := unscopedRelay row.relay
  score := row.score
  pressure := row.pressure
  acceptRate := row.acceptRate
  inclusionRate := row.inclusionRate
  accepted := row.accepted
  submitFailed := row.submitFailed
  includedSuccess := row.includedSuccess
  includedRevert := row.includedRevert
  notIncludedTimeout := row.notIncludedTimeout
  submitLatencyMs := row.submitLatencyMs
  finalizationLatencyMs := row.finalizationLatencyMs

structure TreasurySnapshot extends TreasuryRecommendation where
  recordedAt : Time

def TreasuryRow.snapshot (row : TreasuryRow) : TreasurySnapshot := ⟨row.toTreasuryRecommendation, row.recordedAt⟩

structure ExecutionOutcomeSnapshot extends ExecutionOutcome where
  recordedAt : Time

def ExecutionOutcomeRow.snapshot (row : ExecutionOutcomeRow) : ExecutionOutcomeSnapshot :=
  ⟨row.toExecutionOutcome, row.recordedAt⟩

def percent (part total : Nat) : ℚ := if total = 0 then 0 else (part : ℚ) / total * 100

/-- A sum over a number of cases, or zero without any. -/
def perCase (sum : ℚ) (cases : Nat) : ℚ := if cases = 0 then 0 else sum / cases

structure SelectorPerformanceSnapshot extends SelectorSource where
  partialSignal : Nat
  payloadBuilt : Nat
  payloadReject : Nat
  confidenceReject : Nat
  evGatePass : Nat
  evGateReject : Nat
  executionReady : Nat
  submitAttempted : Nat
  total : Nat
  avgConfidence : ℚ
  avgGasGwei : ℚ
  builtRatePct : ℚ
  rejectRatePct : ℚ
  classification : String
  lastSeen : Time

def buildSelectorPerformanceSnapshot (source : SelectorSource) (partialSignal payloadBuilt payloadReject confidenceReject
    evGatePass evGateReject executionReady submitAttempted total : Nat) (confidenceSum gasGweiSum : ℚ)
    (lastSeen : Time) : SelectorPerformanceSnapshot :=
  let avgGasGwei := perCase gasGweiSum total
  let builtRatePct := percent payloadBuilt total
  { toSelectorSource := source
    partialSignal := partialSignal
    payloadBuilt := payloadBuilt
    payloadReject := payloadReject
    confidenceReject := confidenceReject
    evGatePass := evGatePass
    evGateReject := evGateReject
    executionReady := executionReady
    submitAttempted := submitAttempted
    total := total
    avgConfidence := perCase confidenceSum total
    avgGasGwei := avgGasGwei
    builtRatePct := builtRatePct
    rejectRatePct := percent (u64Add payloadReject confidenceReject) total
    classification :=
      if 0 < payloadBuilt ∧ 5 ≤ builtRatePct then "good"
      else if u64Add payloadBuilt payloadReject < confidenceReject ∧ 3 ≤ confidenceReject then "noisy"
      else if 500 ≤ avgGasGwei ∧ payloadBuilt = 0 then "expensive"
      else if 3 ≤ partialSignal ∧ payloadBuilt = 0 then "promising"
      else "watch"
    lastSeen := lastSeen }

abbrev SelectorGroup := SelectorSource × List SelectorPerformanceRollup

/-- `SUM(CASE WHEN stage = .. THEN count ELSE 0 END)` -/
def stageCount (stage : String) (rows : List SelectorPerformanceRollup) : Nat :=
  (rows.map fun row => if row.stage = stage then row.count else 0).sum

def totalCount (rows : List SelectorPerformanceRollup) : Nat :=
  (rows.map fun row => row.count).sum

def totalConfidence (rows : List SelectorPerformanceRollup) : ℚ :=
  (rows.map fun row => row.confidenceSum).sum

/-- `MAX` over a group, which has a row. -/
def newest (times : List Time) : Time := times.foldl max 0

def selectorSnapshot (group : SelectorGroup) : SelectorPerformanceSnapshot :=
  buildSelectorPerformanceSnapshot group.1 (stageCount "partial_signal" group.2)
    (stageCount "payload_built" group.2 + stageCount "shadow_payload_built" group.2)
    (stageCount "payload_reject" group.2) (stageCount "confidence_reject" group.2)
    (stageCount "ev_gate_pass" group.2) (stageCount "ev_gate_reject" group.2) (stageCount "execution_ready" group.2)
    (stageCount "submit_attempted" group.2) (totalCount group.2) (totalConfidence group.2)
    (group.2.map fun row => row.gasGweiSum).sum (newest (group.2.map fun row => row.lastSeen))

structure SelectorPoolPerformanceSnapshot extends SelectorPool where
  poolFound : Nat
  poolMissing : Nat
  payloadBuilt : Nat
  shadowEvPositive : Nat
  shadowEvNegative : Nat
  partialEnteredPayloadBuilder : Nat
  partialPoolDiscoveryAttempted : Nat
  partialPoolFound : Nat
  partialPoolMissing : Nat
  partialShadowEvPositive : Nat
  partialShadowEvNegative : Nat
  partialReplayCandidateCreated : Nat
  partialReplayCandidateRejected : Nat
  total : Nat
  avgExpectedProfit : ℚ
  avgLiquidity : ℚ
  avgGasGwei : ℚ
  classification : String
  lastSeen : Time

/-- `eq_ignore_ascii_case("v3")` -/
def isV3 (dexKind : String) : Bool := dexKind == "v3" || dexKind == "V3"

def buildSelectorPoolPerformanceSnapshot (key : SelectorPool) (counters : PoolCounters) (lastSeen : Time) :
    SelectorPoolPerformanceSnapshot :=
  let v3ShadowEvUnverified := isV3 key.dexKind && counters.partialReplayCandidateCreated == 0
  let trustedShadowEvPositive := if v3ShadowEvUnverified then 0 else counters.shadowEvPositive
  let trustedExpectedProfitSum := if v3ShadowEvUnverified then 0 else counters.expectedProfitSum
  { toSelectorPool := key
    poolFound := counters.poolFound
    poolMissing := counters.poolMissing
    payloadBuilt := counters.payloadBuilt
    shadowEvPositive := counters.shadowEvPositive
    shadowEvNegative := counters.shadowEvNegative
    partialEnteredPayloadBuilder := counters.partialEnteredPayloadBuilder
    partialPoolDiscoveryAttempted := counters.partialPoolDiscoveryAttempted
    partialPoolFound := counters.partialPoolFound
    partialPoolMissing := counters.partialPoolMissing
    partialShadowEvPositive := counters.partialShadowEvPositive
    partialShadowEvNegative := counters.partialShadowEvNegative
    partialReplayCandidateCreated := counters.partialReplayCandidateCreated
    partialReplayCandidateRejected := counters.partialReplayCandidateRejected
    total := counters.samples
    avgExpectedProfit := perCase trustedExpectedProfitSum trustedShadowEvPositive
    avgLiquidity := perCase counters.liquiditySum counters.samples
    avgGasGwei := perCase counters.gasGweiSum counters.samples
    classification :=
      if v3ShadowEvUnverified ∧ 0 < counters.shadowEvPositive then "v3_shadow_ev_unverified"
      else if 0 < counters.shadowEvPositive then "evolve_decoder"
      else if 0 < counters.payloadBuilt then "pool_real_payload_ready"
      else if 0 < counters.poolFound ∧ 0 < counters.shadowEvNegative then "pool_real_no_edge"
      else if 0 < counters.poolFound ∧ counters.poolMissing = 0 then "pool_real_watch"
      else if counters.poolFound < counters.poolMissing then "pool_missing_or_wrong_path"
      else "watch"
    lastSeen := lastSeen }

abbrev PoolGroup := SelectorPool × List SelectorPoolPerformanceRollup

def poolCounters (rows : List SelectorPoolPerformanceRollup) : PoolCounters :=
  (rows.map fun row => row.toPoolCounters).foldl PoolCounters.add .zero

def poolSnapshot (group : PoolGroup) : SelectorPoolPerformanceSnapshot :=
  buildSelectorPoolPerformanceSnapshot group.1 (poolCounters group.2) (newest (group.2.map fun row => row.lastSeen))

structure SelectorReplayScoreSnapshot extends ReplayedPool where
  replayCases : Nat
  replaySuccessCount : Nat
  replayRevertCount : Nat
  avgExpectedProfit : ℚ
  avgSimulatedProfit : ℚ
  avgGasUsed : ℚ
  successRatePct : ℚ
  revertRatePct : ℚ
  recommendation : String
  lastSeen : Time

/-- `build_selector_replay_score_snapshot` -/
def SelectorReplayScore.snapshot (row : SelectorReplayScore) : SelectorReplayScoreSnapshot :=
  let successRatePct := percent row.replaySuccessCount row.replayCases
  let revertRatePct := percent row.replayRevertCount row.replayCases
  { toReplayedPool := row.toReplayedPool
    replayCases := row.replayCases
    replaySuccessCount := row.replaySuccessCount
    replayRevertCount := row.replayRevertCount
    avgExpectedProfit := perCase row.expectedProfitSum row.replayCases
    avgSimulatedProfit := perCase row.simulatedProfitSum row.replayCases
    avgGasUsed := perCase row.gasUsedSum row.replayCases
    successRatePct := successRatePct
    revertRatePct := revertRatePct
    recommendation :=
      if 3 ≤ row.replayCases ∧ 70 ≤ successRatePct ∧ revertRatePct ≤ 20 then "canary_ready"
      else if 3 ≤ row.replayCases ∧ 20 < revertRatePct then "reject_revert"
      else if 0 < row.replaySuccessCount then "replay_more"
      else "watch"
    lastSeen := row.lastSeen }

end ArbitrageRuntime.Storage
