import ArbitrageRuntime.Adaptive.Policy

namespace ArbitrageRuntime.Adaptive

/-- The real functions of the scores, `exp` and `ln_1p`. -/
structure Curves where
  exp : ℚ → ℚ
  ln1p : ℚ → ℚ

inductive MarketRegime
  | calm
  | normal
  | hot
  | toxic
  deriving DecidableEq

/-- A latency, or a gas price, above its target, as a share of twice the target. -/
def excess (current target : ℚ) : ℚ := clamp 0 2 (current / target - 1) / 2

def pathPenalty (pathLen : Nat) : ℚ := (min (pathLen - 2) 3 : Nat) / 3

namespace Curves

variable (curves : Curves)

def logistic (x : ℚ) : ℚ := 1 / (1 + curves.exp (-x))

def sizePressure (notionalEth : ℚ) : ℚ := clamp 0 1 (curves.ln1p (max notionalEth 0) / 8)

def competitionScore (clusterHeat mempoolDensity gasPressure sizePressure impactPressure builderPressure : ℚ)
    (regime : MarketRegime) : ℚ :=
  let base := clamp 0 1 (clusterHeat * 0.38 + mempoolDensity * 0.15 + gasPressure * 0.15 + sizePressure * 0.12 +
    impactPressure * 0.10 + builderPressure * 0.10)
  let jump := curves.logistic ((clusterHeat - 0.52) * 9.0) * 0.18 +
    curves.logistic ((mempoolDensity - 0.62) * 8.0) * 0.10 +
    curves.logistic ((gasPressure - 0.58) * 8.5) * 0.08 +
    curves.logistic ((builderPressure - 0.45) * 10.0) * 0.16
  let regimeBump := match regime with
    | .calm => 0.0
    | .normal => 0.03
    | .hot => 0.10
    | .toxic => 0.18
  clamp 0 1 (base + jump + regimeBump)

def riskScore (failurePressure latencyPenalty poorRealization gasPressure impactPressure builderPressure : ℚ)
    (regime : MarketRegime) : ℚ :=
  let base := clamp 0 1 (failurePressure * 0.42 + latencyPenalty * 0.20 + poorRealization * 0.16 +
    gasPressure * 0.07 + impactPressure * 0.05)
  let jump := curves.logistic ((failurePressure - 0.48) * 10.0) * 0.16 +
    curves.logistic ((latencyPenalty - 0.45) * 8.0) * 0.09 +
    curves.logistic ((poorRealization - 0.32) * 9.0) * 0.11 +
    curves.logistic ((builderPressure - 0.42) * 10.5) * 0.18
  let regimeBump := match regime with
    | .calm => 0.0
    | .normal => 0.02
    | .hot => 0.08
    | .toxic => 0.15
  clamp 0 1 (base + jump + regimeBump)

def competitionPenalty (expectedProfitUsd competitionScore clusterHeat builderPressure : ℚ) (regime : MarketRegime) : ℚ :=
  let multiplier := match regime with
    | .calm => 0.30
    | .normal => 0.40
    | .hot => 0.56
    | .toxic => 0.78
  let jump := (if 0.58 < clusterHeat then curves.logistic ((clusterHeat - 0.58) * 11.0) * 0.34 else 0) +
    (if 0.44 < builderPressure then curves.logistic ((builderPressure - 0.44) * 10.5) * 0.28 else 0)
  expectedProfitUsd * competitionScore * (multiplier + jump)

def riskPenalty (expectedProfitUsd riskScore failurePressure builderPressure : ℚ) (regime : MarketRegime) : ℚ :=
  let multiplier := match regime with
    | .calm => 0.42
    | .normal => 0.54
    | .hot => 0.68
    | .toxic => 0.88
  let jump := (if 0.42 < failurePressure then curves.logistic ((failurePressure - 0.42) * 12.0) * 0.26 else 0) +
    (if 0.46 < builderPressure then curves.logistic ((builderPressure - 0.46) * 9.5) * 0.22 else 0)
  expectedProfitUsd * riskScore * (multiplier + jump)

end Curves

def marketRegime (mempoolDensity clusterHeat gasPressure latencyPenalty failurePressure poorRealization
    builderPressure : ℚ) : MarketRegime :=
  let stress := clamp 0 1 (mempoolDensity * 0.20 + clusterHeat * 0.20 + gasPressure * 0.10 + latencyPenalty * 0.12 +
    failurePressure * 0.14 + poorRealization * 0.10 + builderPressure * 0.14)
  if 0.82 ≤ stress ∨ 0.72 ≤ failurePressure ∨ 0.62 ≤ poorRealization ∨ 0.72 ≤ builderPressure then .toxic
  else if 0.58 ≤ stress ∨ 0.55 ≤ clusterHeat ∨ 0.52 ≤ gasPressure ∨ 0.48 ≤ builderPressure then .hot
  else if 0.30 ≤ stress then .normal
  else .calm

def probabilityPositive (competitionScore riskScore failurePressure latencyPenalty poorRealization gasPressure
    builderPressure : ℚ) (regime : MarketRegime) : ℚ :=
  let baseDrag := competitionScore * 0.29 + riskScore * 0.23 + failurePressure * 0.17 + latencyPenalty * 0.10 +
    poorRealization * 0.09 + gasPressure * 0.06 + builderPressure * 0.06
  let regimeDrag := match regime with
    | .calm => 0.00
    | .normal => 0.03
    | .hot => 0.08
    | .toxic => 0.16
  clamp 0.04 0.985 (1 - baseDrag - regimeDrag)

def pathExecutionPenaltyUsd (expectedProfitUsd builderPressure failurePressure latencyPenalty gasPressure
    contextToxicityScore : ℚ) : ℚ :=
  let pathStress := clamp 0 1 (builderPressure * 0.34 + failurePressure * 0.24 + latencyPenalty * 0.18 +
    gasPressure * 0.12 + contextToxicityScore * 0.12)
  expectedProfitUsd * pathStress * 0.18

def minProbabilityThreshold : MarketRegime → ℚ
  | .calm => 0.54
  | .normal => 0.60
  | .hot => 0.66
  | .toxic => 0.74

def maxCompetitionThreshold : MarketRegime → ℚ
  | .calm => 0.78
  | .normal => 0.72
  | .hot => 0.64
  | .toxic => 0.52

def maxRiskThreshold : MarketRegime → ℚ
  | .calm => 0.80
  | .normal => 0.74
  | .hot => 0.66
  | .toxic => 0.56

structure HistoricalCalibration where
  competitionMult : ℚ
  riskMult : ℚ
  thresholdMult : ℚ
  regimeShift : Int

def HistoricalCalibration.default : HistoricalCalibration := ⟨1, 1, 1, 0⟩

namespace HistoricalOutcomeStats

variable (profile : HistoricalOutcomeStats)

def pressure : ℚ :=
  clamp 0 1 (clamp 0 1 (1 - profile.successRate) * 0.24 + clamp 0 1 profile.acceptedNotIncludedRate * 0.36 +
    clamp 0 1 profile.revertRate * 0.24 + clamp 0 1 (1 - profile.realizedCapture) * 0.16)

def calibration (confidence : ℚ) : HistoricalCalibration :=
  let instability := clamp 0 1 (1 - profile.successRate)
  let miss := clamp 0 1 profile.acceptedNotIncludedRate
  let revert := clamp 0 1 profile.revertRate
  let poorRealization := clamp 0 1 (1 - profile.realizedCapture)
  let stress := clamp 0 1 (instability * 0.28 + miss * 0.34 + revert * 0.22 + poorRealization * 0.16)
  { competitionMult := 1 + (miss * 0.34 + instability * 0.18) * confidence
    riskMult := 1 + (revert * 0.42 + poorRealization * 0.24 + instability * 0.10) * confidence
    thresholdMult := 1 + (miss * 0.26 + revert * 0.18 + instability * 0.18 + poorRealization * 0.14) * confidence
    regimeShift :=
      if 12 ≤ profile.samples ∧ 0.54 ≤ stress then 2
      else if 6 ≤ profile.samples ∧ 0.42 ≤ stress then 1
      else if 12 ≤ profile.samples ∧ stress ≤ 0.18 ∧ 0.82 ≤ profile.successRate ∧ 0.82 ≤ profile.realizedCapture then
        -1
      else 0 }

def confidence : ℚ := clamp 0 1 ((min profile.samples 48 : Nat) / 48)

/-- What the profile itself makes of the probability. -/
def target : ℚ :=
  clamp 0.04 0.99 (profile.successRate * 0.62 + (1 - profile.acceptedNotIncludedRate) * 0.18 +
    (1 - profile.revertRate) * 0.10 + clamp 0 1 profile.realizedCapture * 0.10)

def thresholdPenalty : ℚ :=
  clamp 0 1 (profile.acceptedNotIncludedRate * 0.34 + profile.revertRate * 0.26 +
    clamp 0 1 (1 - profile.successRate) * 0.24 + clamp 0 1 (1 - profile.realizedCapture) * 0.16)

end HistoricalOutcomeStats

def recalibratedRegime (regime : MarketRegime) (shift : Int) : MarketRegime :=
  if shift ≤ -2 then .calm
  else if shift = -1 then
    match regime with
    | .toxic => .hot
    | .hot => .normal
    | .normal => .calm
    | .calm => .calm
  else if shift = 0 then regime
  else if shift = 1 then
    match regime with
    | .calm => .normal
    | .normal => .hot
    | .hot => .toxic
    | .toxic => .toxic
  else .toxic

namespace AdaptivePolicy

variable (policy : AdaptivePolicy)

def mempoolDensity : ℚ := clamp 0 1 (policy.recentFlows.length / flowCapacity)

def failurePressure : ℚ := clamp 0 1 (policy.failureRateEwma * 0.65 + policy.timeoutRateEwma * 0.35)

def poorRealization : ℚ := clamp 0 1 (1 - policy.realizedCaptureEwma)

def gasPressure (currentGwei : ℚ) : ℚ :=
  if policy.gasPriceEwmaGwei ≤ epsilon then 0 else excess currentGwei policy.gasPriceEwmaGwei

def latencyPenalty (currentLookupMs : ℚ) : ℚ :=
  clamp 0 1 (excess currentLookupMs lookupTargetMs * 0.35 + excess policy.lookupLatencyEwmaMs lookupTargetMs * 0.20 +
    excess policy.submitLatencyEwmaMs submitTargetMs * 0.25 + excess policy.finalizeLatencyEwmaMs finalizeTargetMs * 0.20)

def impactHint (curves : Curves) (notionalEth : ℚ) (pathLen : Nat) : ℚ :=
  let sizeMultiple := max notionalEth 0 / max policy.minLargeSwapEth (1 / 10 ^ 9)
  let sizeCurve := clamp 0 1 (curves.ln1p sizeMultiple / 3.6)
  let profitCurve := clamp 0 1 (curves.ln1p (notionalEth / max policy.minProfitEth (1 / 10 ^ 9)) / 14.0)
  clamp 0 1 (sizeCurve * 0.58 + profitCurve * 0.42 - pathPenalty pathLen * 0.18)

def dynamicThreshold (mempoolDensity failurePressure gasPressure latencyPenalty poorRealization clusterHeat
    builderPressure : ℚ) (regime : MarketRegime) : ℚ :=
  let regimeBase := match regime with
    | .calm => 0.92
    | .normal => 1.08
    | .hot => 1.42
    | .toxic => 1.95
  let continuous := 1 + mempoolDensity * 0.28 + failurePressure * 0.52 + gasPressure * 0.22 + latencyPenalty * 0.24 +
    poorRealization * 0.30 + clusterHeat * 0.24 + builderPressure * 0.38
  policy.baseThresholdUsd * regimeBase * continuous

/-- How recent a flow is. -/
def recencyWeight (curves : Curves) (now : Instant) (flow : FlowObservation) : ℚ :=
  curves.exp (-((now - flow.observedAt : Nat) / nanosPerSec : ℚ) / 4.0)

def flowWeight (curves : Curves) (now : Instant) (flow : FlowObservation) : ℚ :=
  let sizeWeight := 1 + clamp 0 0.5 (curves.ln1p (max flow.notionalEth 0) / 8.0)
  let gasWeight := 1 + clamp 0 2 (flow.gasPriceGwei / max policy.gasPriceEwmaGwei 1) * 0.10
  recencyWeight curves now flow * sizeWeight * gasWeight

/-- The recency of a flow that outbids the average, and nothing else. -/
def aggressiveWeight (curves : Curves) (now : Instant) (flow : FlowObservation) : ℚ :=
  if epsilon < policy.gasPriceEwmaGwei ∧ policy.gasPriceEwmaGwei * 1.18 < flow.gasPriceGwei then
    recencyWeight curves now flow
  else 0

/-- The share of one cluster in a weight of all flows. -/
def share (weight : FlowObservation → ℚ) (key : ClusterKey) : ℚ :=
  let total := (policy.recentFlows.map weight).sum
  if total ≤ epsilon then 0
  else clamp 0 1 (((policy.recentFlows.filter fun flow => flow.key = key).map weight).sum / total)

def clusterHeat (curves : Curves) (key : ClusterKey) (now : Instant) : ℚ :=
  if policy.recentFlows.isEmpty then 0
  else if (policy.recentFlows.map (policy.flowWeight curves now)).sum ≤ epsilon then 0
  else
    let localShare := policy.share (policy.flowWeight curves now) key
    let burstShare := policy.share (recencyWeight curves now) key
    let aggressionShare := policy.share (policy.aggressiveWeight curves now) key
    let dominance :=
      if 0.24 < localShare ∧ 0.20 < burstShare then clamp 0 1 ((localShare - 0.24) * 1.8 + (burstShare - 0.20) * 1.4)
      else 0
    clamp 0 1 (localShare * 0.42 + burstShare * 0.28 + aggressionShare * 0.15 + dominance * 0.15)

def builderPathPressure : ℚ :=
  clamp 0 1 (clamp 0 1 policy.relayRejectRateEwma * 0.24 + clamp 0 1 (1 - policy.relayAcceptRateEwma) * 0.12 +
    clamp 0 1 (1 - policy.inclusionSuccessRateEwma) * 0.12 + clamp 0 1 policy.acceptedNotIncludedRateEwma * 0.24 +
    clamp 0 1 policy.includedRevertRateEwma * 0.16 + excess policy.submitLatencyEwmaMs submitTargetMs * 0.10 +
    excess policy.finalizeLatencyEwmaMs finalizeTargetMs * 0.08 + clamp 0 1 (1 - policy.realizedCaptureEwma) * 0.06)

def builderPathPressureForRelay (relay : String) : ℚ :=
  match policy.relayStats relay with
  | none => policy.builderPathPressure
  | some stats =>
    clamp 0 1 (clamp 0 1 stats.relayRejectRateEwma * 0.26 + clamp 0 1 (1 - stats.relayAcceptRateEwma) * 0.12 +
      clamp 0 1 (1 - stats.inclusionSuccessRateEwma) * 0.12 + clamp 0 1 stats.acceptedNotIncludedRateEwma * 0.24 +
      clamp 0 1 stats.includedRevertRateEwma * 0.14 + excess stats.submitLatencyEwmaMs submitTargetMs * 0.10 +
      excess stats.finalizationLatencyEwmaMs finalizeTargetMs * 0.08 + clamp 0 1 (1 - stats.realizedCaptureEwma) * 0.04)

def builderPathPressureForCluster (relay : Option String) (cluster : ClusterKey) : ℚ :=
  let base := match relay with
    | some relay => policy.builderPathPressureForRelay relay
    | none => policy.builderPathPressure
  match relay.bind fun relay => policy.relayContextStats (relay, cluster) with
  | none => base
  | some context =>
    let confidence := clamp 0 1 ((min context.samples 24 : Nat) / 24)
    let contextual := clamp 0 1 (clamp 0 1 (1 - context.inclusionSuccessRateEwma) * 0.24 +
      clamp 0 1 context.acceptedNotIncludedRateEwma * 0.36 + clamp 0 1 context.includedRevertRateEwma * 0.24 +
      clamp 0 1 (1 - context.realizedCaptureEwma) * 0.16)
    clamp 0 1 (base * (1 - confidence * 0.35) + contextual * confidence * 0.65)

end AdaptivePolicy

end ArbitrageRuntime.Adaptive
