import ArbitrageRuntime.Adaptive.Limits
import ArbitrageRuntime.Amm.UniswapV2
import ArbitrageRuntime.Engine.Budget
import Mathlib.Data.List.Sort
import Mathlib.Logic.Function.Basic

namespace ArbitrageRuntime.Adaptive

def flowCapacity : Nat := 2048

def flowHorizon : Nat := 12 * nanosPerSec

def lookupTargetMs : ℚ := 140.0

def submitTargetMs : ℚ := 120.0

def finalizeTargetMs : ℚ := 6000.0

def ewmaFast : ℚ := 0.20

def ewmaSlow : ℚ := 0.08

/-- `f64::EPSILON` -/
def epsilon : ℚ := 1 / 2 ^ 52

def ewma (current sample alpha : ℚ) : ℚ := current * (1 - alpha) + sample * alpha

def weiToGwei (wei : Nat) : ℚ := wei / 10 ^ 9

structure FlowObservation where
  key : ClusterKey
  observedAt : Instant
  gasPriceGwei : ℚ
  notionalEth : ℚ

structure RelayStats where
  submitLatencyEwmaMs : ℚ
  finalizationLatencyEwmaMs : ℚ
  relayAcceptRateEwma : ℚ
  relayRejectRateEwma : ℚ
  inclusionSuccessRateEwma : ℚ
  acceptedNotIncludedRateEwma : ℚ
  includedRevertRateEwma : ℚ
  realizedCaptureEwma : ℚ

def RelayStats.default : RelayStats where
  submitLatencyEwmaMs := submitTargetMs
  finalizationLatencyEwmaMs := finalizeTargetMs
  relayAcceptRateEwma := 0.76
  relayRejectRateEwma := 0.16
  inclusionSuccessRateEwma := 0.58
  acceptedNotIncludedRateEwma := 0.14
  includedRevertRateEwma := 0.08
  realizedCaptureEwma := 0.82

structure RelayContextStats where
  inclusionSuccessRateEwma : ℚ
  acceptedNotIncludedRateEwma : ℚ
  includedRevertRateEwma : ℚ
  realizedCaptureEwma : ℚ
  samples : Nat

def RelayContextStats.default : RelayContextStats where
  inclusionSuccessRateEwma := 0.58
  acceptedNotIncludedRateEwma := 0.14
  includedRevertRateEwma := 0.08
  realizedCaptureEwma := 0.82
  samples := 0

structure HistoricalOutcomeStats where
  samples : Nat
  successRate : ℚ
  acceptedNotIncludedRate : ℚ
  revertRate : ℚ
  realizedCapture : ℚ

structure HistoricalProfileKey where
  router : Address
  pair : Address
  hourUtc : Nat
  deriving DecidableEq

structure RouterHourKey where
  router : Address
  hourUtc : Nat
  deriving DecidableEq

structure ContextSignal where
  priorityScore : ℚ
  toxicityScore : ℚ
  samples : Nat

structure HistoricalOutcomeProfile extends HistoricalOutcomeStats where
  hourUtc : Nat
  pair : Address
  router : Address

/-- What the policy learns. The flows are oldest first. -/
structure PolicyStatistics where
  recentFlows : List FlowObservation
  gasPriceEwmaGwei : ℚ
  lookupLatencyEwmaMs : ℚ
  submitLatencyEwmaMs : ℚ
  finalizeLatencyEwmaMs : ℚ
  relayAcceptRateEwma : ℚ
  relayRejectRateEwma : ℚ
  inclusionSuccessRateEwma : ℚ
  acceptedNotIncludedRateEwma : ℚ
  includedRevertRateEwma : ℚ
  successRateEwma : ℚ
  failureRateEwma : ℚ
  timeoutRateEwma : ℚ
  realizedCaptureEwma : ℚ
  relayStats : String → Option RelayStats
  relayContextStats : String × ClusterKey → Option RelayContextStats
  historicalProfiles : HistoricalProfileKey → Option HistoricalOutcomeStats
  routerHourProfiles : RouterHourKey → Option ContextSignal

structure AdaptivePolicy extends PolicyLimits, PolicyStatistics

def PolicyStatistics.initial (network : String) : PolicyStatistics where
  recentFlows := []
  gasPriceEwmaGwei := (chainAdaptivePreset network).gasBaselineGwei
  lookupLatencyEwmaMs := lookupTargetMs
  submitLatencyEwmaMs := submitTargetMs
  finalizeLatencyEwmaMs := finalizeTargetMs
  relayAcceptRateEwma := 0.76
  relayRejectRateEwma := 0.16
  inclusionSuccessRateEwma := 0.58
  acceptedNotIncludedRateEwma := 0.14
  includedRevertRateEwma := 0.08
  successRateEwma := (chainAdaptivePreset network).successBias
  failureRateEwma := (chainAdaptivePreset network).failureBias
  timeoutRateEwma := 0.08
  realizedCaptureEwma := 0.82
  relayStats := fun _ => none
  relayContextStats := fun _ => none
  historicalProfiles := fun _ => none
  routerHourProfiles := fun _ => none

/-- The outcome of a submission in its context. -/
inductive ContextualOutcomeKind
  | includedSuccess
  | acceptedNotIncluded
  | includedRevert
  | submitFailed

def captureRatio (expectedProfitWei : Nat) (realizedProfitEth : ℚ) : ℚ :=
  if epsilon < weiToEth expectedProfitWei then clamp 0 1.25 (realizedProfitEth / weiToEth expectedProfitWei) else 0

/-- The signal of one router at one hour, from all of its profiles. -/
def rollUp (values : List HistoricalOutcomeStats) : ContextSignal :=
  let samples := max (values.map HistoricalOutcomeStats.samples).sum 1
  let weighted (f : HistoricalOutcomeStats → ℚ) : ℚ := (values.map fun value => f value * value.samples).sum / samples
  let successRate := weighted HistoricalOutcomeStats.successRate
  let missRate := weighted HistoricalOutcomeStats.acceptedNotIncludedRate
  let revertRate := weighted HistoricalOutcomeStats.revertRate
  let realizedCapture := weighted HistoricalOutcomeStats.realizedCapture
  { priorityScore := clamp 0 1 (successRate * 0.46 + clamp 0 1 realizedCapture * 0.34 +
      clamp 0 1 (1 - missRate) * 0.12 + clamp 0 1 (1 - revertRate) * 0.08)
    toxicityScore := clamp 0 1 (clamp 0 1 (1 - successRate) * 0.28 + clamp 0 1 missRate * 0.36 +
      clamp 0 1 revertRate * 0.22 + clamp 0 1 (1 - realizedCapture) * 0.14)
    samples := samples }

namespace AdaptivePolicy

def new (config : PricedConfig) : AdaptivePolicy where
  toPolicyLimits := .ofConfig config
  toPolicyStatistics := .initial config.network

/-- The last profile of a key is the one that is kept, and all of them count for the hour of their router. -/
def applyHistoricalProfiles (policy : AdaptivePolicy) (profiles : List HistoricalOutcomeProfile) : AdaptivePolicy :=
  { policy with
    historicalProfiles := fun key =>
      (profiles.reverse.find? fun profile =>
        profile.router = key.router ∧ profile.pair = key.pair ∧ profile.hourUtc = key.hourUtc).map
          HistoricalOutcomeProfile.toHistoricalOutcomeStats
    routerHourProfiles := fun key =>
      let values := profiles.filter fun profile => profile.router = key.router ∧ profile.hourUtc = key.hourUtc
      if values.isEmpty then none
      else some (rollUp (values.map HistoricalOutcomeProfile.toHistoricalOutcomeStats)) }

def contextSignal (policy : AdaptivePolicy) (router : Address) (hourUtc : Nat) : ContextSignal :=
  (policy.routerHourProfiles ⟨router, hourUtc⟩).getD ⟨0.50, 0.50, 0⟩

def observeLookupLatency (policy : AdaptivePolicy) (latencyMs : ℚ) : AdaptivePolicy :=
  { policy with lookupLatencyEwmaMs := ewma policy.lookupLatencyEwmaMs latencyMs ewmaFast }

def prune (policy : AdaptivePolicy) (now : Instant) : AdaptivePolicy :=
  { policy with recentFlows := policy.recentFlows.dropWhile fun flow => flowHorizon < now - flow.observedAt }

def observeCandidateFlow (policy : AdaptivePolicy) (now : Instant) (key : ClusterKey) (notionalWei gasPriceWei : Nat) :
    AdaptivePolicy :=
  let pruned := policy.prune now
  let gasPriceGwei := weiToGwei gasPriceWei
  { pruned with
    gasPriceEwmaGwei :=
      if pruned.gasPriceEwmaGwei ≤ epsilon then max gasPriceGwei (1 / 10 ^ 9)
      else ewma pruned.gasPriceEwmaGwei gasPriceGwei ewmaSlow
    recentFlows :=
      (if pruned.recentFlows.length = flowCapacity then pruned.recentFlows.tail else pruned.recentFlows) ++
        [⟨key, now, gasPriceGwei, weiToEth notionalWei⟩] }

def recordSubmitSuccess (policy : AdaptivePolicy) (latencyMs : ℚ) : AdaptivePolicy :=
  { policy with
    submitLatencyEwmaMs := ewma policy.submitLatencyEwmaMs latencyMs ewmaFast
    relayAcceptRateEwma := ewma policy.relayAcceptRateEwma 1 ewmaFast
    relayRejectRateEwma := ewma policy.relayRejectRateEwma 0 ewmaFast
    acceptedNotIncludedRateEwma := ewma policy.acceptedNotIncludedRateEwma 0 ewmaFast
    includedRevertRateEwma := ewma policy.includedRevertRateEwma 0 ewmaFast }

/-- `entry(relay).or_insert_with(RelayStats::default)` -/
def updateRelay (policy : AdaptivePolicy) (relay : String) (change : RelayStats → RelayStats) : AdaptivePolicy :=
  { policy with
    relayStats := Function.update policy.relayStats relay (some (change ((policy.relayStats relay).getD .default))) }

def recordSubmitSuccessForRelay (policy : AdaptivePolicy) (relay : String) (latencyMs : ℚ) : AdaptivePolicy :=
  (policy.updateRelay relay fun stats =>
    { stats with
      submitLatencyEwmaMs := ewma stats.submitLatencyEwmaMs latencyMs ewmaFast
      relayAcceptRateEwma := ewma stats.relayAcceptRateEwma 1 ewmaFast
      relayRejectRateEwma := ewma stats.relayRejectRateEwma 0 ewmaFast
      acceptedNotIncludedRateEwma := ewma stats.acceptedNotIncludedRateEwma 0 ewmaFast
      includedRevertRateEwma := ewma stats.includedRevertRateEwma 0 ewmaFast }).recordSubmitSuccess latencyMs

def recordSubmitFailure (policy : AdaptivePolicy) (latencyMs : ℚ) : AdaptivePolicy :=
  { policy with
    submitLatencyEwmaMs := ewma policy.submitLatencyEwmaMs latencyMs ewmaFast
    relayAcceptRateEwma := ewma policy.relayAcceptRateEwma 0 ewmaFast
    relayRejectRateEwma := ewma policy.relayRejectRateEwma 1 ewmaFast
    successRateEwma := ewma policy.successRateEwma 0 ewmaFast
    failureRateEwma := ewma policy.failureRateEwma 1 ewmaFast }

def recordSubmitFailureForRelay (policy : AdaptivePolicy) (relay : String) (latencyMs : ℚ) : AdaptivePolicy :=
  (policy.updateRelay relay fun stats =>
    { stats with
      submitLatencyEwmaMs := ewma stats.submitLatencyEwmaMs latencyMs ewmaFast
      relayAcceptRateEwma := ewma stats.relayAcceptRateEwma 0 ewmaFast
      relayRejectRateEwma := ewma stats.relayRejectRateEwma 1 ewmaFast }).recordSubmitFailure latencyMs

/-- One for what happened, nothing for what did not. -/
def rate (happened : Bool) : ℚ := if happened then 1 else 0

def recordFinalization (policy : AdaptivePolicy) (expectedProfitWei : Nat) (realizedProfitEth : ℚ) (success : Bool)
    (finalizationLatencyMs : ℚ) : AdaptivePolicy :=
  { policy with
    finalizeLatencyEwmaMs := ewma policy.finalizeLatencyEwmaMs finalizationLatencyMs ewmaFast
    timeoutRateEwma := ewma policy.timeoutRateEwma 0 ewmaFast
    successRateEwma := ewma policy.successRateEwma (rate success) ewmaFast
    inclusionSuccessRateEwma := ewma policy.inclusionSuccessRateEwma (rate success) ewmaFast
    acceptedNotIncludedRateEwma := ewma policy.acceptedNotIncludedRateEwma 0 ewmaFast
    includedRevertRateEwma := ewma policy.includedRevertRateEwma (rate !success) ewmaFast
    failureRateEwma := ewma policy.failureRateEwma (rate !success) ewmaFast
    realizedCaptureEwma :=
      ewma policy.realizedCaptureEwma (captureRatio expectedProfitWei realizedProfitEth) ewmaSlow }

def recordFinalizationForRelay (policy : AdaptivePolicy) (relay : String) (expectedProfitWei : Nat)
    (realizedProfitEth : ℚ) (success : Bool) (finalizationLatencyMs : ℚ) : AdaptivePolicy :=
  (policy.updateRelay relay fun stats =>
    { stats with
      finalizationLatencyEwmaMs := ewma stats.finalizationLatencyEwmaMs finalizationLatencyMs ewmaFast
      inclusionSuccessRateEwma := ewma stats.inclusionSuccessRateEwma (rate success) ewmaFast
      acceptedNotIncludedRateEwma := ewma stats.acceptedNotIncludedRateEwma 0 ewmaFast
      includedRevertRateEwma := ewma stats.includedRevertRateEwma (rate !success) ewmaFast
      realizedCaptureEwma :=
        ewma stats.realizedCaptureEwma (captureRatio expectedProfitWei realizedProfitEth) ewmaSlow }).recordFinalization
    expectedProfitWei realizedProfitEth success finalizationLatencyMs

def recordContextualOutcome (policy : AdaptivePolicy) (relay : String) (cluster : ClusterKey) (expectedProfitWei : Nat)
    (realizedProfitEth : ℚ) (outcome : ContextualOutcomeKind) : AdaptivePolicy :=
  let stats := (policy.relayContextStats (relay, cluster)).getD .default
  let (success, miss, revert) : ℚ × ℚ × ℚ := match outcome with
    | .includedSuccess => (1, 0, 0)
    | .acceptedNotIncluded => (0, 1, 0)
    | .includedRevert => (0, 0, 1)
    | .submitFailed => (0, 0, 0)
  { policy with
    relayContextStats := Function.update policy.relayContextStats (relay, cluster) (some
      { inclusionSuccessRateEwma := ewma stats.inclusionSuccessRateEwma success ewmaFast
        acceptedNotIncludedRateEwma := ewma stats.acceptedNotIncludedRateEwma miss ewmaFast
        includedRevertRateEwma := ewma stats.includedRevertRateEwma revert ewmaFast
        realizedCaptureEwma :=
          ewma stats.realizedCaptureEwma (captureRatio expectedProfitWei realizedProfitEth) ewmaFast
        samples := u64Add stats.samples 1 }) }

def recordReceiptTimeout (policy : AdaptivePolicy) (finalizationLatencyMs : ℚ) : AdaptivePolicy :=
  { policy with
    finalizeLatencyEwmaMs := ewma policy.finalizeLatencyEwmaMs finalizationLatencyMs ewmaFast
    timeoutRateEwma := ewma policy.timeoutRateEwma 1 ewmaFast
    inclusionSuccessRateEwma := ewma policy.inclusionSuccessRateEwma 0 ewmaFast
    acceptedNotIncludedRateEwma := ewma policy.acceptedNotIncludedRateEwma 1 ewmaFast
    includedRevertRateEwma := ewma policy.includedRevertRateEwma 0 ewmaFast
    successRateEwma := ewma policy.successRateEwma 0 ewmaFast
    failureRateEwma := ewma policy.failureRateEwma 1 ewmaFast }

def recordReceiptTimeoutForRelay (policy : AdaptivePolicy) (relay : String) (finalizationLatencyMs : ℚ) :
    AdaptivePolicy :=
  (policy.updateRelay relay fun stats =>
    { stats with
      finalizationLatencyEwmaMs := ewma stats.finalizationLatencyEwmaMs finalizationLatencyMs ewmaFast
      inclusionSuccessRateEwma := ewma stats.inclusionSuccessRateEwma 0 ewmaFast
      acceptedNotIncludedRateEwma := ewma stats.acceptedNotIncludedRateEwma 1 ewmaFast
      includedRevertRateEwma := ewma stats.includedRevertRateEwma 0 ewmaFast }).recordReceiptTimeout finalizationLatencyMs

end AdaptivePolicy

/-- The policy behind the lock that the stages share. -/
abbrev SharedAdaptivePolicy := Mutex AdaptivePolicy

/-- Behind a poisoned lock the policy has no opinion on a router. -/
def SharedAdaptivePolicy.contextSignal (adaptive : SharedAdaptivePolicy) (router : Address) (hourUtc : Nat) :
    ContextSignal :=
  match adaptive.lock with
  | some model => model.contextSignal router hourUtc
  | none => ⟨0.50, 0.50, 0⟩

end ArbitrageRuntime.Adaptive
