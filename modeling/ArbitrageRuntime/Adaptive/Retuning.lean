import ArbitrageRuntime.Adaptive.Quotes
import ArbitrageRuntime.Dashboard.ThresholdUpdates

namespace ArbitrageRuntime.Adaptive

/-- A call on the shared policy, with the times at which it looks at the clock. -/
inductive PolicyCall
  | applyHistoricalProfiles (profiles : List HistoricalOutcomeProfile)
  | observeLookupLatency (latencyMs : ℚ)
  | observeCandidateFlow (now : Instant) (key : ClusterKey) (notionalWei gasPriceWei : Nat)
  | preflightScore (now : Instant) (input : PreflightInput)
  | quote (now : Instant) (input : AdaptiveQuoteInput)
  | quoteForRelays (times : Nat → Instant) (input : AdaptiveQuoteInput) (relays : List String)
  | recordSubmitSuccess (latencyMs : ℚ)
  | recordSubmitSuccessForRelay (relay : String) (latencyMs : ℚ)
  | recordSubmitFailure (latencyMs : ℚ)
  | recordSubmitFailureForRelay (relay : String) (latencyMs : ℚ)
  | recordFinalization (expectedProfitWei : Nat) (realizedProfitEth : ℚ) (success : Bool) (finalizationLatencyMs : ℚ)
  | recordFinalizationForRelay (relay : String) (expectedProfitWei : Nat) (realizedProfitEth : ℚ) (success : Bool)
    (finalizationLatencyMs : ℚ)
  | recordContextualOutcome (relay : String) (cluster : ClusterKey) (expectedProfitWei : Nat) (realizedProfitEth : ℚ)
    (outcome : ContextualOutcomeKind)
  | recordReceiptTimeout (finalizationLatencyMs : ℚ)
  | recordReceiptTimeoutForRelay (relay : String) (finalizationLatencyMs : ℚ)

inductive PolicyAnswer
  | done
  | preflight (quote : PreflightQuote)
  | quoted (quote : AdaptiveQuote)
  deriving DecidableEq

namespace AdaptivePolicy

variable (curves : Curves)

def perform (policy : AdaptivePolicy) : PolicyCall → AdaptivePolicy × PolicyAnswer
  | .applyHistoricalProfiles profiles => (policy.applyHistoricalProfiles profiles, .done)
  | .observeLookupLatency latencyMs => (policy.observeLookupLatency latencyMs, .done)
  | .observeCandidateFlow now key notionalWei gasPriceWei =>
    (policy.observeCandidateFlow now key notionalWei gasPriceWei, .done)
  | .preflightScore now input => ((policy.preflightScore curves now input).1,
      .preflight (policy.preflightScore curves now input).2)
  | .quote now input => ((policy.quote curves now input).1, .quoted (policy.quote curves now input).2)
  | .quoteForRelays times input relays => ((policy.quoteForRelays curves times input relays).1,
      .quoted (policy.quoteForRelays curves times input relays).2)
  | .recordSubmitSuccess latencyMs => (policy.recordSubmitSuccess latencyMs, .done)
  | .recordSubmitSuccessForRelay relay latencyMs => (policy.recordSubmitSuccessForRelay relay latencyMs, .done)
  | .recordSubmitFailure latencyMs => (policy.recordSubmitFailure latencyMs, .done)
  | .recordSubmitFailureForRelay relay latencyMs => (policy.recordSubmitFailureForRelay relay latencyMs, .done)
  | .recordFinalization expected realized success latencyMs =>
    (policy.recordFinalization expected realized success latencyMs, .done)
  | .recordFinalizationForRelay relay expected realized success latencyMs =>
    (policy.recordFinalizationForRelay relay expected realized success latencyMs, .done)
  | .recordContextualOutcome relay cluster expected realized outcome =>
    (policy.recordContextualOutcome relay cluster expected realized outcome, .done)
  | .recordReceiptTimeout latencyMs => (policy.recordReceiptTimeout latencyMs, .done)
  | .recordReceiptTimeoutForRelay relay latencyMs => (policy.recordReceiptTimeoutForRelay relay latencyMs, .done)

/-- The answers to a sequence of calls. -/
def answers (policy : AdaptivePolicy) : List PolicyCall → List PolicyAnswer
  | [] => []
  | call :: calls => (policy.perform curves call).2 :: (policy.perform curves call).1.answers calls

/-- Two policies answer every later sequence of calls alike. -/
def Agrees (left right : AdaptivePolicy) : Prop := ∀ calls, left.answers curves calls = right.answers curves calls

/-- A policy that `new` builds from the configuration, with the statistics and flows of this one. -/
def rebuilt (policy : AdaptivePolicy) (config : PricedConfig) : AdaptivePolicy where
  toPolicyLimits := (new config).toPolicyLimits
  toPolicyStatistics := policy.toPolicyStatistics

end AdaptivePolicy

/-- A request of the dashboard that changes the configuration. -/
inductive Retune
  | opportunityMode (mode : OpportunityMode)
  | opportunityThresholds (request : OpportunityThresholdRequest)

/-- The configuration behind a request. The handlers write through the locks of the configuration; thresholds
that are refused change nothing. -/
def Retune.apply (config : PricedConfig) : Retune → PricedConfig
  | .opportunityMode mode =>
    { config with mev := { config.mev with opportunityModeLock := config.mev.opportunityModeLock.map fun _ => mode } }
  | .opportunityThresholds request =>
    match ThresholdBoard.answerRead (config.mev.runtimeThresholdsLock.getD ThresholdBoard.unreadable) request with
    | .merged next =>
      { config with mev := { config.mev with
          runtimeThresholdsLock := config.mev.runtimeThresholdsLock.map fun _ => next } }
    | _ => config

inductive PolicyEvent
  | call (call : PolicyCall)
  | retune (retune : Retune)

/-- The policy and the configuration that its neighbours read. -/
structure Tuned where
  policy : AdaptivePolicy
  config : PricedConfig

namespace Tuned

def start (config : PricedConfig) : Tuned := ⟨.new config, config⟩

def step (curves : Curves) (tuned : Tuned) : PolicyEvent → Tuned
  | .call call => { tuned with policy := (tuned.policy.perform curves call).1 }
  | .retune retune => { tuned with config := retune.apply tuned.config }

def run (curves : Curves) (tuned : Tuned) (events : List PolicyEvent) : Tuned := events.foldl (step curves) tuned

end Tuned

namespace AdaptivePolicy

variable {curves : Curves} {policy : AdaptivePolicy}

/-- No call touches the limits. -/
theorem perform_limits (policy : AdaptivePolicy) (call : PolicyCall) :
    (policy.perform curves call).1.toPolicyLimits = policy.toPolicyLimits := by
  cases call with
  | quoteForRelays times input relays =>
    have pruned : ∀ (later : AdaptivePolicy) (now : Instant), later.toPolicyLimits = policy.toPolicyLimits →
        (later.prune now).toPolicyLimits = policy.toPolicyLimits := fun _ _ same => same
    exact quoteForRelays_policy pruned relays rfl
  | _ => rfl

end AdaptivePolicy

namespace Tuned

theorem run_limits (curves : Curves) (tuned : Tuned) (events : List PolicyEvent) :
    (tuned.run curves events).policy.toPolicyLimits = tuned.policy.toPolicyLimits := by
  induction events generalizing tuned with
  | nil => rfl
  | cons event events ih =>
    refine (ih (tuned.step curves event)).trans ?_
    cases event with
    | call call => exact tuned.policy.perform_limits call
    | retune retune => rfl

end Tuned

/-- What a retuning leaves as it is. -/
structure SameChain (config config' : PricedConfig) : Prop where
  network : config'.network = config.network
  price : config'.ethUsdPrice = config.ethUsdPrice
  execGas : config'.estimatedExecGas = config.estimatedExecGas
  bundleGas : config'.estimatedBundleOverheadGas = config.estimatedBundleOverheadGas

theorem Retune.sameChain (retune : Retune) (config : PricedConfig) : SameChain config (retune.apply config) := by
  cases retune with
  | opportunityMode mode => exact ⟨rfl, rfl, rfl, rfl⟩
  | opportunityThresholds request =>
    unfold Retune.apply
    dsimp only
    split
    · exact ⟨rfl, rfl, rfl, rfl⟩
    · exact ⟨rfl, rfl, rfl, rfl⟩

theorem Tuned.run_sameChain (curves : Curves) (tuned : Tuned) (events : List PolicyEvent) :
    SameChain tuned.config (tuned.run curves events).config := by
  induction events generalizing tuned with
  | nil => exact ⟨rfl, rfl, rfl, rfl⟩
  | cons event events ih =>
    have rest := ih (tuned.step curves event)
    cases event with
    | call call => exact rest
    | retune retune =>
      have first := retune.sameChain tuned.config
      exact ⟨rest.network.trans first.network, rest.price.trans first.price, rest.execGas.trans first.execGas,
        rest.bundleGas.trans first.bundleGas⟩

end ArbitrageRuntime.Adaptive
