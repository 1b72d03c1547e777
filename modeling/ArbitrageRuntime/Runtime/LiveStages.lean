import ArbitrageRuntime.Adaptive.Quotes
import ArbitrageRuntime.Runtime.FastPreflight
import ArbitrageRuntime.Runtime.MicroBatch
import ArbitrageRuntime.Runtime.PayloadBuild
import ArbitrageRuntime.Runtime.PreDecodeGate

namespace ArbitrageRuntime

/-- What the live stages read from the environment. -/
structure LiveEnvironment where
  preDecodeGasCapMultiplier : Option ℚ
  minPartialDecodeConfidence : Option ℚ
  gasCapResearchBypass : Option Bool
  researchMaxGasRatio : Option ℚ
  scavenger : ScavengerSettings
  evmPreflightEnabled : Bool

/-- The arguments of the live stages. The threshold arguments are only used where the effective ones do not parse. -/
structure LiveStages where
  config : RuntimeConfig
  abi : Abi.Decoder
  curves : Adaptive.Curves
  ln : ℚ → ℚ
  environment : LiveEnvironment
  minLargeSwapWei : Nat
  minProfitWei : Nat

/-- What one transaction meets on its way through the stages. The payload is built over several endpoints, each with
its own view of the chain, in the order in which they finish. -/
structure LiveReadings where
  pendingTx : Option MempoolTransaction
  lookupPendingTx : Option MempoolTransaction
  lookupMs : Nat
  utcHour : Nat
  smallBudgetAt : Instant
  currentBlock : Option Nat
  lookupLatencyMs : Nat
  flowAt : Instant
  preflightAt : Instant
  quoteAt : Nat → Instant
  views : List ChainView
  validateWithEvmPreflight : Except String Bool

/-- What the stages share with each other. -/
structure LiveState where
  adaptive : Adaptive.SharedAdaptivePolicy
  smallScavengerBudget : Mutex SmallSwapBudget

inductive LivePanic
  | decode (panic : Panic)
  | gasCapClamp

structure LookupDecodedCandidate where
  tx : MempoolTransaction
  signal : SwapSignal
  lane : CandidateLane
  hourUtc : Nat
  gasPrice : Nat
  contextSignal : Adaptive.ContextSignal
  cluster : ClusterKey
  lookupLatencyMs : Nat
  blockNumber : Nat

def buildOpportunity (tx : MempoolTransaction) (signal : SwapSignal) (payload : ExecutionPayload)
    (preferredRelay : Option String) : MevOpportunity where
  victimTx := tx.hash
  executionPayload := some payload
  router := signal.router
  tokenIn := signal.cluster.tokenIn
  tokenOut := signal.cluster.tokenOut
  selector := signal.selector
  preferredRelay := preferredRelay

/-- The gain on the committed capital, in units of the native asset. -/
def capitalEfficiency (config : PricedConfig) (payload : ExecutionPayload) (gainUsd : ℚ) : ℚ :=
  let capitalEth := max (weiToEth payload.capitalCommittedWei) (1 / 10 ^ 9)
  clamp 0 1 (max (gainUsd / capitalEth) 0 / max config.ethUsdPrice 1)

def LiveEnvironment.minConfidence (environment : LiveEnvironment) : ℚ :=
  clamp 0 1 (environment.minPartialDecodeConfidence.getD 0.30)

def scavengerGasCapResearchBypass (config : PricedConfig) (environment : LiveEnvironment) (signal : SwapSignal)
    (fastGate : FastPreflightDecision) : Bool :=
  config.mev.opportunityMode = .scavenger && !config.allowSend && environment.gasCapResearchBypass.getD true &&
    0.35 ≤ signal.decodeConfidence && fastGate.gasRatio ≤ clamp 1 100 (environment.researchMaxGasRatio.getD 25)

def shouldOverridePreflightReject (config : PricedConfig) (preflight : Adaptive.PreflightQuote) : Bool :=
  match config.mev.opportunityMode with
  | .conservative => false
  | .aggressive =>
    config.mev.effectiveMinProfitUsd * 0.45 ≤ preflight.upperBoundEvUsd && 0.12 ≤ preflight.preflightScore &&
      preflight.gasPressure ≤ 1.05
  | .scavenger => true

def shouldOverrideAdaptiveReject (config : PricedConfig) (quote : Adaptive.AdaptiveQuote) : Bool :=
  match config.mev.opportunityMode with
  | .conservative => false
  | .aggressive =>
    config.mev.effectiveMinProfitUsd ≤ quote.evRealUsd && 0.20 ≤ quote.pPositive && quote.riskScore ≤ 0.95 &&
      quote.gasPressure ≤ 1.00
  | .scavenger => true

/-- The transaction in full, or else looked up. A lookup that succeeds is observed by the policy. -/
def lookupTx (readings : LiveReadings) (state : LiveState) : Option MempoolTransaction × LiveState :=
  match readings.pendingTx with
  | some tx => (some tx, state)
  | none =>
    match readings.lookupPendingTx, state.adaptive.lock with
    | none, _ => (none, state)
    | some tx, none => (some tx, state)
    | some tx, some model =>
      (some tx, { state with
        adaptive := { state.adaptive with value := model.observeLookupLatency readings.lookupMs } })

namespace LiveStages

variable (stages : LiveStages)

/-- Small swaps share a budget in Scavenger mode. -/
def allowLane (readings : LiveReadings) (state : LiveState) (lane : CandidateLane) : Bool × LiveState :=
  if lane = .small ∧ stages.config.mev.opportunityMode = .scavenger then
    let asked := allowSmallScavengerCandidate state.smallScavengerBudget readings.smallBudgetAt
    (asked.1, { state with smallScavengerBudget := asked.2 })
  else (true, state)

/-- The checks on a signal that has been decoded. -/
def admitSignal (readings : LiveReadings) (state : LiveState) (tx : MempoolTransaction) (signal : SwapSignal)
    (minLargeSwapWei : Nat) : Attempt LivePanic LookupDecodedCandidate × LiveState :=
  if signal.decodeConfidence < stages.environment.minConfidence then (.declines, state)
  else if tx.offeredGasPrice = 0 then (.declines, state)
  else
    let lane := classifyCandidateLane signal minLargeSwapWei
    let allowed := stages.allowLane readings state lane
    if allowed.1 = false then (.declines, allowed.2)
    else
      match readings.currentBlock with
      | none => (.declines, allowed.2)
      | some blockNumber =>
        (.gives
          { tx := tx
            signal := signal
            lane := lane
            hourUtc := readings.utcHour
            gasPrice := tx.offeredGasPrice
            contextSignal := state.adaptive.contextSignal signal.router readings.utcHour
            cluster := signal.cluster
            lookupLatencyMs := readings.lookupLatencyMs
            blockNumber := blockNumber }, allowed.2)

def processLookupDecodeTask (readings : LiveReadings) (state : LiveState) :
    Attempt LivePanic LookupDecodedCandidate × LiveState :=
  match lookupTx readings state with
  | (none, state) => (.declines, state)
  | (some tx, state) =>
    if (preDecodeTxGate stages.config.mev stages.environment.preDecodeGasCapMultiplier tx).isSome then
      (.declines, state)
    else
      match parseEther stages.config.mev.effectiveMinLargeSwapEth with
      | none => (.declines, state)
      | some minLargeSwapWei =>
        match decodeRelevantSwap stages.abi tx.toPendingTransaction stages.config.monitoredTokens minLargeSwapWei
            stages.config.mev.opportunityMode with
        | .fails panic => (.fails (.decode panic), state)
        | .declines => (.declines, state)
        | .gives signal => stages.admitSignal readings state tx signal minLargeSwapWei

/-- The gas price may not go over the cap that the expected gain allows; research in shadow mode may. -/
def passesGasCap (candidate : LookupDecodedCandidate) (fastGate : FastPreflightDecision) : Attempt LivePanic Unit :=
  match stages.config.mev.maxGasPriceGwei with
  | none => .gives ()
  | some maxGasPriceGwei =>
    match adaptiveGasCapGwei fastGate.evUpperBoundUsd (weiToEth candidate.signal.notionalWei) maxGasPriceGwei with
    | none => .fails .gasCapClamp
    | some cap =>
      .require (Adaptive.weiToGwei candidate.gasPrice ≤ cap ∨ scavengerGasCapResearchBypass
        stages.config.toPricedConfig stages.environment candidate.signal fastGate)

def observeFlow (readings : LiveReadings) (state : LiveState) (candidate : LookupDecodedCandidate) : LiveState :=
  match state.adaptive.lock with
  | none => state
  | some model =>
    { state with
      adaptive :=
        { state.adaptive with
          value := model.observeCandidateFlow readings.flowAt candidate.cluster candidate.signal.notionalWei
            candidate.gasPrice } }

/-- The preflight of the policy, which Scavenger mode leaves out. -/
def adaptivePreflight (readings : LiveReadings) (state : LiveState) (candidate : LookupDecodedCandidate) :
    Bool × LiveState :=
  if stages.config.mev.opportunityMode = .scavenger then (true, state)
  else
    match state.adaptive.lock with
    | none => (false, state)
    | some model =>
      let scored := model.preflightScore stages.curves readings.preflightAt
        { cluster := candidate.cluster
          notionalEth := weiToEth candidate.signal.notionalWei
          gasPriceWei := candidate.gasPrice
          pathLen := candidate.signal.pathLen }
      (scored.2.shouldContinue || shouldOverridePreflightReject stages.config.toPricedConfig scored.2,
        { state with adaptive := { state.adaptive with value := scored.1 } })

/-- The first payload that one of the endpoints comes up with. A build that panics is one that failed. -/
def buildPayloadWithFallbackParallel (readings : LiveReadings) (candidate : LookupDecodedCandidate) :
    Option ExecutionPayload :=
  readings.views.findSome? fun view =>
    (view.buildPayload stages.config candidate.signal candidate.gasPrice candidate.contextSignal).toOption

/-- The last gates in Scavenger mode. -/
def scavengerCandidate (candidate : LookupDecodedCandidate) (fastGate : FastPreflightDecision)
    (payload : ExecutionPayload) : Option PendingExecutionCandidate :=
  let config := stages.config.toPricedConfig
  let economic := scavengerEconomicEdgeDiagnostic config stages.environment.scavenger payload candidate.gasPrice
  if economic.pass = false then none
  else
    match passesScavengerSanityGate config.toConfig payload candidate.lookupLatencyMs with
    | .error _ => none
    | .ok _ =>
      let quote := scavengerWarQuoteDiagnostic config payload candidate.signal candidate.gasPrice economic
      if quote.pass = false then none
      else
        let expectedProfitUsd := max quote.netEvUsd 0
        some
          { opportunity := buildOpportunity candidate.tx candidate.signal payload none
            evRealUsd := expectedProfitUsd
            pPositive := clamp 0.05 0.98 (0.45 + fastGate.scavengerTryScore * 0.50)
            capitalEfficiency := capitalEfficiency config payload expectedProfitUsd
            relayScore := clamp 0 1 fastGate.gasRatio
            contextPriorityScore := candidate.contextSignal.priorityScore }

/-- The last gates in the other modes, from the expected value to the quote of the policy. -/
def standardCandidate (readings : LiveReadings) (state : LiveState) (candidate : LookupDecodedCandidate)
    (payload : ExecutionPayload) : Option PendingExecutionCandidate × LiveState :=
  let config := stages.config.toPricedConfig
  let minProfitWei := (parseEther config.mev.effectiveMinNetProfitEth).getD stages.minProfitWei
  let executionCostWei := safetyGasCostWei config payload candidate.gasPrice
  if (evGateDiagnostic config payload candidate.signal candidate.lookupLatencyMs minProfitWei).pass = false then
    (none, state)
  else if (qualityGateDiagnostic config payload executionCostWei).pass = false then (none, state)
  else
    match state.adaptive.lock with
    | none => (none, state)
    | some model =>
      let quoted := model.quoteForRelays stages.curves readings.quoteAt
        { cluster := candidate.cluster
          pair := payload.pair
          hourUtc := candidate.hourUtc
          contextPriorityScore := candidate.contextSignal.priorityScore
          contextToxicityScore := candidate.contextSignal.toxicityScore
          expectedProfitWei := payload.expectedProfitWei
          executionCostWei := executionCostWei
          gasPriceWei := candidate.gasPrice
          lookupLatencyMs := candidate.lookupLatencyMs
          notionalEth := weiToEth candidate.signal.notionalWei
          priceImpactBps := payload.priceImpactBps
          relayPressureOverride := none } config.builderRelays
      let state := { state with adaptive := { state.adaptive with value := quoted.1 } }
      let quote := quoted.2
      if quote.shouldExecute = false ∧ shouldOverrideAdaptiveReject config quote = false then (none, state)
      else
        (some
          { opportunity := buildOpportunity candidate.tx candidate.signal payload quote.selectedRelay
            evRealUsd := quote.evRealUsd
            pPositive := quote.pPositive
            capitalEfficiency := capitalEfficiency config payload quote.evRealUsd
            relayScore := quote.builderPressure
            contextPriorityScore := quote.contextPriorityScore }, state)

def passesEvmPreflight (readings : LiveReadings) : Bool :=
  if stages.environment.evmPreflightEnabled ∧ stages.config.mev.opportunityMode ≠ .scavenger then
    match readings.validateWithEvmPreflight with
    | .ok success => success
    | .error _ => false
  else true

/-- From a payload to a candidate. -/
def judgePayload (readings : LiveReadings) (state : LiveState) (candidate : LookupDecodedCandidate)
    (fastGate : FastPreflightDecision) (payload : ExecutionPayload) : Option PendingExecutionCandidate × LiveState :=
  let config := stages.config.toPricedConfig
  if (validatePayloadEv stages.ln config payload candidate.signal candidate.gasPrice).pass = false then (none, state)
  else if stages.passesEvmPreflight readings = false then (none, state)
  else if config.mev.opportunityMode = .scavenger then (stages.scavengerCandidate candidate fastGate payload, state)
  else stages.standardCandidate readings state candidate payload

def processEvaluationTask (readings : LiveReadings) (state : LiveState) (candidate : LookupDecodedCandidate) :
    Attempt LivePanic PendingExecutionCandidate × LiveState :=
  let config := stages.config.toPricedConfig
  let minLargeSwapWei := (parseEther config.mev.effectiveMinLargeSwapEth).getD stages.minLargeSwapWei
  let fastGate := fastPreflightGate candidate.signal candidate.gasPrice minLargeSwapWei config candidate.contextSignal
  match stages.passesGasCap candidate fastGate with
  | .fails panic => (.fails panic, state)
  | .declines => (.declines, state)
  | .gives _ =>
    if fastGate.shouldContinue = false then (.declines, state)
    else
      let scored := stages.adaptivePreflight readings (observeFlow readings state candidate) candidate
      if scored.1 = false then (.declines, scored.2)
      else
        match stages.buildPayloadWithFallbackParallel readings candidate with
        | none => (.declines, scored.2)
        | some payload =>
          let judged := stages.judgePayload readings scored.2 candidate fastGate payload
          (.ofOption judged.1, judged.2)

end LiveStages

namespace LiveStages

variable {stages : LiveStages} {readings : LiveReadings} {state : LiveState}

/-- The sanity gate asks for a signed transaction, which no builder provides. -/
theorem scavengerCandidate_unsigned {candidate : LookupDecodedCandidate} {fastGate : FastPreflightDecision}
    {payload : ExecutionPayload} (unsigned : payload.tx = []) :
    stages.scavengerCandidate candidate fastGate payload = none := by
  have refused : passesScavengerSanityGate stages.config.toConfig payload candidate.lookupLatencyMs =
      .error "scavenger_empty_payload" := by
    simp [passesScavengerSanityGate, unsigned]
  unfold scavengerCandidate
  dsimp only
  split
  · rfl
  · rw [refused]

/-- Whatever payload comes up, the mode is Scavenger and the payload is not signed. -/
theorem buildPayloadWithFallbackParallel_unsigned {candidate : LookupDecodedCandidate} {payload : ExecutionPayload}
    (built : stages.buildPayloadWithFallbackParallel readings candidate = some payload) :
    stages.config.mev.opportunityMode = .scavenger ∧ payload.tx = [] := by
  obtain ⟨view, _, found⟩ := List.exists_of_findSome?_eq_some built
  cases outcome : view.buildPayload stages.config candidate.signal candidate.gasPrice candidate.contextSignal with
  | error stop => simp [outcome, Except.toOption] at found
  | ok other =>
    rw [outcome] at found
    cases Option.some.inj found
    obtain ⟨scavenger, _, input, builtV2⟩ := ChainView.buildPayload_ok outcome
    exact ⟨scavenger, (gateReady_of_buildFeeExtractionV2 scavenger builtV2).1⟩

theorem judgePayload_unsigned {candidate : LookupDecodedCandidate} {fastGate : FastPreflightDecision}
    {payload : ExecutionPayload} (scavenger : stages.config.mev.opportunityMode = .scavenger)
    (unsigned : payload.tx = []) : (stages.judgePayload readings state candidate fastGate payload).1 = none := by
  unfold judgePayload
  dsimp only
  split
  · rfl
  split
  · rfl
  · exact scavengerCandidate_unsigned unsigned

/-- The evaluation never emits a candidate. -/
theorem processEvaluationTask_emits_none (candidate : LookupDecodedCandidate) (ready : PendingExecutionCandidate) :
    (stages.processEvaluationTask readings state candidate).1 ≠ .gives ready := by
  intro emitted
  unfold processEvaluationTask at emitted
  dsimp only at emitted
  split at emitted
  · exact absurd emitted (by simp)
  · exact absurd emitted (by simp)
  split at emitted
  · exact absurd emitted (by simp)
  split at emitted
  · exact absurd emitted (by simp)
  split at emitted
  · exact absurd emitted (by simp)
  · rename_i payload built
    obtain ⟨scavenger, unsigned⟩ := buildPayloadWithFallbackParallel_unsigned built
    rw [judgePayload_unsigned scavenger unsigned] at emitted
    exact absurd emitted (by simp)

end LiveStages

end ArbitrageRuntime
