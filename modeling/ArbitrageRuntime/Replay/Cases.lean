import ArbitrageRuntime.Replay.Report
import ArbitrageRuntime.Runtime.PayloadBuild
import ArbitrageRuntime.Runtime.FastPreflight
import ArbitrageRuntime.Runtime.PreDecodeGate
import Mathlib.Data.List.DropRight

namespace ArbitrageRuntime.Replay

/-- The parsers of hashes, addresses, bytes and words, which come from other crates. -/
structure CaseReader where
  hash : List Char → Option Hash
  address : List Char → Option Address
  hexBytes : List Char → Option Bytes
  hexWord : List Char → Option Nat
  decWord : List Char → Option Nat

/-- `char::is_whitespace` -/
def isWhiteSpace (c : Char) : Bool :=
  (9 ≤ c.toNat && c.toNat ≤ 13) || (0x2000 ≤ c.toNat && c.toNat ≤ 0x200a) ||
    [0x20, 0x85, 0xa0, 0x1680, 0x2028, 0x2029, 0x202f, 0x205f, 0x3000].contains c.toNat

def trim (text : List Char) : List Char := (text.dropWhile isWhiteSpace).rdropWhile isWhiteSpace

/-- `trim_start_matches("0x")` -/
def trimStartMatches0x : List Char → List Char
  | '0' :: 'x' :: rest => trimStartMatches0x rest
  | text => text

def parseU256 (reader : CaseReader) (value : Option String) : Option Nat :=
  value.bind fun value =>
    match trim value.toList with
    | [] => none
    | '0' :: 'x' :: hex => reader.hexWord hex
    | text => reader.decWord text

inductive CaseDefect
  | hash
  | recipient
  | input
  deriving DecidableEq

/-- The transaction of a case. One without a hash is named by its position. -/
def replayTransaction (reader : CaseReader) (case : ReplayInputCase) (fallbackNonce : Nat) :
    Except CaseDefect MempoolTransaction :=
  match case.txHash.elim (some (BitVec.ofNat 256 fallbackNonce)) fun text => reader.hash text.toList with
  | none => .error .hash
  | some hash =>
    match reader.address case.recipient.toList with
    | none => .error .recipient
    | some recipient =>
      match reader.hexBytes (trimStartMatches0x case.input) with
      | none => .error .input
      | some input => .ok
          { hash := hash
            recipient := some recipient
            input := input
            value := (parseU256 reader case.valueWei).getD 0
            gasPrice := parseU256 reader case.gasPriceWei
            maxFeePerGas := parseU256 reader case.maxFeePerGasWei }

structure ForkExecutionOutcome where
  success : Bool
  realizedProfitEth : ℚ

/-- What one case meets on the outside: the pools, the hour, the times of its steps and the fork. -/
structure CaseReadings where
  view : ChainView
  utcHour : Nat
  flowAt : Instant
  preflightAt : Instant
  quoteAt : Nat → Instant
  executePayloadOnFork : Except String ForkExecutionOutcome

/-- The arguments of a run and what it reads from the environment. -/
structure ReplaySettings where
  config : RuntimeConfig
  abi : Abi.Decoder
  curves : Adaptive.Curves
  reader : CaseReader
  minLargeSwapWei : Nat
  minProfitWei : Nat
  tuning : ReplayTuning
  executeOnFork : Bool
  forkHardFail : Bool

structure ReplayState where
  adaptive : Adaptive.SharedAdaptivePolicy
  report : ReplayReport
  decisionRows : List ReplayDecisionRow

/-- What ends a run early: an error, or a panic that unwinds it. -/
inductive ReplayStop
  | badCase (defect : CaseDefect)
  | forkReverted
  | forkFailed (error : String)
  | panicked

/-- A case that has been decoded, with what the later stages need of it. -/
structure DecodedCase where
  case : ReplayInputCase
  signal : SwapSignal
  hourUtc : Nat
  gasPrice : Nat
  contextSignal : Adaptive.ContextSignal

def DecodedCase.lookupLatencyMs (decoded : DecodedCase) : ℚ := decoded.case.lookupLatencyMs.getD 75.0

namespace ReplayState

variable (state : ReplayState)

def bump (key : String) : ReplayState := { state with report := state.report.bump key }

/-- A stage turns the case away: it gets its label and its row. -/
def reject (decoded : DecodedCase) (gasLimit : Nat) (key stage reason : String) : ReplayState :=
  { state with
    report :=
      (((state.report.observeLabeledOutcome false decoded.case).observeRejectGas decoded.gasPrice gasLimit).bump
        key).observeToxicityReject decoded.signal decoded.hourUtc decoded.case stage
    decisionRows := state.decisionRows ++ [.reject decoded.case stage reason] }

/-- The case passes every stage. -/
def execute (decoded : DecodedCase) (payload : ExecutionPayload) (quote : Adaptive.AdaptiveQuote) : ReplayState :=
  { state with
    report :=
      ((state.report.observeLabeledOutcome true decoded.case).observeRealized decoded.case).observeToxicityExecute
        decoded.signal payload.pair decoded.hourUtc decoded.case payload.expectedProfitWei
    decisionRows := state.decisionRows ++ [.execute decoded.case payload.expectedProfitWei quote] }

end ReplayState

namespace ReplaySettings

variable (settings : ReplaySettings)

def relayPaths : List String :=
  if settings.config.builderRelays.isEmpty then ["rpc://" ++ settings.config.network] else settings.config.builderRelays

def gasPriceForTuning (gasPrice : Nat) : Nat := u256Mul gasPrice (10000 + settings.tuning.gasExtraBps) / 10000

def executionCostWei (payload : ExecutionPayload) (gasPrice : Nat) : Nat :=
  safetyGasCostWei settings.config.toPricedConfig payload (settings.gasPriceForTuning gasPrice)

def quoteInput (decoded : DecodedCase) (payload : ExecutionPayload) : Adaptive.AdaptiveQuoteInput where
  cluster := decoded.signal.cluster
  pair := payload.pair
  hourUtc := decoded.hourUtc
  contextPriorityScore := decoded.contextSignal.priorityScore
  contextToxicityScore := decoded.contextSignal.toxicityScore
  expectedProfitWei := payload.expectedProfitWei
  executionCostWei := settings.executionCostWei payload decoded.gasPrice
  gasPriceWei := settings.gasPriceForTuning decoded.gasPrice
  lookupLatencyMs := decoded.lookupLatencyMs
  notionalEth := weiToEth decoded.signal.notionalWei
  priceImpactBps := payload.priceImpactBps
  relayPressureOverride := none

/-- The execution on the fork, when it is asked for. -/
def replayFork (readings : CaseReadings) (report : ReplayReport) : Except ReplayStop ReplayReport :=
  if settings.executeOnFork then
    let attempted := { report with forkExecutionAttempts := report.forkExecutionAttempts + 1 }
    match readings.executePayloadOnFork with
    | .ok outcome =>
      let counted :=
        if outcome.success then { attempted with forkExecutionSuccess := attempted.forkExecutionSuccess + 1 }
        else { attempted with forkExecutionReverts := attempted.forkExecutionReverts + 1 }
      if outcome.success = false ∧ settings.forkHardFail then .error .forkReverted
      else .ok
          { counted with forkRealizedProfitEth := counted.forkRealizedProfitEth + outcome.realizedProfitEth }
    | .error err =>
      if settings.forkHardFail then .error (.forkFailed err)
      else .ok { attempted with forkExecutionReverts := attempted.forkExecutionReverts + 1 }
  else .ok report

/-- The last stage: the quote of the policy. -/
def replayQuote (readings : CaseReadings) (state : ReplayState) (decoded : DecodedCase) (payload : ExecutionPayload) :
    Except ReplayStop ReplayState :=
  match state.adaptive.lock with
  | none => .ok (state.bump "adaptive_lock_error")
  | some model =>
    let quoted := model.quoteForRelays settings.curves readings.quoteAt (settings.quoteInput decoded payload)
      settings.relayPaths
    let state := { state with adaptive := { state.adaptive with value := quoted.1 } }
    let quote := quoted.2
    if shouldExecuteWithTuning quote settings.tuning = false then
      let reason := quote.rejectReason.getD "reject"
      .ok (state.reject decoded payload.gasLimit ("adaptive:" ++ reason) "adaptive" reason)
    else
      let passed :=
        { state.report with
          executeCandidates := state.report.executeCandidates + 1
          adaptiveQuotePass := state.report.adaptiveQuotePass + 1 }
      match settings.replayFork readings passed with
      | .error stop => .error stop
      | .ok report => .ok ({ state with report := report }.execute decoded payload quote)

/-- The gates on the figures of a payload. -/
def replayPayload (readings : CaseReadings) (state : ReplayState) (decoded : DecodedCase)
    (payload : ExecutionPayload) : Except ReplayStop ReplayState :=
  let config := settings.config.toPricedConfig
  let state :=
    { state with
      report :=
        { state.report with payloadBuilt := state.report.payloadBuilt + 1 }.observeExpectedProfit
          payload.expectedProfitWei }
  if passesEvGate config payload decoded.signal (asU64 ⌊decoded.lookupLatencyMs⌋) settings.minProfitWei = false then
    .ok (state.reject decoded payload.gasLimit "ev_gate_reject" "ev_gate" "ev_gate_reject")
  else
    let state := { state with report := { state.report with evGatePass := state.report.evGatePass + 1 } }
    if passesQualityGate config payload (settings.executionCostWei payload decoded.gasPrice) = false then
      .ok (state.reject decoded payload.gasLimit "quality_gate_reject" "quality_gate" "quality_gate_reject")
    else
      settings.replayQuote readings
        { state with report := { state.report with qualityGatePass := state.report.qualityGatePass + 1 } } decoded
        payload

def preflightInput (decoded : DecodedCase) : Adaptive.PreflightInput where
  cluster := decoded.signal.cluster
  notionalEth := weiToEth decoded.signal.notionalWei
  gasPriceWei := decoded.gasPrice
  pathLen := decoded.signal.path.length

/-- The preflight of the policy, and the payload. -/
def replayPreflight (readings : CaseReadings) (state : ReplayState) (decoded : DecodedCase) :
    Except ReplayStop ReplayState :=
  match state.adaptive.lock with
  | none => .ok (state.bump "adaptive_lock_error")
  | some model =>
    let scored := ((model.observeLookupLatency decoded.lookupLatencyMs).observeCandidateFlow readings.flowAt
      decoded.signal.cluster decoded.signal.notionalWei decoded.gasPrice).preflightScore settings.curves readings.preflightAt
      (preflightInput decoded)
    let state := { state with adaptive := { state.adaptive with value := scored.1 } }
    let preflight := scored.2
    if preflight.shouldContinue = false then
      let reason := preflight.rejectReason.getD "reject"
      .ok (state.reject decoded settings.config.estimatedExecGas ("preflight:" ++ reason) "preflight" reason)
    else
      let state :=
        { state with
          report := { state.report with adaptivePreflightPass := state.report.adaptivePreflightPass + 1 } }
      match readings.view.buildPayload settings.config decoded.signal decoded.gasPrice decoded.contextSignal with
      | .error stop =>
        if stop.panics then .error .panicked
        else
          .ok (state.reject decoded settings.config.estimatedExecGas "payload_build_reject" "payload"
            "payload_build_reject")
      | .ok payload => settings.replayPayload readings state decoded payload

def replayFastPreflight (readings : CaseReadings) (state : ReplayState) (decoded : DecodedCase) :
    Except ReplayStop ReplayState :=
  let gate := fastPreflightGate decoded.signal decoded.gasPrice settings.minLargeSwapWei
    settings.config.toPricedConfig decoded.contextSignal
  if gate.shouldContinue = false then
    let reason := gate.rejectReason.getD "reject"
    .ok (state.reject decoded settings.config.estimatedExecGas ("fast_preflight:" ++ reason) "fast_preflight" reason)
  else
    settings.replayPreflight readings
      { state with report := { state.report with fastPreflightPass := state.report.fastPreflightPass + 1 } } decoded

def decodedCase (readings : CaseReadings) (adaptive : Adaptive.SharedAdaptivePolicy) (case : ReplayInputCase)
    (tx : MempoolTransaction) (signal : SwapSignal) : DecodedCase :=
  let hourUtc := case.hourUtc.getD readings.utcHour
  { case := case
    signal := signal
    hourUtc := hourUtc
    gasPrice := tx.offeredGasPrice
    contextSignal := tunedContextSignal (adaptive.contextSignal signal.router hourUtc) settings.tuning }

/-- The swap in a transaction, as the replay decodes it. -/
def decodeSwap (tx : MempoolTransaction) : Decoding SwapSignal :=
  decodeRelevantSwap settings.abi tx.toPendingTransaction settings.config.monitoredTokens settings.minLargeSwapWei
    settings.config.mev.opportunityMode

/-- One pass of the loop. -/
def replayCase (index : Nat) (readings : CaseReadings) (state : ReplayState) (case : ReplayInputCase) :
    Except ReplayStop ReplayState :=
  let state := { state with report := { state.report with total := state.report.total + 1 } }
  match replayTransaction settings.reader case index with
  | .error defect => .error (.badCase defect)
  | .ok tx =>
    match settings.decodeSwap tx with
    | .fails _ => .error .panicked
    | .declines => .ok (state.bump "decode_reject")
    | .gives signal =>
      let state := { state with report := { state.report with decoded := state.report.decoded + 1 } }
      if tx.offeredGasPrice = 0 then .ok (state.bump "missing_gas")
      else settings.replayFastPreflight readings state (settings.decodedCase readings state.adaptive case tx signal)

def replayCasesFrom (readings : Nat → CaseReadings) : Nat → ReplayState → List ReplayInputCase →
    Except ReplayStop ReplayState
  | _, state, [] => .ok state
  | index, state, case :: cases =>
    match settings.replayCase index (readings index) state case with
    | .error stop => .error stop
    | .ok next => replayCasesFrom readings (index + 1) next cases

def startingState (profiles : List Adaptive.HistoricalOutcomeProfile) : ReplayState where
  adaptive :=
    { value := (Adaptive.AdaptivePolicy.new settings.config.toPricedConfig).applyHistoricalProfiles profiles
      poisoned := false }
  report := .default
  decisionRows := []

structure ReplayRunOutput where
  report : ReplayReport
  decisionRows : List ReplayDecisionRow

def runReplayCases (readings : Nat → CaseReadings) (cases : List ReplayInputCase)
    (profiles : List Adaptive.HistoricalOutcomeProfile) : Except ReplayStop ReplayRunOutput :=
  match settings.replayCasesFrom readings 0 (settings.startingState profiles) cases with
  | .error stop => .error stop
  | .ok state => .ok ⟨state.report, state.decisionRows⟩

end ReplaySettings

end ArbitrageRuntime.Replay
