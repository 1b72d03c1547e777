import ArbitrageRuntime.Adaptive.Quotes
import ArbitrageRuntime.Decoder.Signal

namespace ArbitrageRuntime.Replay

/-- A transaction of the past with what became of it. The calldata is kept as its characters. -/
structure ReplayInputCase where
  txHash : Option String
  recipient : String
  input : List Char
  valueWei : Option String
  gasPriceWei : Option String
  maxFeePerGasWei : Option String
  lookupLatencyMs : Option ℚ
  hourUtc : Option Nat
  knownOutcome : Option String
  realizedProfitEth : Option ℚ

structure ReplayTuning where
  thresholdMultiplier : ℚ
  priorityShift : ℚ
  toxicityShift : ℚ
  gasExtraBps : Nat

def ReplayTuning.default : ReplayTuning where
  thresholdMultiplier := 1
  priorityShift := 0
  toxicityShift := 0
  gasExtraBps := 0

def isPositiveOutcome (outcome : String) : Bool :=
  outcome = "included_success" ∨ outcome = "execute" ∨ outcome = "profitable"

/-- The label of a case. -/
def ReplayInputCase.profitable (case : ReplayInputCase) : Bool :=
  (case.knownOutcome.map isPositiveOutcome).getD false || 0 < case.realizedProfitEth.getD 0

structure ToxicityReplayKey where
  router : Address
  pair : Address
  hourUtc : Nat
  deriving DecidableEq

structure ToxicityReplayStats where
  samples : Nat
  rejected : Nat
  executed : Nat
  profitableLabels : Nat
  falsePositive : Nat
  falseNegative : Nat
  expectedProfitWei : Nat
  realizedProfitEth : ℚ
  lastStage : String

def ToxicityReplayStats.default : ToxicityReplayStats where
  samples := 0
  rejected := 0
  executed := 0
  profitableLabels := 0
  falsePositive := 0
  falseNegative := 0
  expectedProfitWei := 0
  realizedProfitEth := 0
  lastStage := ""

/-- `ToxicityReplayStats::observe`. An executed case brings its expected profit. -/
def ToxicityReplayStats.observe (stats : ToxicityReplayStats) (executed : Option Nat) (case : ReplayInputCase)
    (stage : String) : ToxicityReplayStats :=
  let labelled :=
    { stats with
      samples := stats.samples + 1
      lastStage := stage
      profitableLabels := stats.profitableLabels + case.profitable.toNat }
  match executed with
  | some expectedProfitWei =>
    { labelled with
      executed := stats.executed + 1
      expectedProfitWei := u256Add stats.expectedProfitWei expectedProfitWei
      realizedProfitEth := stats.realizedProfitEth + case.realizedProfitEth.getD 0
      falsePositive := stats.falsePositive + (!case.profitable).toNat }
  | none =>
    { labelled with
      rejected := stats.rejected + 1
      falseNegative := stats.falseNegative + case.profitable.toNat }

/-- The report of a run, without its latencies. -/
structure ReplayReport where
  total : Nat
  decoded : Nat
  fastPreflightPass : Nat
  adaptivePreflightPass : Nat
  payloadBuilt : Nat
  evGatePass : Nat
  qualityGatePass : Nat
  adaptiveQuotePass : Nat
  executeCandidates : Nat
  truePositive : Nat
  falsePositive : Nat
  trueNegative : Nat
  falseNegative : Nat
  forkExecutionAttempts : Nat
  forkExecutionSuccess : Nat
  forkExecutionReverts : Nat
  forkRealizedProfitEth : ℚ
  estimatedGasAvoidedWei : Nat
  expectedProfitWei : Nat
  realizedProfitEth : ℚ
  reasons : String → Nat
  toxicity : ToxicityReplayKey → Option ToxicityReplayStats

namespace ReplayReport

def default : ReplayReport where
  total := 0
  decoded := 0
  fastPreflightPass := 0
  adaptivePreflightPass := 0
  payloadBuilt := 0
  evGatePass := 0
  qualityGatePass := 0
  adaptiveQuotePass := 0
  executeCandidates := 0
  truePositive := 0
  falsePositive := 0
  trueNegative := 0
  falseNegative := 0
  forkExecutionAttempts := 0
  forkExecutionSuccess := 0
  forkExecutionReverts := 0
  forkRealizedProfitEth := 0
  estimatedGasAvoidedWei := 0
  expectedProfitWei := 0
  realizedProfitEth := 0
  reasons := fun _ => 0
  toxicity := fun _ => none

variable (report : ReplayReport)

def bump (key : String) : ReplayReport :=
  { report with reasons := Function.update report.reasons key (report.reasons key + 1) }

def observeLabeledOutcome (executed : Bool) (case : ReplayInputCase) : ReplayReport :=
  match executed, case.profitable with
  | true, true => { report with truePositive := report.truePositive + 1 }
  | true, false => { report with falsePositive := report.falsePositive + 1 }
  | false, true => { report with falseNegative := report.falseNegative + 1 }
  | false, false => { report with trueNegative := report.trueNegative + 1 }

def observeRejectGas (gasPrice gasLimit : Nat) : ReplayReport :=
  { report with
    estimatedGasAvoidedWei := u256Add report.estimatedGasAvoidedWei (u256Mul gasPrice gasLimit) }

def observeExpectedProfit (expectedProfitWei : Nat) : ReplayReport :=
  { report with expectedProfitWei := u256Add report.expectedProfitWei expectedProfitWei }

def observeRealized (case : ReplayInputCase) : ReplayReport :=
  { report with realizedProfitEth := report.realizedProfitEth + case.realizedProfitEth.getD 0 }

def observeToxicity (key : ToxicityReplayKey) (executed : Option Nat) (case : ReplayInputCase) (stage : String) :
    ReplayReport :=
  { report with
    toxicity := Function.update report.toxicity key
      (some (((report.toxicity key).getD .default).observe executed case stage)) }

/-- A rejected case counts for the last token of its path. -/
def observeToxicityReject (signal : SwapSignal) (hourUtc : Nat) (case : ReplayInputCase) (stage : String) :
    ReplayReport :=
  report.observeToxicity ⟨signal.router, signal.path.getLastD 0, hourUtc⟩ none case stage

def observeToxicityExecute (signal : SwapSignal) (pair : Address) (hourUtc : Nat) (case : ReplayInputCase)
    (expectedProfitWei : Nat) : ReplayReport :=
  report.observeToxicity ⟨signal.router, pair, hourUtc⟩ (some expectedProfitWei) case "execute"

/-- The cases that have a label in the report. -/
def labelled : Nat := report.truePositive + report.falsePositive + report.trueNegative + report.falseNegative

end ReplayReport

structure ReplayTuningResult where
  tuning : ReplayTuning
  objectiveScore : ℚ
  realizedProfitEth : ℚ
  executeCandidates : Nat
  falsePositive : Nat
  falseNegative : Nat
  captureRatio : ℚ

def ReplayTuningResult.fromReport (tuning : ReplayTuning) (report : ReplayReport) : ReplayTuningResult where
  tuning := tuning
  objectiveScore := report.realizedProfitEth - report.falsePositive * 0.0025 - report.falseNegative * 0.0015 -
    report.executeCandidates * 0.0002 - tuning.gasExtraBps * 0.0000015
  realizedProfitEth := report.realizedProfitEth
  executeCandidates := report.executeCandidates
  falsePositive := report.falsePositive
  falseNegative := report.falseNegative
  captureRatio :=
    if report.expectedProfitWei = 0 then 0
    else report.realizedProfitEth / max (weiToEth report.expectedProfitWei) (1 / 10 ^ 12)

/-- One row for the decision on a case, without its latency. -/
structure ReplayDecisionRow where
  txHash : String
  stage : String
  decision : String
  reason : String
  expectedProfitEth : ℚ
  evRealUsd : ℚ
  thresholdUsd : ℚ
  deriving DecidableEq

def ReplayDecisionRow.reject (case : ReplayInputCase) (stage reason : String) : ReplayDecisionRow where
  txHash := case.txHash.getD "synthetic"
  stage := stage
  decision := "reject"
  reason := reason
  expectedProfitEth := 0
  evRealUsd := 0
  thresholdUsd := 0

def ReplayDecisionRow.execute (case : ReplayInputCase) (expectedProfitWei : Nat) (quote : Adaptive.AdaptiveQuote) :
    ReplayDecisionRow where
  txHash := case.txHash.getD "synthetic"
  stage := "adaptive"
  decision := "execute"
  reason := "passed"
  expectedProfitEth := weiToEth expectedProfitWei
  evRealUsd := quote.evRealUsd
  thresholdUsd := quote.thresholdDynamicUsd

def tunedContextSignal (base : Adaptive.ContextSignal) (tuning : ReplayTuning) : Adaptive.ContextSignal where
  priorityScore := clamp 0 1 (base.priorityScore + tuning.priorityShift)
  toxicityScore := clamp 0 1 (base.toxicityScore + tuning.toxicityShift)
  samples := base.samples

def shouldExecuteWithTuning (quote : Adaptive.AdaptiveQuote) (tuning : ReplayTuning) : Bool :=
  let thresholdPass : Bool := quote.thresholdDynamicUsd * max tuning.thresholdMultiplier 0.01 < quote.evRealUsd
  if quote.shouldExecute then thresholdPass
  else quote.rejectReason = some "ev_real_below_threshold" && thresholdPass

end ArbitrageRuntime.Replay
