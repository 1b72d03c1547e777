import ArbitrageRuntime.Lib.Relational
import ArbitrageRuntime.Base

namespace ArbitrageRuntime.Storage

/-- The clock in nanoseconds. Its RFC 3339 texts are ordered like the times. -/
abbrev Time := Nat

/-- `CAST(substr(at, 12, 2) AS INTEGER)` -/
def hourUtc (time : Time) : Nat := time / (3600 * 10 ^ 9) % 24

structure RelayOutcome where
  relay : String
  accepted : Nat
  submitFailed : Nat
  includedSuccess : Nat
  includedRevert : Nat
  notIncludedTimeout : Nat
  submitLatencyMs : Option ℚ
  finalizationLatencyMs : Option ℚ
  score : Option ℚ
  pressure : Option ℚ
  acceptRate : Option ℚ
  inclusionRate : Option ℚ

structure RelayMetrics where
  relay : String
  network : String
  lastSeenAt : Time
  accepted : Nat
  submitFailed : Nat
  includedSuccess : Nat
  includedRevert : Nat
  notIncludedTimeout : Nat
  submitLatencyMs : ℚ
  finalizationLatencyMs : ℚ
  score : ℚ
  pressure : ℚ
  acceptRate : ℚ
  inclusionRate : ℚ

def scopedRelay (network relay : String) : String := network ++ "::" ++ relay

/-- Behind the first `::` of a text. -/
def behindColons : List Char → Option (List Char)
  | ':' :: ':' :: rest => some rest
  | _ :: rest => behindColons rest
  | [] => none

def unscopedRelay (relay : String) : String :=
  match behindColons relay.toList with
  | some value => String.ofList value
  | none => relay

def RelayOutcome.row (network : String) (now : Time) (outcome : RelayOutcome) : RelayMetrics where
  relay := scopedRelay network outcome.relay
  network := network
  lastSeenAt := now
  accepted := outcome.accepted
  submitFailed := outcome.submitFailed
  includedSuccess := outcome.includedSuccess
  includedRevert := outcome.includedRevert
  notIncludedTimeout := outcome.notIncludedTimeout
  submitLatencyMs := outcome.submitLatencyMs.getD 0
  finalizationLatencyMs := outcome.finalizationLatencyMs.getD 0
  score := outcome.score.getD 0
  pressure := outcome.pressure.getD 0
  acceptRate := outcome.acceptRate.getD 0
  inclusionRate := outcome.inclusionRate.getD 0

/-- A latency of zero means that there is none. -/
def smoothed (old new : ℚ) : ℚ :=
  if 0 < new ∧ 0 < old then old * 0.8 + new * 0.2
  else if 0 < new then new
  else old

def latest (old new : ℚ) : ℚ := if 0 < new then new else old

def RelayMetrics.merge (old new : RelayMetrics) : RelayMetrics where
  relay := old.relay
  network := new.network
  lastSeenAt := new.lastSeenAt
  accepted := old.accepted + new.accepted
  submitFailed := old.submitFailed + new.submitFailed
  includedSuccess := old.includedSuccess + new.includedSuccess
  includedRevert := old.includedRevert + new.includedRevert
  notIncludedTimeout := old.notIncludedTimeout + new.notIncludedTimeout
  submitLatencyMs := smoothed old.submitLatencyMs new.submitLatencyMs
  finalizationLatencyMs := smoothed old.finalizationLatencyMs new.finalizationLatencyMs
  score := latest old.score new.score
  pressure := latest old.pressure new.pressure
  acceptRate := latest old.acceptRate new.acceptRate
  inclusionRate := latest old.inclusionRate new.inclusionRate

structure TreasuryRecommendation where
  executorAddress : String
  vaultAddress : String
  profitAddress : String
  balanceEth : ℚ
  minBufferEth : ℚ
  targetBufferEth : ℚ
  maxBufferEth : ℚ
  action : String
  recommendedAmountEth : ℚ
  status : String
  note : String

structure TreasuryRow extends TreasuryRecommendation where
  network : String
  recordedAt : Time

structure ExecutionOutcome where
  relay : String
  targetBlock : Nat
  pair : String
  router : String
  tokenIn : String
  tokenOut : String
  victimTx : String
  outcome : String
  expectedProfitEth : ℚ
  realizedProfitEth : ℚ
  gasUsed : Nat
  submitLatencyMs : ℚ
  finalizationLatencyMs : ℚ

structure ExecutionOutcomeRow extends ExecutionOutcome where
  network : String
  recordedAt : Time

structure SelectorSource where
  selector : String
  target : String
  decodeSource : String
  deriving DecidableEq

structure SelectorPerformance extends SelectorSource where
  bucket : String
  stage : String
  count : Nat
  confidenceSum : ℚ
  gasGweiSum : ℚ

structure SelectorPerformanceRollup extends SelectorPerformance where
  network : String
  lastSeen : Time

namespace SelectorPerformanceRollup

/-- The primary key. -/
def key (row : SelectorPerformanceRollup) : String × String × SelectorSource × String :=
  (row.network, row.bucket, row.toSelectorSource, row.stage)

def merge (old new : SelectorPerformanceRollup) : SelectorPerformanceRollup :=
  { old with
    count := old.count + new.count
    confidenceSum := old.confidenceSum + new.confidenceSum
    gasGweiSum := old.gasGweiSum + new.gasGweiSum
    lastSeen := new.lastSeen }

end SelectorPerformanceRollup

structure SelectorPool where
  selector : String
  target : String
  tokenPair : String
  pool : String
  dexKind : String
  feeTier : Nat
  deriving DecidableEq

structure PoolCounters where
  poolFound : Nat
  poolMissing : Nat
  payloadBuilt : Nat
  shadowEvPositive : Nat
  shadowEvNegative : Nat
  partialEnteredPayloadBuilder : Nat
  partialPoolDiscoveryAttempted : Nat
  partialPoolFound : Nat
  partialPoolMissing : Nat
  partialShadowEvPositive : Nat
  partialShadowEvNegative : Nat
  partialReplayCandidateCreated : Nat
  partialReplayCandidateRejected : Nat
  expectedProfitSum : ℚ
  liquiditySum : ℚ
  gasGweiSum : ℚ
  samples : Nat

namespace PoolCounters

def zero : PoolCounters := ⟨0, 0, 0, 0, 0, 0, 0, 0, 0, 0, 0, 0, 0, 0, 0, 0, 0⟩

def add (old new : PoolCounters) : PoolCounters where
  poolFound := old.poolFound + new.poolFound
  poolMissing := old.poolMissing + new.poolMissing
  payloadBuilt := old.payloadBuilt + new.payloadBuilt
  shadowEvPositive := old.shadowEvPositive + new.shadowEvPositive
  shadowEvNegative := old.shadowEvNegative + new.shadowEvNegative
  partialEnteredPayloadBuilder := old.partialEnteredPayloadBuilder + new.partialEnteredPayloadBuilder
  partialPoolDiscoveryAttempted := old.partialPoolDiscoveryAttempted + new.partialPoolDiscoveryAttempted
  partialPoolFound := old.partialPoolFound + new.partialPoolFound
  partialPoolMissing := old.partialPoolMissing + new.partialPoolMissing
  partialShadowEvPositive := old.partialShadowEvPositive + new.partialShadowEvPositive
  partialShadowEvNegative := old.partialShadowEvNegative + new.partialShadowEvNegative
  partialReplayCandidateCreated := old.partialReplayCandidateCreated + new.partialReplayCandidateCreated
  partialReplayCandidateRejected := old.partialReplayCandidateRejected + new.partialReplayCandidateRejected
  expectedProfitSum := old.expectedProfitSum + new.expectedProfitSum
  liquiditySum := old.liquiditySum + new.liquiditySum
  gasGweiSum := old.gasGweiSum + new.gasGweiSum
  samples := old.samples + new.samples

end PoolCounters

structure SelectorPoolPerformance extends SelectorPool, PoolCounters where
  bucket : String

structure SelectorPoolPerformanceRollup extends SelectorPoolPerformance where
  network : String
  lastSeen : Time

namespace SelectorPoolPerformanceRollup

def key (row : SelectorPoolPerformanceRollup) : String × String × SelectorPool :=
  (row.network, row.bucket, row.toSelectorPool)

def merge (old new : SelectorPoolPerformanceRollup) : SelectorPoolPerformanceRollup :=
  { old with
    toPoolCounters := old.toPoolCounters.add new.toPoolCounters
    lastSeen := new.lastSeen }

end SelectorPoolPerformanceRollup

structure ReplayedPool where
  selector : String
  target : String
  pool : String
  deriving DecidableEq

structure SelectorReplay extends ReplayedPool where
  success : Bool
  reverted : Bool
  expectedProfit : ℚ
  simulatedProfit : ℚ
  gasUsed : ℚ

structure SelectorReplayScore extends ReplayedPool where
  network : String
  replayCases : Nat
  replaySuccessCount : Nat
  replayRevertCount : Nat
  expectedProfitSum : ℚ
  simulatedProfitSum : ℚ
  gasUsedSum : ℚ
  lastSeen : Time

def SelectorReplay.row (network : String) (now : Time) (replay : SelectorReplay) : SelectorReplayScore where
  toReplayedPool := replay.toReplayedPool
  network := network
  replayCases := 1
  replaySuccessCount := if replay.success then 1 else 0
  replayRevertCount := if replay.reverted then 1 else 0
  expectedProfitSum := replay.expectedProfit
  simulatedProfitSum := replay.simulatedProfit
  gasUsedSum := replay.gasUsed
  lastSeen := now

namespace SelectorReplayScore

def key (row : SelectorReplayScore) : String × ReplayedPool := (row.network, row.toReplayedPool)

def merge (old new : SelectorReplayScore) : SelectorReplayScore :=
  { old with
    replayCases := old.replayCases + 1
    replaySuccessCount := old.replaySuccessCount + new.replaySuccessCount
    replayRevertCount := old.replayRevertCount + new.replayRevertCount
    expectedProfitSum := old.expectedProfitSum + new.expectedProfitSum
    simulatedProfitSum := old.simulatedProfitSum + new.simulatedProfitSum
    gasUsedSum := old.gasUsedSum + new.gasUsedSum
    lastSeen := new.lastSeen }

end SelectorReplayScore

/-- The tables behind the eight queries. Tables with an id of their own stand in the order of their ids. -/
structure Database where
  relayMetrics : List RelayMetrics
  treasuryRebalance : List TreasuryRow
  executionOutcomes : List ExecutionOutcomeRow
  selectorPerformanceRollups : List SelectorPerformanceRollup
  selectorPoolPerformanceRollups : List SelectorPoolPerformanceRollup
  selectorReplayScores : List SelectorReplayScore

def Database.empty : Database := ⟨[], [], [], [], [], []⟩

/-- The `record_*` calls. Some of them write tables that none of the queries reads. -/
inductive RecordCall
  | relayOutcome (outcome : RelayOutcome)
  | treasuryRecommendation (recommendation : TreasuryRecommendation)
  | executionOutcome (outcome : ExecutionOutcome)
  | selectorPerformanceRollup (performance : SelectorPerformance)
  | selectorPoolPerformanceRollup (performance : SelectorPoolPerformance)
  | selectorReplayScore (replay : SelectorReplay)
  | otherTable

/-- A call on the handle of a network, at the time that the clock shows. -/
structure Write where
  network : String
  now : Time
  call : RecordCall

namespace Database

/-- Both backends write the same rows: the statements differ only in their dialect. -/
def write (database : Database) (write : Write) : Database :=
  match write.call with
  | .relayOutcome outcome =>
    { database with
      relayMetrics := Relational.upsert RelayMetrics.relay RelayMetrics.merge
        (outcome.row write.network write.now) database.relayMetrics }
  | .treasuryRecommendation recommendation =>
    { database with treasuryRebalance := database.treasuryRebalance ++ [⟨recommendation, write.network, write.now⟩] }
  | .executionOutcome outcome =>
    { database with executionOutcomes := database.executionOutcomes ++ [⟨outcome, write.network, write.now⟩] }
  | .selectorPerformanceRollup performance =>
    { database with
      selectorPerformanceRollups := Relational.upsert SelectorPerformanceRollup.key SelectorPerformanceRollup.merge
        ⟨performance, write.network, write.now⟩ database.selectorPerformanceRollups }
  | .selectorPoolPerformanceRollup performance =>
    { database with
      selectorPoolPerformanceRollups := Relational.upsert SelectorPoolPerformanceRollup.key
        SelectorPoolPerformanceRollup.merge ⟨performance, write.network, write.now⟩
        database.selectorPoolPerformanceRollups }
  | .selectorReplayScore replay =>
    { database with
      selectorReplayScores := Relational.upsert SelectorReplayScore.key SelectorReplayScore.merge
        (replay.row write.network write.now) database.selectorReplayScores }
  | .otherTable => database

def after (database : Database) (writes : List Write) : Database := writes.foldl write database

theorem after_concat (database : Database) (writes : List Write) (last : Write) :
    database.after (writes ++ [last]) = (database.after writes).write last := by
  unfold after
  rw [List.foldl_append]
  rfl

end Database

end ArbitrageRuntime.Storage
