import ArbitrageRuntime.Lib.Divided
import ArbitrageRuntime.Lib.WriteBehind
import ArbitrageRuntime.Storage.Rollups
import Mathlib.Data.Fintype.Defs
import Mathlib.Data.Finset.Insert

namespace ArbitrageRuntime.Dashboard

open Storage WriteBehind

structure PendingCounterRollup where
  bucket : String
  stage : String
  count : Nat

/-- `format!("{bucket}|{stage}")` -/
def PendingCounterRollup.key (rollup : PendingCounterRollup) : String := rollup.bucket ++ "|" ++ rollup.stage

/-- One call of `record_opportunity_funnel` and the minute it falls in. -/
structure FunnelCall where
  bucket : String
  stage : String
  deriving DecidableEq

def FunnelCall.rollupChange (call : FunnelCall) : Upsert.Change PendingCounterRollup.key where
  target := call.bucket ++ "|" ++ call.stage
  update rollup := { rollup with count := u64Add rollup.count 1 }
  fresh := { bucket := call.bucket, stage := call.stage, count := u64Add 0 1 }
  update_key _ := rfl
  fresh_key := rfl

/-- The row of `record_funnel_rollup`. -/
def funnelRollup (network : String) (funnel : PendingCounterRollup) : FunnelRollup where
  network := network
  bucket := funnel.bucket
  stage := funnel.stage
  count := asI64 funnel.count

/-- One call of `record_selector_performance` and the minute it falls in. -/
structure SelectorCall extends SelectorSource where
  bucket : String
  stage : String
  confidence : ℚ
  gasGwei : ℚ

/-- `format!("{bucket}|{selector}|{target}|{decode_source}|{stage}")` -/
def selectorKey (source : SelectorSource) (bucket stage : String) : String :=
  bucket ++ "|" ++ source.selector ++ "|" ++ source.target ++ "|" ++ source.decodeSource ++ "|" ++ stage

def performanceKey (performance : SelectorPerformance) : String :=
  selectorKey performance.toSelectorSource performance.bucket performance.stage

/-- `PendingSelectorPerformanceRollup` has the fields of the call that stores it. -/
def SelectorCall.record (call : SelectorCall) (rollup : SelectorPerformance) : SelectorPerformance :=
  { rollup with
    count := u64Add rollup.count 1
    confidenceSum := rollup.confidenceSum + min (max call.confidence 0) 1
    gasGweiSum := rollup.gasGweiSum + max call.gasGwei 0 }

def SelectorCall.rollupChange (call : SelectorCall) : Upsert.Change performanceKey where
  target := selectorKey call.toSelectorSource call.bucket call.stage
  update := call.record
  fresh := call.record
    { toSelectorSource := call.toSelectorSource, bucket := call.bucket, stage := call.stage, count := 0,
      confidenceSum := 0, gasGweiSum := 0 }
  update_key _ := rfl
  fresh_key := rfl

/-- One call of `record_selector_pool_performance` and the minute it falls in. -/
structure PoolCall extends SelectorPool where
  bucket : String
  stage : String
  expectedProfit : ℚ
  liquidity : ℚ
  gasGwei : ℚ

/-- `format!("{bucket}|{selector}|{target}|{token_pair}|{pool}|{dex_kind}|{fee_tier}")` -/
def poolKey (pool : SelectorPool) (bucket : String) : String :=
  bucket ++ "|" ++ pool.selector ++ "|" ++ pool.target ++ "|" ++ pool.tokenPair ++ "|" ++ pool.pool ++ "|" ++
    pool.dexKind ++ "|" ++ pool.feeTier.repr

def poolPerformanceKey (performance : SelectorPoolPerformance) : String :=
  poolKey performance.toSelectorPool performance.bucket

/-- A counter that goes up at some of the stages. -/
def bump (stages : List String) (stage : String) (count : Nat) : Nat :=
  if stage ∈ stages then u64Add count 1 else count

/-- The counters behind a call. A partial stage counts for the plain one as well, where there is one. -/
def PoolCall.counters (call : PoolCall) (counters : PoolCounters) : PoolCounters where
  poolFound := bump ["pool_found", "partial_pool_found"] call.stage counters.poolFound
  poolMissing := bump ["pool_missing", "partial_pool_missing"] call.stage counters.poolMissing
  payloadBuilt := bump ["payload_built", "shadow_payload_built"] call.stage counters.payloadBuilt
  shadowEvPositive := bump ["shadow_ev_positive", "partial_shadow_ev_positive"] call.stage counters.shadowEvPositive
  shadowEvNegative := bump ["shadow_ev_negative", "partial_shadow_ev_negative"] call.stage counters.shadowEvNegative
  partialEnteredPayloadBuilder :=
    bump ["partial_entered_payload_builder"] call.stage counters.partialEnteredPayloadBuilder
  partialPoolDiscoveryAttempted :=
    bump ["partial_pool_discovery_attempted"] call.stage counters.partialPoolDiscoveryAttempted
  partialPoolFound := bump ["partial_pool_found"] call.stage counters.partialPoolFound
  partialPoolMissing := bump ["partial_pool_missing"] call.stage counters.partialPoolMissing
  partialShadowEvPositive := bump ["partial_shadow_ev_positive"] call.stage counters.partialShadowEvPositive
  partialShadowEvNegative := bump ["partial_shadow_ev_negative"] call.stage counters.partialShadowEvNegative
  partialReplayCandidateCreated :=
    bump ["partial_replay_candidate_created"] call.stage counters.partialReplayCandidateCreated
  partialReplayCandidateRejected :=
    bump ["partial_replay_candidate_rejected"] call.stage counters.partialReplayCandidateRejected
  expectedProfitSum :=
    if call.stage ∈ ["shadow_ev_positive", "partial_shadow_ev_positive"] then
      counters.expectedProfitSum + max call.expectedProfit 0
    else counters.expectedProfitSum
  liquiditySum := counters.liquiditySum + max call.liquidity 0
  gasGweiSum := counters.gasGweiSum + max call.gasGwei 0
  samples := u64Add counters.samples 1

def PoolCall.rollupChange (call : PoolCall) : Upsert.Change poolPerformanceKey where
  target := poolKey call.toSelectorPool call.bucket
  update rollup := { rollup with toPoolCounters := call.counters rollup.toPoolCounters }
  fresh :=
    { toSelectorPool := call.toSelectorPool, toPoolCounters := call.counters PoolCounters.zero, bucket := call.bucket }
  update_key _ := rfl
  fresh_key := rfl

/-- The maps of `PendingStorageWrites`. -/
inductive RollupKind
  | latency
  | funnel
  | rejectReason
  | selectorPerformance
  | selectorPoolPerformance
  deriving DecidableEq

instance : Fintype RollupKind where
  elems := {.latency, .funnel, .rejectReason, .selectorPerformance, .selectorPoolPerformance}
  complete kind := by cases kind <;> decide

variable (network : String)

abbrev latencyLedger : Ledger where
  Call := LatencyCall
  Entry := PendingLatencyRollup
  Row := LatencyRollup
  Key := String
  RowKey := String × String × String
  Stamp := Time
  Cutoff := String
  key := PendingLatencyRollup.key
  rowKey := LatencyRollup.key
  gather := PendingLatencyRollup.change
  row _ := latencyRollup network
  merge := LatencyRollup.merge
  expired cutoff key := key.2.1 < cutoff
  rowKey_merge _ _ := rfl

abbrev funnelLedger : Ledger where
  Call := FunnelCall
  Entry := PendingCounterRollup
  Row := FunnelRollup
  Key := String
  RowKey := String × String × String
  Stamp := Time
  Cutoff := String
  key := PendingCounterRollup.key
  rowKey := FunnelRollup.key
  gather := FunnelCall.rollupChange
  row _ := funnelRollup network
  merge := FunnelRollup.merge
  expired cutoff key := key.2.1 < cutoff
  rowKey_merge _ _ := rfl

abbrev rejectReasonLedger : Ledger where
  Call := RejectCall
  Entry := PendingRejectReasonRollup
  Row := RejectReasonRollup
  Key := String
  RowKey := String × String × String × String
  Stamp := Time
  Cutoff := String
  key := PendingRejectReasonRollup.key
  rowKey := RejectReasonRollup.key
  gather := RejectCall.rollupChange
  row _ := rejectReasonRollup network
  merge := RejectReasonRollup.merge
  expired cutoff key := key.2.1 < cutoff
  rowKey_merge _ _ := rfl

abbrev selectorPerformanceLedger : Ledger where
  Call := SelectorCall
  Entry := SelectorPerformance
  Row := SelectorPerformanceRollup
  Key := String
  RowKey := String × String × SelectorSource × String
  Stamp := Time
  Cutoff := String
  key := performanceKey
  rowKey := SelectorPerformanceRollup.key
  gather := SelectorCall.rollupChange
  row now performance := ⟨performance, network, now⟩
  merge := SelectorPerformanceRollup.merge
  expired cutoff key := key.2.1 < cutoff
  rowKey_merge _ _ := rfl

abbrev selectorPoolPerformanceLedger : Ledger where
  Call := PoolCall
  Entry := SelectorPoolPerformance
  Row := SelectorPoolPerformanceRollup
  Key := String
  RowKey := String × String × SelectorPool
  Stamp := Time
  Cutoff := String
  key := poolPerformanceKey
  rowKey := SelectorPoolPerformanceRollup.key
  gather := PoolCall.rollupChange
  row now performance := ⟨performance, network, now⟩
  merge := SelectorPoolPerformanceRollup.merge
  expired cutoff key := key.2.1 < cutoff
  rowKey_merge _ _ := rfl

/-- What `flush_storage_buffers` stores of every map. From time to time it also has `prune_runtime_tables` delete the
rows of the minutes before a cutoff. -/
def ledgers : RollupKind → Ledger
  | .latency => latencyLedger network
  | .funnel => funnelLedger network
  | .rejectReason => rejectReasonLedger network
  | .selectorPerformance => selectorPerformanceLedger network
  | .selectorPoolPerformance => selectorPoolPerformanceLedger network

end ArbitrageRuntime.Dashboard
