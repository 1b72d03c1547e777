import ArbitrageRuntime.Dashboard.Latency
import ArbitrageRuntime.Dashboard.RejectReasons
import ArbitrageRuntime.Storage.Queries

namespace ArbitrageRuntime.Storage

structure LatencyRollup where
  network : String
  bucket : String
  stage : String
  samples : Int
  totalMs : Int
  maxMs : Int
  lastMs : Int
  deriving DecidableEq

namespace LatencyRollup

/-- The primary key. -/
def key (row : LatencyRollup) : String × String × String := (row.network, row.bucket, row.stage)

def merge (old new : LatencyRollup) : LatencyRollup :=
  { old with
    samples := old.samples + new.samples
    totalMs := old.totalMs + new.totalMs
    maxMs := max old.maxMs new.maxMs
    lastMs := new.lastMs }

theorem merge_assoc (first second third : LatencyRollup) :
    merge (merge first second) third = merge first (merge second third) := by
  simp only [merge, Int.add_assoc, max_assoc]

end LatencyRollup

/-- The row of `record_latency_rollup`. -/
def latencyRollup (network : String) (latency : PendingLatencyRollup) : LatencyRollup where
  network := network
  bucket := latency.bucket
  stage := latency.stage
  samples := asI64 latency.samples
  totalMs := asI64 latency.totalMs
  maxMs := asI64 latency.maxMs
  lastMs := asI64 latency.lastMs

structure FunnelRollup where
  network : String
  bucket : String
  stage : String
  count : Int
  deriving DecidableEq

namespace FunnelRollup

def key (row : FunnelRollup) : String × String × String := (row.network, row.bucket, row.stage)

def merge (old new : FunnelRollup) : FunnelRollup := { old with count := old.count + new.count }

theorem merge_assoc (first second third : FunnelRollup) :
    merge (merge first second) third = merge first (merge second third) := by
  simp only [merge, Int.add_assoc]

end FunnelRollup

structure RejectReasonRollup where
  network : String
  bucket : String
  stage : String
  reason : String
  count : Int
  deriving DecidableEq

namespace RejectReasonRollup

def key (row : RejectReasonRollup) : String × String × String × String :=
  (row.network, row.bucket, row.stage, row.reason)

def merge (old new : RejectReasonRollup) : RejectReasonRollup := { old with count := old.count + new.count }

theorem merge_assoc (first second third : RejectReasonRollup) :
    merge (merge first second) third = merge first (merge second third) := by
  simp only [merge, Int.add_assoc]

end RejectReasonRollup

/-- The row of `record_reject_reason_rollup`. -/
def rejectReasonRollup (network : String) (reject : PendingRejectReasonRollup) : RejectReasonRollup where
  network := network
  bucket := reject.bucket
  stage := reject.stage
  reason := reject.reason
  count := asI64 reject.count

/-- The columns of a row that neither the clock nor the rounding of a sum has a part in. -/
def SelectorPerformanceRollup.counters (row : SelectorPerformanceRollup) : SelectorPerformanceRollup :=
  { row with confidenceSum := 0, gasGweiSum := 0, lastSeen := 0 }

theorem SelectorPerformanceRollup.counters_merge (old new : SelectorPerformanceRollup) :
    (merge old new).counters = merge old.counters new.counters := by
  simp only [counters, merge, add_zero]

theorem SelectorPerformanceRollup.merge_assoc (first second third : SelectorPerformanceRollup) :
    merge (merge first second) third = merge first (merge second third) := by
  simp only [merge, add_assoc]

def SelectorPoolPerformanceRollup.counters (row : SelectorPoolPerformanceRollup) : SelectorPoolPerformanceRollup :=
  { row with expectedProfitSum := 0, liquiditySum := 0, gasGweiSum := 0, lastSeen := 0 }

theorem SelectorPoolPerformanceRollup.counters_merge (old new : SelectorPoolPerformanceRollup) :
    (merge old new).counters = merge old.counters new.counters := by
  simp only [counters, merge, PoolCounters.add, add_zero]

theorem SelectorPoolPerformanceRollup.merge_assoc (first second third : SelectorPoolPerformanceRollup) :
    merge (merge first second) third = merge first (merge second third) := by
  simp only [merge, PoolCounters.add, add_assoc]

end ArbitrageRuntime.Storage
