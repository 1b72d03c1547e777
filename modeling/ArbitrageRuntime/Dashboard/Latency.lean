import ArbitrageRuntime.Base
import ArbitrageRuntime.Lib.RunningAverage
import ArbitrageRuntime.Lib.Upsert

namespace ArbitrageRuntime

def u128Max : Nat := 2 ^ 128 - 1

structure LatencyMetric where
  stage : String
  samples : Nat
  lastMs : Option Nat
  avgMs : Option Nat
  maxMs : Option Nat
  deriving DecidableEq

structure PendingLatency where
  stage : String
  durationMs : Nat
  wallet : Option String
  note : Option String

structure PendingLatencyRollup where
  bucket : String
  stage : String
  samples : Nat
  totalMs : Nat
  maxMs : Nat
  lastMs : Nat

/-- One call of `record_latency` and the minute it falls in. -/
structure LatencyCall where
  bucket : String
  stage : String
  durationMs : Nat
  wallet : Option String
  note : Option String

/-- The found metric with one duration more. The sum of its `u128` average wraps in a release build. -/
def LatencyMetric.record (metric : LatencyMetric) (durationMs : Nat) : LatencyMetric :=
  let samples := u64Add metric.samples 1
  { metric with
    samples := samples
    lastMs := some durationMs
    avgMs := some (match metric.avgMs with
      | some previous => (previous * (samples - 1) + durationMs) % 2 ^ 128 / samples
      | none => durationMs)
    maxMs := some (max (metric.maxMs.getD durationMs) durationMs) }

def latencyChange (stage : String) (durationMs : Nat) : Upsert.Change LatencyMetric.stage where
  target := stage
  update metric := metric.record durationMs
  fresh :=
    { stage := stage, samples := 1, lastMs := some durationMs, avgMs := some durationMs, maxMs := some durationMs }
  update_key _ := rfl
  fresh_key := rfl

def upsertLatencyMetric (metrics : List LatencyMetric) (stage : String) (durationMs : Nat) : List LatencyMetric :=
  (latencyChange stage durationMs).apply metrics

namespace PendingLatencyRollup

/-- `format!("{bucket}|{stage}")` -/
def key (rollup : PendingLatencyRollup) : String := rollup.bucket ++ "|" ++ rollup.stage

def record (rollup : PendingLatencyRollup) (durationMs : Nat) : PendingLatencyRollup :=
  { rollup with
    samples := u64Add rollup.samples 1
    totalMs := Saturating.add u128Max rollup.totalMs durationMs
    maxMs := max rollup.maxMs durationMs
    lastMs := durationMs }

def start (bucket stage : String) : PendingLatencyRollup :=
  { bucket := bucket, stage := stage, samples := 0, totalMs := 0, maxMs := 0, lastMs := 0 }

def change (call : LatencyCall) : Upsert.Change key where
  target := call.bucket ++ "|" ++ call.stage
  update rollup := rollup.record call.durationMs
  fresh := (start call.bucket call.stage).record call.durationMs
  update_key _ := rfl
  fresh_key := rfl

end PendingLatencyRollup

/-- What the dashboard keeps of the latencies: the samples and the rollups that wait for the storage,
and the metrics that are shown. -/
structure LatencyBoard where
  latencies : List PendingLatency
  latencyRollups : List PendingLatencyRollup
  latencyMetrics : List LatencyMetric

namespace LatencyBoard

def empty : LatencyBoard := ⟨[], [], []⟩

section

variable (storageTelemetryEnabled storageRollupsEnabled : Bool)

def recordLatency (board : LatencyBoard) (call : LatencyCall) : LatencyBoard where
  latencies :=
    if storageTelemetryEnabled then board.latencies ++ [⟨call.stage, call.durationMs, call.wallet, call.note⟩]
    else board.latencies
  latencyRollups :=
    if storageRollupsEnabled then (PendingLatencyRollup.change call).apply board.latencyRollups
    else board.latencyRollups
  latencyMetrics := upsertLatencyMetric board.latencyMetrics call.stage call.durationMs

def after (calls : List LatencyCall) : LatencyBoard :=
  calls.foldl (recordLatency storageTelemetryEnabled storageRollupsEnabled) empty

end

end LatencyBoard

/-- The durations that were recorded for a stage, in order. -/
def durationsOf (stage : String) (calls : List LatencyCall) : List Nat :=
  (calls.filter fun call => call.stage = stage).map LatencyCall.durationMs

/-- The metric of the durations of a stage. -/
structure LatencyMetric.Tracks (metric : LatencyMetric) (stage : String) (durations : List Nat) : Prop where
  stage : metric.stage = stage
  samples : metric.samples = durations.length
  last : metric.lastMs = durations.getLast?
  max : metric.maxMs = durations.max?
  average : ∃ avg, metric.avgMs = some avg ∧ |(avg : ℚ) - durations.sum / durations.length| < 1

/-- A metric with the average truncated at every duration. -/
def metricOf (stage : String) (durations : List Nat) : LatencyMetric where
  stage := stage
  samples := durations.length
  lastMs := durations.getLast?
  avgMs := some (RunningAverage.track 0 0 durations)
  maxMs := durations.max?

theorem metricOf_single (stage : String) (durationMs : Nat) :
    metricOf stage [durationMs] = (latencyChange stage durationMs).fresh := by
  have average : RunningAverage.track 0 0 [durationMs] = durationMs := by
    simp [RunningAverage.track, RunningAverage.update]
  rw [metricOf, average]
  rfl

/-- One duration more, where neither the count nor the sum of the durations passes its type. -/
theorem record_metricOf {stage : String} {first durationMs : Nat} {rest : List Nat}
    (samplesFit : (first :: rest).length + 1 ≤ u64Max) (sumFits : (first :: rest).sum + durationMs < 2 ^ 128) :
    (metricOf stage (first :: rest)).record durationMs = metricOf stage (first :: rest ++ [durationMs]) := by
  have samples : u64Add (first :: rest).length 1 = (first :: rest).length + 1 := Saturating.add_eq samplesFit
  have below := RunningAverage.track_mul_le (first :: rest)
  have average : (RunningAverage.track 0 0 (first :: rest) * (first :: rest).length + durationMs) % 2 ^ 128 /
      ((first :: rest).length + 1) = RunningAverage.track 0 0 (first :: rest ++ [durationMs]) := by
    rw [RunningAverage.track_concat, RunningAverage.update, Nat.zero_add, Nat.mod_eq_of_lt (by omega)]
  have most : max ((first :: rest).max?.getD durationMs) durationMs = rest.foldl max first ⊔ durationMs := rfl
  have last : (first :: rest ++ [durationMs]).getLast? = some durationMs := List.getLast?_concat
  have longest : (first :: rest ++ [durationMs]).max? = some (rest.foldl max first ⊔ durationMs) := by
    rw [List.cons_append, List.max?_cons', List.foldl_append]
    rfl
  rw [LatencyMetric.record, metricOf, metricOf, last, longest, ← average, List.length_append]
  simp only [samples, Nat.add_sub_cancel, most, List.length_singleton]

/-- The calls for a stage, one after the other, from no metric on. -/
theorem foldl_record_eq {stage : String} {durations : List Nat} (some : durations ≠ [])
    (samplesFit : durations.length ≤ u64Max) (sumFits : durations.sum < 2 ^ 128) :
    (durations.map (latencyChange stage)).foldl (fun metric change => Option.some (change.on metric)) none =
      Option.some (metricOf stage durations) := by
  obtain ⟨first, rest, rfl⟩ := List.exists_cons_of_ne_nil some
  clear some
  induction rest using List.reverseRecOn with
  | nil => exact congrArg Option.some (metricOf_single stage first).symm
  | append_singleton rest durationMs ih =>
    rw [← List.cons_append, List.length_append, List.length_singleton] at samplesFit
    rw [← List.cons_append, List.sum_append, List.sum_singleton] at sumFits
    have before := ih (by omega) (by omega)
    rw [← List.cons_append, List.map_append, List.foldl_append, before]
    exact congrArg Option.some (record_metricOf samplesFit sumFits)

section

variable (storageTelemetryEnabled storageRollupsEnabled : Bool)

theorem latencyMetrics_after (calls : List LatencyCall) :
    (LatencyBoard.after storageTelemetryEnabled storageRollupsEnabled calls).latencyMetrics =
      Upsert.run [] (calls.map fun call => latencyChange call.stage call.durationMs) := by
  induction calls using List.reverseRecOn with
  | nil => rfl
  | append_singleton calls call ih =>
    rw [LatencyBoard.after, List.foldl_append, Upsert.run, List.map_append, List.foldl_append]
    exact congrArg (upsertLatencyMetric · call.stage call.durationMs) ih

/-- The metric of a stage depends on the durations of this stage alone. -/
theorem latencyMetric_after {calls : List LatencyCall} {stage : String} (recorded : durationsOf stage calls ≠ [])
    (samplesFit : (durationsOf stage calls).length ≤ u64Max) (sumFits : (durationsOf stage calls).sum < 2 ^ 128) :
    Upsert.entryOf LatencyMetric.stage stage
        (LatencyBoard.after storageTelemetryEnabled storageRollupsEnabled calls).latencyMetrics =
      some (metricOf stage (durationsOf stage calls)) := by
  have changes : ((calls.map fun call => latencyChange call.stage call.durationMs).filter
      fun change => change.target = stage) = (durationsOf stage calls).map (latencyChange stage) := by
    rw [List.filter_map, durationsOf, List.map_map]
    apply List.map_congr_left
    intro call member
    have same : call.stage = stage := of_decide_eq_true (List.mem_filter.mp member).2
    rw [same]
    rfl
  rw [latencyMetrics_after, Upsert.entryOf_run, changes]
  exact foldl_record_eq recorded samplesFit sumFits

end

theorem metricOf_tracks_iff {stage : String} {durations : List Nat} (some : durations ≠ []) :
    (metricOf stage durations).Tracks stage durations ↔ RunningAverage.cutOff durations < durations.length := by
  rw [← RunningAverage.within_one_iff some]
  constructor
  · intro tracks
    obtain ⟨avg, shown, near⟩ := tracks.average
    cases shown
    exact near
  · intro near
    exact ⟨rfl, rfl, rfl, rfl, _, rfl, near⟩

/-- The number, the last and the largest of the durations of a stage are always right; the average stays within
a millisecond of the mean as long as its divisions have cut off less than there are durations. -/
theorem recordLatency_tracks_iff (storageTelemetryEnabled storageRollupsEnabled : Bool) (calls : List LatencyCall)
    (stage : String) (recorded : durationsOf stage calls ≠ [])
    (samplesFit : (durationsOf stage calls).length < 2 ^ 64) (sumFits : (durationsOf stage calls).sum < 2 ^ 128) :
    (∃ metric, Upsert.entryOf LatencyMetric.stage stage
          (LatencyBoard.after storageTelemetryEnabled storageRollupsEnabled calls).latencyMetrics = some metric ∧
        metric.samples = (durationsOf stage calls).length ∧ metric.lastMs = (durationsOf stage calls).getLast? ∧
        metric.maxMs = (durationsOf stage calls).max?) ∧
      ((∃ metric, Upsert.entryOf LatencyMetric.stage stage
            (LatencyBoard.after storageTelemetryEnabled storageRollupsEnabled calls).latencyMetrics = some metric ∧
          metric.Tracks stage (durationsOf stage calls)) ↔
        RunningAverage.cutOff (durationsOf stage calls) < (durationsOf stage calls).length) := by
  have shown := latencyMetric_after storageTelemetryEnabled storageRollupsEnabled recorded
    (Nat.le_sub_one_of_lt samplesFit) sumFits
  refine ⟨⟨_, shown, rfl, rfl, rfl⟩, ?_⟩
  rw [← metricOf_tracks_iff recorded, shown]
  constructor
  · rintro ⟨metric, same, tracks⟩
    cases same
    exact tracks
  · intro tracks
    exact ⟨_, rfl, tracks⟩

/-- Durations of 3 and 4 ms. -/
def steadyCalls : List LatencyCall := [⟨"12:00", "queue_wait", 3, none, none⟩, ⟨"12:00", "queue_wait", 4, none, none⟩]

theorem recordLatency_tracks_steady :
    durationsOf "queue_wait" steadyCalls = [3, 4] ∧
      ∃ metric, Upsert.entryOf LatencyMetric.stage "queue_wait"
          (LatencyBoard.after false false steadyCalls).latencyMetrics = some metric ∧
        metric.Tracks "queue_wait" (durationsOf "queue_wait" steadyCalls) :=
  ⟨by decide, (recordLatency_tracks_iff false false steadyCalls "queue_wait" (by decide) (by decide) (by decide)).2.mpr
    (by decide)⟩

/-- Durations of 0, 1 and 2 ms, of mean 1. -/
def risingCalls : List LatencyCall :=
  [⟨"12:00", "queue_wait", 0, none, none⟩, ⟨"12:00", "queue_wait", 1, none, none⟩,
   ⟨"12:00", "queue_wait", 2, none, none⟩]

theorem risingCalls_not_tracked :
    durationsOf "queue_wait" risingCalls = [0, 1, 2] ∧
      (LatencyBoard.after true true risingCalls).latencyMetrics = [⟨"queue_wait", 3, some 2, some 0, some 2⟩] ∧
      ¬ ∃ metric, Upsert.entryOf LatencyMetric.stage "queue_wait"
          (LatencyBoard.after true true risingCalls).latencyMetrics = some metric ∧
        metric.Tracks "queue_wait" (durationsOf "queue_wait" risingCalls) := by
  have shown : (LatencyBoard.after true true risingCalls).latencyMetrics =
      [⟨"queue_wait", 3, some 2, some 0, some 2⟩] := by decide
  have durations : durationsOf "queue_wait" risingCalls = [0, 1, 2] := by decide
  refine ⟨durations, shown, ?_⟩
  rintro ⟨metric, found, tracks⟩
  obtain ⟨avg, average, near⟩ := tracks.average
  rw [shown] at found
  cases found
  cases average
  rw [durations] at near
  norm_num at near

/-- The average is never above the mean, and below it by at most half a millisecond for every duration but the
first. -/
theorem avgMs_lag (storageTelemetryEnabled storageRollupsEnabled : Bool) {calls : List LatencyCall} {stage : String}
    (recorded : durationsOf stage calls ≠ []) (samplesFit : (durationsOf stage calls).length ≤ u64Max)
    (sumFits : (durationsOf stage calls).sum < 2 ^ 128) :
    ∃ metric avg, Upsert.entryOf LatencyMetric.stage stage
        (LatencyBoard.after storageTelemetryEnabled storageRollupsEnabled calls).latencyMetrics = some metric ∧
      metric.avgMs = some avg ∧
      0 ≤ ((durationsOf stage calls).sum : ℚ) / (durationsOf stage calls).length - avg ∧
      ((durationsOf stage calls).sum : ℚ) / (durationsOf stage calls).length - avg ≤
        (((durationsOf stage calls).length : ℚ) - 1) / 2 :=
  ⟨_, _, latencyMetric_after storageTelemetryEnabled storageRollupsEnabled recorded samplesFit sumFits, rfl,
    RunningAverage.mean_sub_track_mem recorded⟩

namespace PendingLatencyRollup

theorem foldl_record {rollup : PendingLatencyRollup} {durations : List Nat}
    (samplesFit : rollup.samples + durations.length ≤ u64Max) (sumFits : rollup.totalMs + durations.sum ≤ u128Max) :
    (durations.foldl record rollup).samples = rollup.samples + durations.length ∧
      (durations.foldl record rollup).totalMs = rollup.totalMs + durations.sum := by
  induction durations generalizing rollup with
  | nil => exact ⟨rfl, rfl⟩
  | cons durationMs rest ih =>
    rw [List.length_cons] at samplesFit
    rw [List.sum_cons] at sumFits
    have samples : (rollup.record durationMs).samples = rollup.samples + 1 := Saturating.add_eq (by omega)
    have total : (rollup.record durationMs).totalMs = rollup.totalMs + durationMs := Saturating.add_eq (by omega)
    obtain ⟨runSamples, runTotal⟩ := @ih (rollup.record durationMs) (by omega) (by omega)
    rw [List.foldl_cons, runSamples, runTotal, samples, total, List.length_cons, List.sum_cons]
    omega

/-- The durations that go to one rollup, in order. -/
def durationsOf (text : String) (calls : List LatencyCall) : List Nat :=
  (calls.filter fun call => call.bucket ++ "|" ++ call.stage = text).map LatencyCall.durationMs

theorem latencyRollups_after (storageTelemetryEnabled : Bool) (calls : List LatencyCall) :
    (LatencyBoard.after storageTelemetryEnabled true calls).latencyRollups = Upsert.run [] (calls.map change) := by
  induction calls using List.reverseRecOn with
  | nil => rfl
  | append_singleton calls call ih =>
    rw [LatencyBoard.after, List.foldl_append, Upsert.run, List.map_append, List.foldl_append]
    exact congrArg (change call).apply ih

/-- The rollups of the same calls keep the sum of the durations instead of their average, and lose nothing. -/
theorem latencyRollup_exact (storageTelemetryEnabled : Bool) {calls : List LatencyCall} {text : String}
    (recorded : durationsOf text calls ≠ []) (samplesFit : (durationsOf text calls).length ≤ u64Max)
    (sumFits : (durationsOf text calls).sum ≤ u128Max) :
    ∃ rollup,
      Upsert.entryOf key text (LatencyBoard.after storageTelemetryEnabled true calls).latencyRollups = some rollup ∧
      rollup.samples = (durationsOf text calls).length ∧ rollup.totalMs = (durationsOf text calls).sum := by
  have changes : (calls.map change).filter (fun change => change.target = text) =
      (calls.filter fun call => call.bucket ++ "|" ++ call.stage = text).map change := List.filter_map
  rw [latencyRollups_after, Upsert.entryOf_run, changes]
  unfold durationsOf at recorded samplesFit sumFits ⊢
  generalize (calls.filter fun call => call.bucket ++ "|" ++ call.stage = text) = own at recorded samplesFit sumFits ⊢
  rcases own with _ | ⟨call, own⟩
  · exact absurd rfl recorded
  · have updates : (own.map change).foldl (fun rollup change => change.update rollup) (change call).fresh =
        ((call :: own).map LatencyCall.durationMs).foldl record (start call.bucket call.stage) := by
      rw [List.foldl_map, List.map_cons, List.foldl_cons, List.foldl_map]
      rfl
    have totals := @foldl_record (start call.bucket call.stage) ((call :: own).map LatencyCall.durationMs)
      ((Nat.zero_add _).trans_le samplesFit) ((Nat.zero_add _).trans_le sumFits)
    refine ⟨_, (Upsert.foldl_on_some _ _).trans (congrArg some updates), ?_, ?_⟩
    · rw [totals.1, start, Nat.zero_add]
    · rw [totals.2, start, Nat.zero_add]

end PendingLatencyRollup

end ArbitrageRuntime
