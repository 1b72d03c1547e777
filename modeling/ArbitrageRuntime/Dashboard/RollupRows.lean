import ArbitrageRuntime.Dashboard.RollupLaws

namespace ArbitrageRuntime.Dashboard

open Storage WriteBehind

variable (network : String)

/-- The rollups of the dashboard and their tables, under any interleaving of the recorders with the one task that
flushes. -/
def rollups : Transition.System (State (ledgers network)) (Step (ledgers network)) :=
  WriteBehind.system (ledgers network)

variable {network} {tables : ∀ kind, List (ledgers network kind).Row} {steps : List (Step (ledgers network))}
  {state : State (ledgers network)}

/-- What is flushed late and in any order ends up as if every call had been stored at once, except for what is deleted
with the rows of old minutes. -/
theorem rollups_stored_at_once (reached : (rollups network).after (begin tables) steps = some state) (kind : RollupKind)
    (propers : ∀ call ∈ recorded kind steps, (laws network kind).proper call)
    (fit : ∀ r, (laws network kind).fits (Upsert.entryOf (ledgers network kind).rowKey r (tables kind))
      (ofRow (laws network kind) r (recorded kind steps)))
    (r : (ledgers network kind).RowKey) :
    ∃ deleted written lost later,
      (deleted ++ written ++ lost ++ later).Perm (ofRow (laws network kind) r (recorded kind steps)) ∧
      (deleted ++ written ++ later).Sublist (ofRow (laws network kind) r (recorded kind steps)) ∧
      (∀ now, (Upsert.entryOf (ledgers network kind).rowKey r (state kind).table).map (laws network kind).view =
        (Upsert.entryOf (ledgers network kind).rowKey r
          (Upsert.run (surviving kind steps (tables kind))
            (written.map ((ledgers network kind).direct now)))).map (laws network kind).view) ∧
      ((∀ step ∈ steps, ¬ step.Loses kind) → lost = []) ∧
      ((∀ step ∈ steps, step.deletes kind r = false) → deleted = []) ∧
      ((∀ call ∈ ofRow (laws network kind) r (recorded kind steps), ((ledgers network kind).gather call).target ∉
        ((state kind).hands ++ (state kind).pending).map (ledgers network kind).key) → later = []) :=
  row_of_reached (laws network kind) reached propers fit r

def sampleLatency (durationMs : Nat) : LatencyCall := ⟨"12:00", "decode", durationMs, none, none⟩

def samplePool (stage : String) : PoolCall where
  selector := "0x38ed1739"
  target := "0x10"
  tokenPair := "0x01->0x02"
  pool := "0x20"
  dexKind := "v2"
  feeTier := 0
  bucket := "12:00"
  stage := stage
  expectedProfit := 0
  liquidity := 0
  gasGwei := 0

/-- Calls come in while a flush is under way, whose write of a pool fails. Everything from before noon is deleted behind
it. -/
def sampleSteps : List (Step (ledgers "bsc")) :=
  [.record RollupKind.latency (sampleLatency 5),
   .record RollupKind.selectorPoolPerformance (samplePool "partial_pool_found"),
   .record RollupKind.latency (sampleLatency 7),
   .take,
   .record RollupKind.latency (sampleLatency 3),
   .write RollupKind.selectorPoolPerformance (0 : Nat) 0 false,
   .write RollupKind.latency (0 : Nat) 0 true,
   .prune RollupKind.latency ("12:00" : String),
   .prune RollupKind.selectorPoolPerformance ("12:00" : String),
   .record RollupKind.selectorPoolPerformance (samplePool "shadow_ev_positive"),
   .take,
   .write RollupKind.latency (1 : Nat) 0 true,
   .write RollupKind.selectorPoolPerformance (1 : Nat) 0 true]

def sampleRun : Option (State (ledgers "bsc")) := (rollups "bsc").after (begin fun _ => []) sampleSteps

theorem sampleRun_possible : sampleRun.isSome := by decide +kernel

def sampleState : State (ledgers "bsc") := sampleRun.get sampleRun_possible

theorem sampleState_reached : (rollups "bsc").after (begin fun _ => []) sampleSteps = some sampleState :=
  (Option.some_get sampleRun_possible).symm

theorem sampleSteps_safe : ∀ step ∈ sampleSteps, ¬ step.Loses RollupKind.latency := by
  simp [sampleSteps, Step.Loses]

theorem sampleSteps_kept :
    ∀ step ∈ sampleSteps,
      step.deletes RollupKind.latency (("bsc", "12:00", "decode") : String × String × String) = false := by
  decide +kernel

theorem rollups_stored_at_once_sample :
    ∃ deleted written lost later : List LatencyCall,
      (deleted ++ written ++ lost ++ later).Perm
        (ofRow (latencyLaw "bsc") ("bsc", "12:00", "decode") (recorded RollupKind.latency sampleSteps)) ∧
      deleted = [] ∧ lost = [] ∧ later = [] ∧
      ∀ now : Time, Upsert.entryOf LatencyRollup.key ("bsc", "12:00", "decode") (sampleState RollupKind.latency).table =
        Upsert.entryOf LatencyRollup.key ("bsc", "12:00", "decode")
          (Upsert.run [] (written.map ((latencyLedger "bsc").direct now))) := by
  have short : totalOf (recorded RollupKind.latency sampleSteps) < 2 ^ 63 := by decide
  have few : (recorded RollupKind.latency sampleSteps).length < 2 ^ 63 := by decide
  obtain ⟨deleted, written, lost, later, all, _, row, kept, spared, done⟩ := rollups_stored_at_once sampleState_reached
    RollupKind.latency
    (show ∀ call ∈ [sampleLatency 5, sampleLatency 7, sampleLatency 3], Undivided call.bucket by decide)
    (fun r => ⟨⟨(List.length_filter_le _ _).trans_lt few, nofun⟩,
      ⟨(totalOf_sublist List.filter_sublist).trans_lt short, nofun⟩⟩) ("bsc", "12:00", "decode")
  have emptied : ((sampleState RollupKind.latency).hands ++ (sampleState RollupKind.latency).pending).map
      (latencyLedger "bsc").key = [] := by decide +kernel
  refine ⟨deleted, written, lost, later, all, spared sampleSteps_kept, kept sampleSteps_safe,
    done fun call _ waits => ?_, fun now => ?_⟩
  · exact List.not_mem_nil (emptied ▸ waits)
  · exact Option.map_injective Function.injective_id (row now)

theorem eq_of_nothing_left {α : Type} {deleted written lost later calls : List α}
    (all : (deleted ++ written ++ lost ++ later).Perm calls) (inOrder : (deleted ++ written ++ later).Sublist calls)
    (kept : lost = []) (spared : deleted = []) (done : later = []) : written = calls := by
  subst kept spared done
  rw [List.append_nil, List.nil_append] at inOrder
  rw [List.append_nil, List.append_nil, List.nil_append] at all
  exact inOrder.eq_of_length all.length_eq

/-- The row of the durations of a stage. -/
def latencyRowOf (network bucket stage : String) (durations : List Nat) : Option LatencyRollup :=
  durations.getLast?.map fun last =>
    { network := network
      bucket := bucket
      stage := stage
      samples := durations.length
      totalMs := durations.sum
      maxMs := durations.foldl max 0
      lastMs := last }

theorem latencyRowOf_concat (network bucket stage : String) (durations : List Nat) (last : Nat) :
    latencyRowOf network bucket stage (durations ++ [last]) =
      some ⟨network, bucket, stage, durations.length + 1, durations.sum + last, max (durations.foldl max 0) last,
        last⟩ := by
  simp [latencyRowOf]

theorem through_latency (network : String) {bucket stage : String} (now : Time) {calls : List LatencyCall}
    (own : ∀ call ∈ calls, (call.bucket, call.stage) = (bucket, stage)) (few : calls.length < 2 ^ 63)
    (short : totalOf calls < 2 ^ 63) :
    (latencyLedger network).through now calls none =
      latencyRowOf network bucket stage (calls.map LatencyCall.durationMs) := by
  induction calls using List.reverseRecOn with
  | nil => rfl
  | append_singleton calls call ih =>
    rw [totalOf_concat] at short
    rw [List.length_append, List.length_singleton] at few
    have before := ih (fun other member => own other (List.mem_append_left _ member)) (by omega) (by omega)
    obtain ⟨rfl, rfl⟩ := Prod.mk.inj (own call (List.mem_append_right _ List.mem_cons_self))
    have one : asI64 (u64Add 0 1) = 1 := by decide
    have alone : Saturating.add u128Max 0 call.durationMs = call.durationMs :=
      (Saturating.add_eq (by unfold u128Max; omega)).trans (Nat.zero_add _)
    have word : asI64 call.durationMs = call.durationMs := asI64_eq (by omega)
    have single : latencyRollup network (PendingLatencyRollup.change call).fresh =
        ⟨network, call.bucket, call.stage, 1, call.durationMs, call.durationMs, call.durationMs⟩ := by
      simp only [latencyRollup, PendingLatencyRollup.change, PendingLatencyRollup.record, PendingLatencyRollup.start,
        alone, Nat.zero_max, one, word]
    rw [List.map_append, List.map_singleton, latencyRowOf_concat, Ledger.through_append, before]
    rcases List.eq_nil_or_concat (calls.map LatencyCall.durationMs) with none | ⟨front, last, earlier⟩
    · rw [none]
      have first : (latencyLedger network).through now [call] (latencyRowOf network call.bucket call.stage []) =
          some (latencyRollup network (PendingLatencyRollup.change call).fresh) := rfl
      rw [first, single]
      simp
    · rw [earlier, List.concat_eq_append, latencyRowOf_concat]
      have merged (row : LatencyRollup) : (latencyLedger network).through now [call] (some row) =
          some (row.merge (latencyRollup network (PendingLatencyRollup.change call).fresh)) := rfl
      rw [merged, single]
      simp [LatencyRollup.merge]

def latencyCalls (steps : List (Step (ledgers network))) : List LatencyCall := recorded RollupKind.latency steps

def latencyBuffer (state : State (ledgers network)) : Buffer (latencyLedger network) := state RollupKind.latency

/-- As long as no write fails and the minute is not deleted, the stored latencies of a minute are exact as soon as they
are flushed: their number, their sum, their largest and their last, whatever the order in which the entries of a
flush are stored. -/
theorem latencyRow_exact (reached : (rollups network).after (begin fun _ => []) steps = some state)
    (propers : ∀ call ∈ latencyCalls steps, Undivided call.bucket) (few : (latencyCalls steps).length < 2 ^ 63)
    (short : totalOf (latencyCalls steps) < 2 ^ 63) (safe : ∀ step ∈ steps, ¬ step.Loses RollupKind.latency)
    {bucket stage : String} (kept : ∀ step ∈ steps, step.deletes RollupKind.latency
      ((network, bucket, stage) : String × String × String) = false) (flushed : bucket ++ "|" ++ stage ∉
      ((latencyBuffer state).hands ++ (latencyBuffer state).pending).map PendingLatencyRollup.key) :
    Upsert.entryOf LatencyRollup.key (network, bucket, stage) (latencyBuffer state).table =
      latencyRowOf network bucket stage
        (((latencyCalls steps).filter fun call => call.bucket = bucket ∧ call.stage = stage).map
          LatencyCall.durationMs) := by
  obtain ⟨deleted, written, lost, later, all, inOrder, row, noneLost, spared, done⟩ := rollups_stored_at_once reached
    RollupKind.latency
    propers (fun r => ⟨⟨(List.length_filter_le _ _).trans_lt few, nofun⟩,
      ⟨(totalOf_sublist List.filter_sublist).trans_lt short, nofun⟩⟩) (network, bucket, stage)
  have own : ofRow (latencyLaw network) (network, bucket, stage) (latencyCalls steps) =
      (latencyCalls steps).filter fun call => call.bucket = bucket ∧ call.stage = stage := by
    refine List.filter_congr fun call _ => ?_
    simp [latencyLaw]
  have whole : written = (latencyCalls steps).filter fun call => call.bucket = bucket ∧ call.stage = stage := by
    refine (eq_of_nothing_left all inOrder (noneLost safe) (spared kept)
      (done fun call member waits => flushed ?_)).trans own
    obtain ⟨rfl, rfl⟩ := Prod.mk.inj (Prod.mk.inj (of_decide_eq_true (List.mem_filter.mp member).2)).2
    exact waits
  have stored : (Upsert.entryOf LatencyRollup.key (network, bucket, stage) (latencyBuffer state).table).map id =
      (Upsert.entryOf LatencyRollup.key (network, bucket, stage)
        (Upsert.run [] (written.map ((latencyLedger network).direct (0 : Time))))).map id := row (0 : Time)
  have mine : ∀ call ∈ written, (call.bucket, call.stage) = (bucket, stage) := by
    intro call member
    rw [whole] at member
    obtain ⟨rfl, rfl⟩ := of_decide_eq_true (List.mem_filter.mp member).2
    rfl
  have direct : Upsert.entryOf LatencyRollup.key (network, bucket, stage)
      (Upsert.run [] (written.map ((latencyLedger network).direct (0 : Time)))) =
        (latencyLedger network).through (0 : Time) written none :=
    @Ledger.entryOf_direct (latencyLedger network) (0 : Time) (network, bucket, stage) [] written fun call member =>
      congrArg (Prod.mk network) (mine call member)
  have fewer : written.length ≤ (latencyCalls steps).length := whole ▸ List.length_filter_le _ _
  have shorter : totalOf written ≤ totalOf (latencyCalls steps) := whole ▸ totalOf_sublist List.filter_sublist
  rw [Option.map_id, id, id] at stored
  rw [stored, direct, through_latency network (0 : Time) mine (fewer.trans_lt few) (shorter.trans_lt short),
    whole]

theorem latencyRow_exact_sample :
    Upsert.entryOf LatencyRollup.key ("bsc", "12:00", "decode") (latencyBuffer sampleState).table =
      some ⟨"bsc", "12:00", "decode", 3, 15, 7, 3⟩ :=
  latencyRow_exact sampleState_reached
    (show ∀ call ∈ [sampleLatency 5, sampleLatency 7, sampleLatency 3], Undivided call.bucket by decide) (by decide)
    (by decide) sampleSteps_safe sampleSteps_kept (by decide +kernel)

def poolCalls (steps : List (Step (ledgers network))) : List PoolCall :=
  recorded RollupKind.selectorPoolPerformance steps

def poolBuffer (state : State (ledgers network)) : Buffer (selectorPoolPerformanceLedger network) :=
  state RollupKind.selectorPoolPerformance

def poolTable (steps : List (Step (ledgers network))) (table : List SelectorPoolPerformanceRollup) :
    List SelectorPoolPerformanceRollup := surviving RollupKind.selectorPoolPerformance steps table

/-- A counter of a stored row, or zero where there is no row. -/
def storedCount (column : PoolCounters → Nat) (row : Option SelectorPoolPerformanceRollup) : Nat :=
  (row.map fun row => column row.toPoolCounters).getD 0

theorem storedCount_congr {column : PoolCounters → Nat}
    (counts : ∀ row : SelectorPoolPerformanceRollup, column row.counters.toPoolCounters = column row.toPoolCounters)
    {row row' : Option SelectorPoolPerformanceRollup}
    (same : row.map SelectorPoolPerformanceRollup.counters = row'.map SelectorPoolPerformanceRollup.counters) :
    storedCount column row = storedCount column row' := by
  have reads (row : Option SelectorPoolPerformanceRollup) :
      storedCount column row = ((row.map SelectorPoolPerformanceRollup.counters).map fun row =>
        column row.toPoolCounters).getD 0 := by
    unfold storedCount
    cases row with
    | none => rfl
    | some row => exact (counts row).symm
  rw [reads, reads, same]

theorem sum_bumps (stages : List String) (calls : List PoolCall) :
    (calls.map fun call => bump stages call.stage 0).sum = calls.countP fun call => call.stage ∈ stages := by
  induction calls with
  | nil => rfl
  | cons call calls ih =>
    have one : u64Add 0 1 = 1 := by decide
    rw [List.map_cons, List.sum_cons, ih, List.countP_cons, bump, one, Nat.add_comm]
    simp

theorem storedCount_through (network : String) {column : PoolCounters → Nat}
    (adds : ∀ old new, column (PoolCounters.add old new) = column old + column new) (calls : List PoolCall)
    (row : Option SelectorPoolPerformanceRollup) :
    storedCount column ((selectorPoolPerformanceLedger network).through (0 : Time) calls row) =
      storedCount column row + (calls.map fun call => column (call.counters PoolCounters.zero)).sum :=
  @Ledger.measure_through (selectorPoolPerformanceLedger network)
    (fun row : SelectorPoolPerformanceRollup => column row.toPoolCounters)
    (fun old new => adds old.toPoolCounters new.toPoolCounters) (0 : Time) calls row

/-- What written calls add to the counters of a row. -/
theorem poolCounts_of_stored (network : String) {written : List PoolCall}
    {old new : Option SelectorPoolPerformanceRollup}
    (stored : new.map SelectorPoolPerformanceRollup.counters =
      ((selectorPoolPerformanceLedger network).through (0 : Time) written old).map
        SelectorPoolPerformanceRollup.counters) :
    (∀ column ∈ poolColumns,
        storedCount column.1 new = storedCount column.1 old + written.countP fun call => call.stage ∈ column.2) ∧
      storedCount PoolCounters.samples new = storedCount PoolCounters.samples old + written.length := by
  constructor
  · intro column member
    obtain ⟨bumps, adds, zero, counts⟩ := poolColumn member
    have brings (call : PoolCall) : column.1 (call.counters PoolCounters.zero) = bump column.2 call.stage 0 := by
      rw [bumps, zero]
    rw [storedCount_congr counts stored, storedCount_through network adds, ← sum_bumps]
    simp only [brings]
  · have one (call : PoolCall) : (call.counters PoolCounters.zero).samples = 1 := by
      have alone : u64Add 0 1 = 1 := by decide
      exact alone
    have ones : (written.map fun call => (call.counters PoolCounters.zero).samples).sum = written.length := by
      simp [one]
    rw [storedCount_congr (fun _ => rfl) stored, storedCount_through network fun _ _ => rfl, ones]

/-- The stored counters of a pool are counts of calls, at every moment and even where writes have failed: of those that
have been written since its row was last deleted. -/
theorem poolRow_counts (reached : (rollups network).after (begin tables) steps = some state)
    (propers : ∀ call ∈ poolCalls steps, (selectorPoolPerformanceLaw network).proper call)
    (fit : ∀ r, (selectorPoolPerformanceLaw network).fits
      (Upsert.entryOf SelectorPoolPerformanceRollup.key r (tables RollupKind.selectorPoolPerformance))
      (ofRow (selectorPoolPerformanceLaw network) r (poolCalls steps))) (bucket : String) (pool : SelectorPool) :
    ∃ written : List PoolCall,
      written.Sublist ((poolCalls steps).filter fun call => call.bucket = bucket ∧ call.toSelectorPool = pool) ∧
      (∀ column ∈ poolColumns,
        storedCount column.1
            (Upsert.entryOf SelectorPoolPerformanceRollup.key (network, bucket, pool) (poolBuffer state).table) =
          storedCount column.1 (Upsert.entryOf SelectorPoolPerformanceRollup.key (network, bucket, pool)
            (poolTable steps (tables RollupKind.selectorPoolPerformance))) +
              written.countP fun call => call.stage ∈ column.2) ∧
      storedCount PoolCounters.samples
          (Upsert.entryOf SelectorPoolPerformanceRollup.key (network, bucket, pool) (poolBuffer state).table) =
        storedCount PoolCounters.samples (Upsert.entryOf SelectorPoolPerformanceRollup.key (network, bucket, pool)
          (poolTable steps (tables RollupKind.selectorPoolPerformance))) + written.length ∧
      ((∀ step ∈ steps, ¬ step.Loses RollupKind.selectorPoolPerformance) →
        (∀ step ∈ steps, step.deletes RollupKind.selectorPoolPerformance
          ((network, bucket, pool) : String × String × SelectorPool) = false) →
        poolKey pool bucket ∉ ((poolBuffer state).hands ++ (poolBuffer state).pending).map poolPerformanceKey →
        written = (poolCalls steps).filter fun call => call.bucket = bucket ∧ call.toSelectorPool = pool) := by
  obtain ⟨deleted, written, lost, later, all, inOrder, row, noneLost, spared, done⟩ :=
    rollups_stored_at_once reached RollupKind.selectorPoolPerformance propers fit (network, bucket, pool)
  have own : ofRow (selectorPoolPerformanceLaw network) (network, bucket, pool) (poolCalls steps) =
      (poolCalls steps).filter fun call => call.bucket = bucket ∧ call.toSelectorPool = pool := by
    refine List.filter_congr fun call _ => ?_
    simp [selectorPoolPerformanceLaw]
  have inside : written.Sublist
      ((poolCalls steps).filter fun call => call.bucket = bucket ∧ call.toSelectorPool = pool) :=
    own ▸ ((List.sublist_append_right deleted written).trans (List.sublist_append_left _ later)).trans inOrder
  have stored : (Upsert.entryOf SelectorPoolPerformanceRollup.key (network, bucket, pool) (poolBuffer state).table).map
        SelectorPoolPerformanceRollup.counters =
      ((selectorPoolPerformanceLedger network).through (0 : Time) written
        (Upsert.entryOf SelectorPoolPerformanceRollup.key (network, bucket, pool)
          (poolTable steps (tables RollupKind.selectorPoolPerformance)))).map SelectorPoolPerformanceRollup.counters := by
    have direct := @Ledger.entryOf_direct (selectorPoolPerformanceLedger network) (0 : Time) (network, bucket, pool)
      (poolTable steps (tables RollupKind.selectorPoolPerformance)) written fun call member => by
        obtain ⟨rfl, rfl⟩ := of_decide_eq_true (List.mem_filter.mp (inside.subset member)).2
        rfl
    rw [← direct]
    exact row (0 : Time)
  obtain ⟨counts, samples⟩ := poolCounts_of_stored network stored
  refine ⟨written, inside, counts, samples, fun safe kept flushed => ?_⟩
  refine (eq_of_nothing_left all inOrder (noneLost safe) (spared kept)
    (done fun call member waits => flushed ?_)).trans own
  obtain ⟨rfl, rfl⟩ := Prod.mk.inj (Prod.mk.inj (of_decide_eq_true (List.mem_filter.mp member).2)).2
  exact waits

/-- One of the two calls went down with the write that failed. -/
theorem poolRow_counts_sample :
    ∃ written : List PoolCall,
      written.Sublist [samplePool "partial_pool_found", samplePool "shadow_ev_positive"] ∧
      storedCount PoolCounters.samples (Upsert.entryOf SelectorPoolPerformanceRollup.key
        ("bsc", "12:00", (samplePool "").toSelectorPool) (poolBuffer sampleState).table) = 0 + written.length ∧
      written.length = 1 := by
  have few : (poolCalls sampleSteps).length < 2 ^ 63 := by decide
  obtain ⟨written, inside, _, samples, _⟩ := poolRow_counts sampleState_reached
    (show ∀ call ∈ [samplePool "partial_pool_found", samplePool "shadow_ev_positive"],
      Undivided call.bucket ∧ Undivided call.selector ∧ Undivided call.target ∧ Undivided call.tokenPair ∧
        Undivided call.pool ∧ Undivided call.dexKind by decide)
    (fun r => ⟨(List.length_filter_le _ _).trans_lt few, nofun⟩) "12:00" (samplePool "").toSelectorPool
  have stored : storedCount PoolCounters.samples (Upsert.entryOf SelectorPoolPerformanceRollup.key
      ("bsc", "12:00", (samplePool "").toSelectorPool) (poolBuffer sampleState).table) = 1 := by decide +kernel
  refine ⟨written, inside.trans List.filter_sublist, samples, ?_⟩
  rw [stored] at samples
  exact (Nat.zero_add _).symm.trans samples.symm

end ArbitrageRuntime.Dashboard
