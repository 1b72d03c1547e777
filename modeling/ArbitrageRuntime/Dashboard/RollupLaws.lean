import ArbitrageRuntime.Dashboard.Rollups

namespace ArbitrageRuntime.Dashboard

open Storage WriteBehind

/-- A part of a key in which no divider stands. -/
def Undivided (text : String) : Prop := '|' ∉ text.toList

instance (text : String) : Decidable (Undivided text) := inferInstanceAs (Decidable ('|' ∉ text.toList))

theorem bar_inj {front front' back back' : String} (undivided : Undivided front) (undivided' : Undivided front') :
    front ++ ("|" ++ back) = front' ++ ("|" ++ back') ↔ front = front' ∧ back = back' :=
  Divided.text_inj (by decide) undivided undivided'

theorem asI64_add {a b : Nat} (fits : a + b < 2 ^ 63) : asI64 (a + b) = asI64 a + asI64 b := by
  rw [asI64_eq fits, asI64_eq (by omega), asI64_eq (by omega), Nat.cast_add]

theorem asI64_max {a b : Nat} (fits : a < 2 ^ 63) (fits' : b < 2 ^ 63) : asI64 (max a b) = max (asI64 a) (asI64 b) := by
  rw [asI64_eq (by omega), asI64_eq fits, asI64_eq fits', Nat.cast_max]

/-- A stored number, if there is one, and what is added to it stay within the signed word. -/
def SumFits (stored : Option Int) (added : Nat) : Prop :=
  added < 2 ^ 63 ∧ ∀ old, stored = some old → old + added < 2 ^ 63

theorem SumFits.of_le {stored : Option Int} {added less : Nat} (fits : SumFits stored added) (le : less ≤ added) :
    SumFits stored less := by
  refine ⟨lt_of_le_of_lt le fits.1, fun old found => ?_⟩
  have room := fits.2 old found
  omega

theorem SumFits.none {stored : Option Int} {added : Nat} (fits : SumFits stored added) : SumFits none added :=
  ⟨fits.1, nofun⟩

/-- A count that is bound as a signed word and goes up by one. -/
theorem asI64_count {count calls : Nat} (counted : count ≤ calls) (fits : calls + 1 < 2 ^ 63) :
    asI64 (u64Add count 1) = asI64 count + asI64 (u64Add 0 1) := by
  have up : u64Add count 1 = count + 1 := Saturating.add_eq (by unfold u64Max; omega)
  have one : u64Add 0 1 = 1 := by decide
  rw [up, one, asI64_add (by omega)]

section Latency

variable (network : String)

def totalOf (calls : List LatencyCall) : Nat := (calls.map LatencyCall.durationMs).sum

theorem totalOf_sublist {calls calls' : List LatencyCall} (inside : calls.Sublist calls') :
    totalOf calls ≤ totalOf calls' := (inside.map LatencyCall.durationMs).sum_le_sum fun _ _ => Nat.zero_le _

theorem totalOf_concat (calls : List LatencyCall) (call : LatencyCall) :
    totalOf (calls ++ [call]) = totalOf calls + call.durationMs := by
  rw [totalOf, totalOf, List.map_append, List.sum_append, List.map_singleton, List.sum_singleton]

/-- The entry of calls whose number and whose durations stay below `2 ^ 63`. -/
theorem latencyEntry (first : LatencyCall) (rest : List LatencyCall) (few : (first :: rest).length < 2 ^ 63)
    (short : totalOf (first :: rest) < 2 ^ 63) :
    ((latencyLedger network).entry first rest : PendingLatencyRollup).samples = (first :: rest).length ∧
      ((latencyLedger network).entry first rest : PendingLatencyRollup).totalMs = totalOf (first :: rest) ∧
      ((latencyLedger network).entry first rest : PendingLatencyRollup).maxMs ≤ totalOf (first :: rest) := by
  induction rest using List.reverseRecOn with
  | nil =>
    have total : totalOf [first] = first.durationMs := List.sum_singleton
    rw [total] at short ⊢
    have added : Saturating.add u128Max 0 first.durationMs = 0 + first.durationMs :=
      Saturating.add_eq (by unfold u128Max; omega)
    exact ⟨rfl, added.trans (Nat.zero_add _), (Nat.zero_max _).le⟩
  | append_singleton rest call ih =>
    rw [← List.cons_append] at few short ⊢
    rw [totalOf_concat] at short ⊢
    rw [List.length_append, List.length_singleton] at few ⊢
    obtain ⟨samples, totalMs, maxMs⟩ := ih (by omega) (by omega)
    have updated : (latencyLedger network).entry first (rest ++ [call]) =
        PendingLatencyRollup.record ((latencyLedger network).entry first rest) call.durationMs :=
      @Ledger.entry_concat (latencyLedger network) first rest call
    rw [updated]
    generalize ((latencyLedger network).entry first rest : PendingLatencyRollup) = entry at samples totalMs maxMs ⊢
    have up : u64Add entry.samples 1 = (first :: rest).length + 1 := by
      rw [samples]
      exact Saturating.add_eq (by unfold u64Max; omega)
    have added : Saturating.add u128Max entry.totalMs call.durationMs = totalOf (first :: rest) + call.durationMs := by
      rw [totalMs]
      exact Saturating.add_eq (by unfold u128Max; omega)
    have longest : (entry.record call.durationMs).maxMs ≤ totalOf (first :: rest) + call.durationMs :=
      max_le (by omega) (by omega)
    exact ⟨up, added, longest⟩

theorem key_record (entry : PendingLatencyRollup) (durationMs : Nat) :
    (latencyRollup network (entry.record durationMs)).key = (latencyRollup network entry).key := by
  simp only [latencyRollup, LatencyRollup.key, PendingLatencyRollup.record]

/-- One duration more in an entry. -/
theorem latencyRollup_record {entry : PendingLatencyRollup} {call : LatencyCall} (few : entry.samples + 1 < 2 ^ 63)
    (short : entry.totalMs + call.durationMs < 2 ^ 63) (most : entry.maxMs ≤ entry.totalMs) :
    latencyRollup network (entry.record call.durationMs) =
      (latencyRollup network entry).merge (latencyRollup network (PendingLatencyRollup.change call).fresh) := by
  have added : Saturating.add u128Max entry.totalMs call.durationMs = entry.totalMs + call.durationMs :=
    Saturating.add_eq (by unfold u128Max; omega)
  have alone : Saturating.add u128Max 0 call.durationMs = call.durationMs :=
    (Saturating.add_eq (by unfold u128Max; omega)).trans (Nat.zero_add _)
  have count := asI64_count le_rfl few
  have total : asI64 (entry.totalMs + call.durationMs) = asI64 entry.totalMs + asI64 call.durationMs := asI64_add short
  have longest : asI64 (max entry.maxMs call.durationMs) = max (asI64 entry.maxMs) (asI64 call.durationMs) :=
    asI64_max (by omega) (by omega)
  simp only [latencyRollup, LatencyRollup.merge, PendingLatencyRollup.record, PendingLatencyRollup.change,
    PendingLatencyRollup.start, added, alone, count, total, longest, Nat.zero_max]

def latencyLaw : (latencyLedger network).Law where
  View := LatencyRollup
  view := id
  mergeView := LatencyRollup.merge
  rowOf call := (network, call.bucket, call.stage)
  proper call := Undivided call.bucket
  fits row calls :=
    SumFits (row.map LatencyRollup.samples) calls.length ∧ SumFits (row.map LatencyRollup.totalMs) (totalOf calls)
  rowKey_fresh _ _ := rfl
  rowKey_update _ call entry := key_record network entry call.durationMs
  same_key_iff call call' undivided undivided' := by
    have keys : call.bucket ++ "|" ++ call.stage = call'.bucket ++ "|" ++ call'.stage ↔
        call.bucket = call'.bucket ∧ call.stage = call'.stage := by
      rw [String.append_assoc, String.append_assoc]
      exact bar_inj undivided undivided'
    exact keys.trans (by simp)
  fits_sublist _ _ _ inside fit := ⟨fit.1.of_le inside.length_le, fit.2.of_le (totalOf_sublist inside)⟩
  fits_none _ _ fit := ⟨fit.1.none, fit.2.none⟩
  view_row _ _ _ := rfl
  view_merge _ _ := rfl
  mergeView_assoc := LatencyRollup.merge_assoc
  view_update _ start first rest call fit := by
    obtain ⟨⟨few, _⟩, short, _⟩ := fit
    rw [List.length_append, List.length_singleton] at few
    rw [totalOf_concat] at short
    obtain ⟨samples, totalMs, maxMs⟩ := latencyEntry network first rest (by omega) (by omega)
    exact latencyRollup_record network (by omega) (by omega) (by omega)

end Latency

section Counts

variable (network : String) {ledger : Ledger}

/-- A number that goes up by at most one at every call. -/
theorem entry_le {count : ledger.Entry → Nat} (fresh : ∀ call, count (ledger.gather call).fresh ≤ 1)
    (update : ∀ call entry, count ((ledger.gather call).update entry) ≤ count entry + 1) (first : ledger.Call)
    (rest : List ledger.Call) : count (ledger.entry first rest) ≤ (first :: rest).length := by
  induction rest using List.reverseRecOn with
  | nil => exact fresh first
  | append_singleton rest call ih =>
    have last := update call (ledger.entry first rest)
    rw [Ledger.entry_concat, ← List.cons_append, List.length_append, List.length_singleton]
    omega

theorem u64Add_one_le (count : Nat) : u64Add count 1 ≤ count + 1 := Nat.min_le_left _ _

/-- The keys of calls that are told by their stage behind the minute. -/
theorem stageKey_iff {bucket bucket' stage stage' : String} (undivided : Undivided bucket)
    (undivided' : Undivided bucket') :
    bucket ++ "|" ++ stage = bucket' ++ "|" ++ stage' ↔ bucket = bucket' ∧ stage = stage' := by
  rw [String.append_assoc, String.append_assoc]
  exact bar_inj undivided undivided'

def funnelLaw : (funnelLedger network).Law where
  View := FunnelRollup
  view := id
  mergeView := FunnelRollup.merge
  rowOf call := (network, call.bucket, call.stage)
  proper call := Undivided call.bucket
  fits row calls := SumFits (row.map FunnelRollup.count) calls.length
  rowKey_fresh _ _ := rfl
  rowKey_update _ _ _ := by simp only [funnelRollup, FunnelRollup.key, FunnelCall.rollupChange]
  same_key_iff call call' undivided undivided' := (stageKey_iff undivided undivided').trans (by simp)
  fits_sublist _ _ _ inside fit := fit.of_le inside.length_le
  fits_none _ _ fit := fit.none
  view_row _ _ _ := rfl
  view_merge _ _ := rfl
  mergeView_assoc := FunnelRollup.merge_assoc
  view_update _ start first rest call fit := by
    have counted : ((funnelLedger network).entry first rest).count ≤ (first :: rest).length :=
      entry_le (fun _ => u64Add_one_le 0) (fun _ (entry : PendingCounterRollup) => u64Add_one_le entry.count) first rest
    have few := fit.1
    rw [List.length_append, List.length_singleton] at few
    simp only [id, funnelRollup, FunnelRollup.merge, FunnelCall.rollupChange, asI64_count counted few]

def rejectReasonLaw : (rejectReasonLedger network).Law where
  View := RejectReasonRollup
  view := id
  mergeView := RejectReasonRollup.merge
  rowOf call := (network, call.bucket, call.stage, call.reason)
  proper call := Undivided call.bucket ∧ Undivided call.stage
  fits row calls := SumFits (row.map RejectReasonRollup.count) calls.length
  rowKey_fresh _ _ := rfl
  rowKey_update _ _ _ := by simp only [rejectReasonRollup, RejectReasonRollup.key, RejectCall.rollupChange]
  same_key_iff call call' undivided undivided' := by
    have keys : call.bucket ++ "|" ++ call.stage ++ "|" ++ call.reason =
        call'.bucket ++ "|" ++ call'.stage ++ "|" ++ call'.reason ↔
          call.bucket = call'.bucket ∧ call.stage = call'.stage ∧ call.reason = call'.reason := by
      simp only [String.append_assoc]
      rw [bar_inj undivided.1 undivided'.1, bar_inj undivided.2 undivided'.2]
    exact keys.trans (by simp)
  fits_sublist _ _ _ inside fit := fit.of_le inside.length_le
  fits_none _ _ fit := fit.none
  view_row _ _ _ := rfl
  view_merge _ _ := rfl
  mergeView_assoc := RejectReasonRollup.merge_assoc
  view_update _ start first rest call fit := by
    have counted : ((rejectReasonLedger network).entry first rest).count ≤ (first :: rest).length :=
      entry_le (fun _ => u64Add_one_le 0) (fun _ (entry : PendingRejectReasonRollup) => u64Add_one_le entry.count)
        first rest
    have few := fit.1
    rw [List.length_append, List.length_singleton] at few
    simp only [id, rejectReasonRollup, RejectReasonRollup.merge, RejectCall.rollupChange, asI64_count counted few]

theorem sameSource (source source' : SelectorSource) : source = source' ↔ source.selector = source'.selector ∧
    source.target = source'.target ∧ source.decodeSource = source'.decodeSource := by
  cases source
  cases source'
  exact SelectorSource.mk.injEq .. ▸ Iff.rfl

def selectorPerformanceLaw : (selectorPerformanceLedger network).Law where
  View := SelectorPerformanceRollup
  view := SelectorPerformanceRollup.counters
  mergeView := SelectorPerformanceRollup.merge
  rowOf call := (network, call.bucket, call.toSelectorSource, call.stage)
  proper call :=
    Undivided call.bucket ∧ Undivided call.selector ∧ Undivided call.target ∧ Undivided call.decodeSource
  fits row calls := SumFits (row.map fun old : SelectorPerformanceRollup => (old.count : Int)) calls.length
  rowKey_fresh _ _ := rfl
  rowKey_update _ _ _ := by simp only [SelectorPerformanceRollup.key, SelectorCall.rollupChange, SelectorCall.record]
  same_key_iff call call' undivided undivided' := by
    obtain ⟨bucket, selector, target, decodeSource⟩ := undivided
    obtain ⟨bucket', selector', target', decodeSource'⟩ := undivided'
    have sources : call.toSelectorSource = call'.toSelectorSource ↔ call.selector = call'.selector ∧
        call.target = call'.target ∧ call.decodeSource = call'.decodeSource := sameSource _ _
    have keys : selectorKey call.toSelectorSource call.bucket call.stage =
        selectorKey call'.toSelectorSource call'.bucket call'.stage ↔
          call.bucket = call'.bucket ∧ call.toSelectorSource = call'.toSelectorSource ∧ call.stage = call'.stage := by
      simp only [selectorKey, String.append_assoc]
      rw [bar_inj bucket bucket', bar_inj selector selector', bar_inj target target',
        bar_inj decodeSource decodeSource', sources]
      simp only [and_assoc]
    exact keys.trans (by simp)
  fits_sublist _ _ _ inside fit := fit.of_le inside.length_le
  fits_none _ _ fit := fit.none
  view_row _ _ _ := rfl
  view_merge := SelectorPerformanceRollup.counters_merge
  mergeView_assoc := SelectorPerformanceRollup.merge_assoc
  view_update _ start first rest call fit := by
    have counted : ((selectorPerformanceLedger network).entry first rest).count ≤ (first :: rest).length :=
      entry_le (fun _ => u64Add_one_le 0) (fun _ (entry : SelectorPerformance) => u64Add_one_le entry.count) first rest
    have few := fit.1
    rw [List.length_append, List.length_singleton] at few
    have up : u64Add ((selectorPerformanceLedger network).entry first rest).count 1 =
        ((selectorPerformanceLedger network).entry first rest).count + u64Add 0 1 :=
      Saturating.add_eq (by unfold u64Max; omega)
    simp only [SelectorPerformanceRollup.counters, SelectorPerformanceRollup.merge, SelectorCall.rollupChange,
      SelectorCall.record, up, add_zero]

theorem bump_le (stages : List String) (stage : String) (count : Nat) : bump stages stage count ≤ count + 1 := by
  unfold bump
  split
  · exact u64Add_one_le count
  · exact Nat.le_succ count

/-- A counter that does not reach its top goes up by what it would be after this call alone. -/
theorem bump_add {stages : List String} {stage : String} {count calls : Nat} (counted : count ≤ calls)
    (fits : calls + 1 < 2 ^ 63) : bump stages stage count = count + bump stages stage 0 := by
  have up : u64Add count 1 = count + 1 := Saturating.add_eq (by unfold u64Max; omega)
  unfold bump
  split
  · rw [up]
    rfl
  · rfl

/-- The counters of a pool and the stages at which they go up. -/
def poolColumns : List ((PoolCounters → Nat) × List String) :=
  [(PoolCounters.poolFound, ["pool_found", "partial_pool_found"]),
   (PoolCounters.poolMissing, ["pool_missing", "partial_pool_missing"]),
   (PoolCounters.payloadBuilt, ["payload_built", "shadow_payload_built"]),
   (PoolCounters.shadowEvPositive, ["shadow_ev_positive", "partial_shadow_ev_positive"]),
   (PoolCounters.shadowEvNegative, ["shadow_ev_negative", "partial_shadow_ev_negative"]),
   (PoolCounters.partialEnteredPayloadBuilder, ["partial_entered_payload_builder"]),
   (PoolCounters.partialPoolDiscoveryAttempted, ["partial_pool_discovery_attempted"]),
   (PoolCounters.partialPoolFound, ["partial_pool_found"]),
   (PoolCounters.partialPoolMissing, ["partial_pool_missing"]),
   (PoolCounters.partialShadowEvPositive, ["partial_shadow_ev_positive"]),
   (PoolCounters.partialShadowEvNegative, ["partial_shadow_ev_negative"]),
   (PoolCounters.partialReplayCandidateCreated, ["partial_replay_candidate_created"]),
   (PoolCounters.partialReplayCandidateRejected, ["partial_replay_candidate_rejected"])]

/-- Every counter goes up at its stages, is added up with the stored one, starts at zero, and is not one of the
sums. -/
theorem poolColumn {column : (PoolCounters → Nat) × List String} (member : column ∈ poolColumns) :
    (∀ (call : PoolCall) counters, column.1 (call.counters counters) = bump column.2 call.stage (column.1 counters)) ∧
      (∀ old new, column.1 (PoolCounters.add old new) = column.1 old + column.1 new) ∧
      column.1 PoolCounters.zero = 0 ∧
      ∀ row : SelectorPoolPerformanceRollup, column.1 row.counters.toPoolCounters = column.1 row.toPoolCounters := by
  unfold poolColumns at member
  simp only [List.mem_cons, List.not_mem_nil, or_false] at member
  rcases member with rfl | rfl | rfl | rfl | rfl | rfl | rfl | rfl | rfl | rfl | rfl | rfl | rfl <;>
    exact ⟨fun _ _ => rfl, fun _ _ => rfl, rfl, fun _ => rfl⟩

theorem poolEntry_le (first : PoolCall) (rest : List PoolCall) {column : (PoolCounters → Nat) × List String}
    (member : column ∈ poolColumns) :
    column.1 ((selectorPoolPerformanceLedger network).entry first rest : SelectorPoolPerformance).toPoolCounters ≤
      (first :: rest).length := by
  obtain ⟨bumps, _, zero, _⟩ := poolColumn member
  have rises (call : PoolCall) (counters : PoolCounters) :
      column.1 (call.counters counters) ≤ column.1 counters + 1 := by
    rw [bumps]
    exact bump_le _ _ _
  refine @entry_le (selectorPoolPerformanceLedger network)
    (fun entry : SelectorPoolPerformance => column.1 entry.toPoolCounters) (fun call => ?_)
    (fun call entry => rises call entry.toPoolCounters) first rest
  have alone := rises call PoolCounters.zero
  rw [zero] at alone
  exact alone

theorem repr_inj {n m : Nat} : n.repr = m.repr ↔ n = m := by
  constructor
  · intro same
    have digits := congrArg (fun text => Nat.ofDigitChars 10 text.toList 0) same
    simpa [Nat.repr] using digits
  · rintro rfl
    rfl

theorem samePool (pool pool' : SelectorPool) : pool = pool' ↔ pool.selector = pool'.selector ∧
    pool.target = pool'.target ∧ pool.tokenPair = pool'.tokenPair ∧ pool.pool = pool'.pool ∧
    pool.dexKind = pool'.dexKind ∧ pool.feeTier = pool'.feeTier := by
  cases pool
  cases pool'
  exact SelectorPool.mk.injEq .. ▸ Iff.rfl

def selectorPoolPerformanceLaw : (selectorPoolPerformanceLedger network).Law where
  View := SelectorPoolPerformanceRollup
  view := SelectorPoolPerformanceRollup.counters
  mergeView := SelectorPoolPerformanceRollup.merge
  rowOf call := (network, call.bucket, call.toSelectorPool)
  proper call := Undivided call.bucket ∧ Undivided call.selector ∧ Undivided call.target ∧ Undivided call.tokenPair ∧
    Undivided call.pool ∧ Undivided call.dexKind
  fits row calls := SumFits (row.map fun old : SelectorPoolPerformanceRollup => (old.samples : Int)) calls.length
  rowKey_fresh _ _ := rfl
  rowKey_update _ _ _ := by simp only [SelectorPoolPerformanceRollup.key, PoolCall.rollupChange]
  same_key_iff call call' undivided undivided' := by
    obtain ⟨bucket, selector, target, tokenPair, pool, dexKind⟩ := undivided
    obtain ⟨bucket', selector', target', tokenPair', pool', dexKind'⟩ := undivided'
    have keys : poolKey call.toSelectorPool call.bucket = poolKey call'.toSelectorPool call'.bucket ↔
        call.bucket = call'.bucket ∧ call.toSelectorPool = call'.toSelectorPool := by
      simp only [poolKey, String.append_assoc]
      rw [bar_inj bucket bucket', bar_inj selector selector', bar_inj target target', bar_inj tokenPair tokenPair',
        bar_inj pool pool', bar_inj dexKind dexKind', repr_inj, samePool]
    exact keys.trans (by simp)
  fits_sublist _ _ _ inside fit := fit.of_le inside.length_le
  fits_none _ _ fit := fit.none
  view_row _ _ _ := rfl
  view_merge := SelectorPoolPerformanceRollup.counters_merge
  mergeView_assoc := SelectorPoolPerformanceRollup.merge_assoc
  view_update _ start first rest call fit := by
    have few := fit.1
    rw [List.length_append, List.length_singleton] at few
    have most := fun column => @poolEntry_le network first rest column
    have counted : ((selectorPoolPerformanceLedger network).entry first rest).samples ≤ (first :: rest).length :=
      @entry_le (selectorPoolPerformanceLedger network) (fun entry : SelectorPoolPerformance => entry.samples)
        (fun _ => u64Add_one_le 0) (fun _ entry => u64Add_one_le entry.samples) first rest
    generalize ((selectorPoolPerformanceLedger network).entry first rest : SelectorPoolPerformance) = entry
      at most counted ⊢
    have samples : u64Add entry.samples 1 = entry.samples + u64Add 0 1 :=
      Saturating.add_eq (by unfold u64Max; omega)
    simp only [poolColumns, List.mem_cons, List.not_mem_nil, or_false, forall_eq_or_imp, forall_eq] at most
    obtain ⟨poolFound, poolMissing, payloadBuilt, evPositive, evNegative, entered, attempted, partialFound,
      partialMissing, partialPositive, partialNegative, created, rejected⟩ := most
    simp only [SelectorPoolPerformanceRollup.counters, SelectorPoolPerformanceRollup.merge, PoolCounters.add,
      PoolCall.rollupChange, PoolCall.counters, PoolCounters.zero, bump_add poolFound few, bump_add poolMissing few,
      bump_add payloadBuilt few, bump_add evPositive few, bump_add evNegative few, bump_add entered few,
      bump_add attempted few, bump_add partialFound few, bump_add partialMissing few, bump_add partialPositive few,
      bump_add partialNegative few, bump_add created few, bump_add rejected few, samples, add_zero]

/-- What every map promises. -/
def laws : (kind : RollupKind) → (ledgers network kind).Law
  | .latency => latencyLaw network
  | .funnel => funnelLaw network
  | .rejectReason => rejectReasonLaw network
  | .selectorPerformance => selectorPerformanceLaw network
  | .selectorPoolPerformance => selectorPoolPerformanceLaw network

end Counts

end ArbitrageRuntime.Dashboard
