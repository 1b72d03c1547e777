import ArbitrageRuntime.Storage.Queries

namespace ArbitrageRuntime.Storage

/-- What both backends may answer to the queries on the handle of a network, whichever newest rows SQLite reads. -/
structure BackendsAgree (network : String) (database : Database) (limit : Nat) : Prop where
  outcomeProfiles : ∀ parseAddress minSamples,
    (⟨.sqlite, network⟩ : Handle).outcomeProfiles database limit parseAddress minSamples =
      (⟨.postgres, network⟩ : Handle).outcomeProfiles database limit parseAddress minSamples
  toxicityProfiles : (⟨.sqlite, network⟩ : Handle).toxicityProfiles database limit =
    (⟨.postgres, network⟩ : Handle).toxicityProfiles database limit
  executionOutcomes : (⟨.sqlite, network⟩ : Handle).executionOutcomes database limit =
    (⟨.postgres, network⟩ : Handle).executionOutcomes database limit
  relayRankings : (⟨.sqlite, network⟩ : Handle).relayRankings database limit =
    (⟨.postgres, network⟩ : Handle).relayRankings database limit
  treasuryRebalanceTrail : (⟨.sqlite, network⟩ : Handle).treasuryRebalanceTrail database limit =
    (⟨.postgres, network⟩ : Handle).treasuryRebalanceTrail database limit
  selectorPerformanceScores : ∀ newestRow, NewestRows database.selectorGroups newestRow →
    (⟨.sqlite, network⟩ : Handle).selectorPerformanceScores database limit newestRow =
      (⟨.postgres, network⟩ : Handle).selectorPerformanceScores database limit newestRow
  selectorPoolPerformanceScores : (⟨.sqlite, network⟩ : Handle).selectorPoolPerformanceScores database limit =
    (⟨.postgres, network⟩ : Handle).selectorPoolPerformanceScores database limit
  selectorReplayScores : (⟨.sqlite, network⟩ : Handle).selectorReplayScores database limit =
    (⟨.postgres, network⟩ : Handle).selectorReplayScores database limit

/-- Where the two ORDER BY clauses of a query differ, they have to order the groups alike: the toxicity of a
context never falls with its samples, and the confidence of newest rows sorts the selectors as that of all
rows does. -/
structure OrdersAgree (network : String) (database : Database) : Prop where
  toxicity : ∀ first ∈ database.outcomeContexts network, ∀ second ∈ database.outcomeContexts network,
    (contextRates first.2).samples ≤ (contextRates second.2).samples →
      toxicityRank (contextRates first.2) ≤ toxicityRank (contextRates second.2)
  selectors : ∀ newestRow, NewestRows database.selectorGroups newestRow →
    ∀ first ∈ database.selectorGroups, ∀ second ∈ database.selectorGroups,
      sqliteSelectorRank newestRow first ≤ sqliteSelectorRank newestRow second ↔
        postgresSelectorRank first ≤ postgresSelectorRank second

def RelayMetrics.Fits (row : RelayMetrics) : Prop :=
  row.accepted < 2 ^ 63 ∧ row.submitFailed < 2 ^ 63 ∧ row.includedSuccess < 2 ^ 63 ∧ row.includedRevert < 2 ^ 63 ∧
    row.notIncludedTimeout < 2 ^ 63

def ExecutionOutcomeRow.Fits (row : ExecutionOutcomeRow) : Prop := row.targetBlock < 2 ^ 63 ∧ row.gasUsed < 2 ^ 63

def PoolCounters.counts (counters : PoolCounters) : List Nat :=
  [counters.poolFound, counters.poolMissing, counters.payloadBuilt, counters.shadowEvPositive,
    counters.shadowEvNegative, counters.partialEnteredPayloadBuilder, counters.partialPoolDiscoveryAttempted,
    counters.partialPoolFound, counters.partialPoolMissing, counters.partialShadowEvPositive,
    counters.partialShadowEvNegative, counters.partialReplayCandidateCreated,
    counters.partialReplayCandidateRejected, counters.samples]

/-- No counter has outgrown its signed column, nor the sum of one the signed word. Beyond that SQLite goes on
with floating point and Postgres refuses the statement. -/
structure CountersFit (database : Database) : Prop where
  relays : ∀ row ∈ database.relayMetrics, row.Fits
  selectors : ∀ group ∈ database.selectorGroups, totalCount group.2 < 2 ^ 63
  pools : ∀ group ∈ database.poolGroups, ∀ count ∈ (poolCounters group.2).counts, count < 2 ^ 63
  replays : ∀ row ∈ database.selectorReplayScores, row.replayCases < 2 ^ 63

/-- The block numbers and the gas of the outcomes of a network fit their signed columns. -/
def OutcomesFit (network : String) (database : Database) : Prop :=
  ∀ row ∈ database.executionOutcomes, row.network = network → row.Fits

section Reading

variable {Row Snapshot : Type} {read : Row → Except String Snapshot} {rows : List Row}

theorem mapM_of_readable {snapshot : Row → Snapshot} (readable : ∀ row ∈ rows, read row = .ok (snapshot row)) :
    rows.mapM read = .ok (rows.map snapshot) := by
  induction rows with
  | nil => rfl
  | cons row rows ih =>
    have rest := ih fun other member => readable other (List.mem_cons_of_mem _ member)
    rw [List.mapM_cons, readable row List.mem_cons_self, rest]
    rfl

/-- An answer that does not fail has read every row. -/
theorem readable_of_mapM {snapshots : List Snapshot} (answer : rows.mapM read = .ok snapshots) :
    ∀ row ∈ rows, ∃ snapshot, read row = .ok snapshot := by
  induction rows generalizing snapshots with
  | nil => exact fun row member => absurd member List.not_mem_nil
  | cons first rows ih =>
    rw [List.mapM_cons] at answer
    cases head : read first with
    | error error =>
      rw [head] at answer
      exact absurd answer (by simp [bind, Except.bind])
    | ok snapshot =>
      cases tail : rows.mapM read with
      | error error =>
        rw [head, tail] at answer
        exact absurd answer (by simp [bind, Except.bind])
      | ok rest =>
        intro row member
        rcases List.mem_cons.mp member with rfl | later
        · exact ⟨snapshot, head⟩
        · exact ih tail row later

end Reading

theorem RelayMetrics.Fits.read {row : RelayMetrics} (fits : row.Fits) (backend : Backend) :
    row.read backend = .ok row.snapshot := by
  obtain ⟨accepted, submitFailed, includedSuccess, includedRevert, notIncludedTimeout⟩ := fits
  simp only [RelayMetrics.read, backend.readU64_of_lt accepted, backend.readU64_of_lt submitFailed,
    backend.readU64_of_lt includedSuccess, backend.readU64_of_lt includedRevert,
    backend.readU64_of_lt notIncludedTimeout]
  rfl

theorem ExecutionOutcomeRow.Fits.read {row : ExecutionOutcomeRow} (fits : row.Fits) (backend : Backend) :
    row.read backend = .ok row.snapshot := by
  simp only [ExecutionOutcomeRow.read, backend.readU64_of_lt fits.1, backend.readU64_of_lt fits.2]
  rfl

/-- SQLite reads no other outcomes. -/
theorem ExecutionOutcomeRow.fits_of_read {row : ExecutionOutcomeRow} {snapshot : ExecutionOutcomeSnapshot}
    (block : row.targetBlock < 2 ^ 64) (gas : row.gasUsed < 2 ^ 64) (read : row.read .sqlite = .ok snapshot) :
    row.Fits := by
  unfold ExecutionOutcomeRow.read at read
  cases first : Backend.sqlite.readU64 row.targetBlock with
  | error error =>
    rw [first] at read
    exact absurd read (by simp [bind, Except.bind])
  | ok targetBlock =>
    cases second : Backend.sqlite.readU64 row.gasUsed with
    | error error =>
      rw [first, second] at read
      exact absurd read (by simp [bind, Except.bind])
    | ok gasUsed =>
      exact ⟨(Backend.readU64_isOk_iff block).mp ⟨_, first⟩, (Backend.readU64_isOk_iff gas).mp ⟨_, second⟩⟩

/-- Postgres reads every outcome. -/
theorem ExecutionOutcomeRow.read_postgres (row : ExecutionOutcomeRow) :
    ∃ snapshot, row.read .postgres = .ok snapshot := ⟨_, rfl⟩

section Fitting

variable {network : String} {database : Database} {limit : Nat}

theorem CountersFit.relayRankings (fit : CountersFit database) (fits : limit < 2 ^ 63) :
    (⟨.sqlite, network⟩ : Handle).relayRankings database limit =
      (⟨.postgres, network⟩ : Handle).relayRankings database limit := by
  simp only [Handle.relayRankings, Backend.select_of_lt _ fits]
  refine Set.image_congr fun answer member => ?_
  obtain ⟨result, answers, rfl⟩ := mem_selectWithin.mp member
  have readable : ∀ backend, ∀ row ∈ result, row.read backend = .ok row.snapshot := by
    intro backend row inside
    have stored := List.mem_of_mem_filter (Relational.subset_of_answers answers inside)
    exact (fit.relays row stored).read backend
  simp only [readRows, Except.bind, List.filterMap_some, mapM_of_readable (readable _)]

theorem Handle.executionOutcomes_eq (handle : Handle) (fits : limit < 2 ^ 63) :
    handle.executionOutcomes database limit =
      (Relational.cutAt (some limit)
        (database.executionOutcomes.filter fun row => row.network = handle.network).reverse).mapM
          (ExecutionOutcomeRow.read handle.backend) := by
  unfold Handle.executionOutcomes Backend.newestFirst readRows
  rw [Backend.window_of_lt handle.backend fits]
  simp only [Except.map, List.map_id, Except.bind]

theorem OutcomesFit.executionOutcomes (fit : OutcomesFit network database) (fits : limit < 2 ^ 63) :
    (⟨.sqlite, network⟩ : Handle).executionOutcomes database limit =
      (⟨.postgres, network⟩ : Handle).executionOutcomes database limit := by
  rw [Handle.executionOutcomes_eq _ fits, Handle.executionOutcomes_eq _ fits]
  have readable : ∀ backend, ∀ row ∈ Relational.cutAt (some limit)
      (database.executionOutcomes.filter fun row => row.network = network).reverse,
      row.read backend = .ok row.snapshot := by
    intro backend row inside
    have stored := List.mem_filter.mp (List.mem_reverse.mp (Relational.cutAt_subset _ _ inside))
    exact (fit row stored.1 (of_decide_eq_true stored.2)).read backend
  rw [mapM_of_readable (readable .sqlite), mapM_of_readable (readable .postgres)]

end Fitting

section Select

variable {Row Rank Rank' Snapshot : Type} [LinearOrder Rank] [LinearOrder Rank'] {sortKey : Row → Rank}
  {sortKey' : Row → Rank'} {rows : List Row}

theorem selectWithin_congr (same : ∀ first ∈ rows, ∀ second ∈ rows,
      sortKey first ≤ sortKey second ↔ sortKey' first ≤ sortKey' second) (window : Except String (Option Nat))
    (finish : Row → Option Snapshot) : selectWithin window sortKey finish rows =
      selectWithin window sortKey' finish rows := by
  cases window with
  | error error => rfl
  | ok limit =>
    ext answer
    simp only [mem_selectWithin, Relational.answers_congr same]

theorem eq_of_snapshots {snapshot : Row → Snapshot}
    (faithful : ∀ first ∈ rows, ∀ second ∈ rows, snapshot first = snapshot second → first = second)
    {left right : List Row} (inside : left ⊆ rows) (inside' : right ⊆ rows)
    (same : left.map snapshot = right.map snapshot) : left = right := by
  induction left generalizing right with
  | nil => exact (List.map_eq_nil_iff.mp same.symm).symm
  | cons first left ih =>
    cases right with
    | nil => exact absurd same (by simp)
    | cons second right =>
      obtain ⟨head, tail⟩ := List.cons.inj same
      have rest := ih (fun row member => inside (List.mem_cons_of_mem _ member))
        (fun row member => inside' (List.mem_cons_of_mem _ member)) tail
      rw [faithful first (inside List.mem_cons_self) second (inside' List.mem_cons_self) head, rest]

/-- Snapshots that tell the rows apart show the order of the rows. -/
theorem le_of_selectWithin {most : Nat} {snapshot : Row → Snapshot} (enough : rows.length ≤ most)
    (faithful : ∀ first ∈ rows, ∀ second ∈ rows, snapshot first = snapshot second → first = second)
    (same : selectWithin (.ok (some most)) sortKey (fun row => some (snapshot row)) rows =
      selectWithin (.ok (some most)) sortKey' (fun row => some (snapshot row)) rows)
    {first second : Row} (member : first ∈ rows) (member' : second ∈ rows) (le : sortKey first ≤ sortKey second) :
    sortKey' first ≤ sortKey' second := by
  by_cases distinct : first = second
  · rw [distinct]
  refine Relational.le_of_answers enough ?_ distinct member member' le
  intro answer answers
  have shown := same.subset (mem_selectWithin.mpr ⟨answer, answers, rfl⟩)
  obtain ⟨answer', answers', snapshots⟩ := mem_selectWithin.mp shown
  have inside := Relational.subset_of_answers answers
  have inside' := Relational.subset_of_answers answers'
  have equal : answer = answer' := by
    apply eq_of_snapshots faithful inside inside'
    simpa only [List.filterMap_eq_map'] using Except.ok.inj snapshots
  exact equal ▸ answers'

end Select

theorem toxicity_order {first second : ContextRates} :
    toLex (OrderDual.toDual (toxicityRank first), OrderDual.toDual first.samples) ≤
        toLex (OrderDual.toDual (toxicityRank second), OrderDual.toDual second.samples) ↔
      toxicityRank second < toxicityRank first ∨
        toxicityRank first = toxicityRank second ∧ second.samples ≤ first.samples := by
  rw [Prod.Lex.toLex_le_toLex]
  simp only [OrderDual.toDual_lt_toDual, OrderDual.toDual_le_toDual, OrderDual.toDual_inj]

namespace OrdersAgree

variable {network : String} {database : Database} {limit : Nat}

/-- Under a toxicity that follows the samples the worst contexts are the busiest. -/
theorem toxicity_iff (agree : OrdersAgree network database) {first second : OutcomeGroup}
    (member : first ∈ database.outcomeContexts network) (member' : second ∈ database.outcomeContexts network) :
    toLex (OrderDual.toDual (toxicityRank (contextRates first.2)), OrderDual.toDual (contextRates first.2).samples) ≤
        toLex (OrderDual.toDual (toxicityRank (contextRates second.2)),
          OrderDual.toDual (contextRates second.2).samples) ↔
      OrderDual.toDual (contextRates first.2).samples ≤ OrderDual.toDual (contextRates second.2).samples := by
  rw [toxicity_order, OrderDual.toDual_le_toDual]
  constructor
  · rintro (worse | ⟨_, busier⟩)
    · by_contra fewer
      have follows := agree.toxicity first member second member' (by omega)
      exact absurd worse (not_lt.mpr follows)
    · exact busier
  · intro busier
    rcases lt_or_eq_of_le (agree.toxicity second member' first member busier) with worse | equal
    · exact .inl worse
    · exact .inr ⟨equal.symm, busier⟩

/-- Where the columns fit and the orders agree, so do the backends, for every limit that fits the signed word. -/
theorem backendsAgree (agree : OrdersAgree network database) (counters : CountersFit database)
    (outcomes : OutcomesFit network database) (fits : limit < 2 ^ 63) : BackendsAgree network database limit where
  outcomeProfiles := fun parseAddress minSamples => by
    simp only [Handle.outcomeProfiles, Backend.select_of_lt _ fits]
  toxicityProfiles := by
    simp only [Handle.toxicityProfiles, Backend.select_of_lt _ fits]
    exact selectWithin_congr (fun first member second member' => agree.toxicity_iff member member') _ _
  executionOutcomes := outcomes.executionOutcomes fits
  relayRankings := counters.relayRankings fits
  treasuryRebalanceTrail := by
    simp only [Handle.treasuryRebalanceTrail, Backend.newestFirst, Backend.window_of_lt _ fits]
  selectorPerformanceScores := fun newestRow newest => by
    simp only [Handle.selectorPerformanceScores, Backend.select_of_lt _ fits]
    exact selectWithin_congr (agree.selectors newestRow newest) _ _
  selectorPoolPerformanceScores := by
    simp only [Handle.selectorPoolPerformanceScores, Backend.select_of_lt _ fits]
  selectorReplayScores := by simp only [Handle.selectorReplayScores, Backend.select_of_lt _ fits]

end OrdersAgree

/-- The snapshot of a context names the context. -/
theorem toxicitySnapshot_faithful {database : Database} {network : String} {first second : OutcomeGroup}
    (member : first ∈ database.outcomeContexts network) (member' : second ∈ database.outcomeContexts network)
    (same : toxicitySnapshot first = toxicitySnapshot second) : first = second := by
  have context : first.1 = second.1 := congrArg ToxicitySnapshot.toOutcomeContext same
  exact List.inj_on_of_nodup_map (Relational.nodup_groups _ _) member member' context

theorem selectorSnapshot_faithful {database : Database} {first second : SelectorGroup}
    (member : first ∈ database.selectorGroups) (member' : second ∈ database.selectorGroups)
    (same : selectorSnapshot first = selectorSnapshot second) : first = second := by
  have source : first.1 = second.1 := congrArg SelectorPerformanceSnapshot.toSelectorSource same
  exact List.inj_on_of_nodup_map (Relational.nodup_groups _ _) member member' source

/-- A run of calls leaves no more rows than there are calls. -/
theorem Database.sizes_after (writes : List Write) :
    (Database.empty.after writes).executionOutcomes.length ≤ writes.length ∧
      (Database.empty.after writes).selectorPerformanceRollups.length ≤ writes.length := by
  induction writes using List.reverseRecOn with
  | nil => exact ⟨le_rfl, le_rfl⟩
  | append_singleton writes last ih =>
    obtain ⟨outcomes, rollups⟩ := ih
    rw [Database.after_concat, List.length_append, List.length_singleton]
    cases called : last.call with
    | executionOutcome outcome =>
      simp only [Database.write, called, List.length_append, List.length_singleton]
      omega
    | selectorPerformanceRollup performance =>
      simp only [Database.write, called]
      exact ⟨by omega, (Relational.length_upsert_le _).trans (Nat.succ_le_succ rollups)⟩
    | relayOutcome outcome =>
      simp only [Database.write, called]
      omega
    | treasuryRecommendation recommendation =>
      simp only [Database.write, called]
      omega
    | selectorPoolPerformanceRollup performance =>
      simp only [Database.write, called]
      omega
    | selectorReplayScore replay =>
      simp only [Database.write, called]
      omega
    | otherTable =>
      simp only [Database.write, called]
      omega

theorem length_outcomeContexts_le (writes : List Write) (network : String) :
    ((Database.empty.after writes).outcomeContexts network).length ≤ writes.length :=
  (Relational.length_groups_le _ _).trans ((List.length_filter_le _ _).trans (Database.sizes_after writes).1)

theorem length_selectorGroups_le (writes : List Write) :
    (Database.empty.after writes).selectorGroups.length ≤ writes.length :=
  (Relational.length_groups_le _ _).trans (Database.sizes_after writes).2

/-- A limit above all rows shows both orders whole. -/
theorem ordersAgree_of_backendsAgree {network : String} {database : Database} {most : Nat} (fits : most < 2 ^ 63)
    (contexts : (database.outcomeContexts network).length ≤ most) (selectors : database.selectorGroups.length ≤ most)
    (agree : BackendsAgree network database most) : OrdersAgree network database where
  toxicity := by
    intro first member second member' samples
    have same := agree.toxicityProfiles
    simp only [Handle.toxicityProfiles, Backend.select_of_lt _ fits] at same
    have order := le_of_selectWithin contexts
      (fun _ inside _ inside' => toxicitySnapshot_faithful inside inside') same.symm member' member
      (OrderDual.toDual_le_toDual.mpr samples)
    rcases toxicity_order.mp order with worse | ⟨equal, _⟩
    · exact worse.le
    · exact equal.ge
  selectors := by
    intro newestRow newest first member second member'
    have same := agree.selectorPerformanceScores newestRow newest
    simp only [Handle.selectorPerformanceScores, Backend.select_of_lt _ fits] at same
    constructor
    · exact le_of_selectWithin selectors (fun _ inside _ inside' => selectorSnapshot_faithful inside inside') same
        member member'
    · exact le_of_selectWithin selectors (fun _ inside _ inside' => selectorSnapshot_faithful inside inside')
        same.symm member member'

/-- Outcomes that SQLite reads under a limit above them all fit their columns. -/
theorem outcomesFit_of_backendsAgree {network : String} {database : Database} {most : Nat} (fits : most < 2 ^ 63)
    (outcomes : database.executionOutcomes.length ≤ most)
    (words : ∀ row ∈ database.executionOutcomes, row.targetBlock < 2 ^ 64 ∧ row.gasUsed < 2 ^ 64)
    (agree : BackendsAgree network database most) : OutcomesFit network database := by
  intro row member own
  have same := agree.executionOutcomes
  rw [Handle.executionOutcomes_eq _ fits, Handle.executionOutcomes_eq _ fits] at same
  have whole : Relational.cutAt (some most)
      (database.executionOutcomes.filter fun row => row.network = network).reverse =
        (database.executionOutcomes.filter fun row => row.network = network).reverse := by
    refine Relational.cutAt_of_enough fun limit given => ?_
    cases given
    rw [List.length_reverse]
    exact (List.length_filter_le _ _).trans outcomes
  rw [whole] at same
  choose snapshot read using ExecutionOutcomeRow.read_postgres
  rw [mapM_of_readable fun row _ => read row] at same
  have inside : row ∈ (database.executionOutcomes.filter fun row => row.network = network).reverse :=
    List.mem_reverse.mpr (List.mem_filter.mpr ⟨member, decide_eq_true own⟩)
  obtain ⟨shown, answer⟩ := readable_of_mapM same row inside
  obtain ⟨block, gas⟩ := words row member
  exact ExecutionOutcomeRow.fits_of_read block gas answer

/-- A limit that turns negative lets SQLite answer and Postgres fail. -/
theorem not_backendsAgree_of_negative {network : String} {database : Database} {limit : Nat}
    (large : 2 ^ 63 ≤ limit) (word : limit < 2 ^ 64) : ¬ BackendsAgree network database limit := by
  intro agree
  have negative := asI64_neg large word
  have unlimited : Backend.sqlite.window (asI64 limit) = .ok none := if_pos negative
  have refused : Backend.postgres.window (asI64 limit) = .error "LIMIT must not be negative" := if_pos negative
  have same := agree.selectorReplayScores
  simp only [Handle.selectorReplayScores, Backend.select, unlimited, refused] at same
  have failed : (.error "LIMIT must not be negative" : Answer SelectorReplayScoreSnapshot) ∈
      selectWithin (.ok none) _ _ database.selectorReplayScores := same.symm.subset (Set.mem_singleton _)
  obtain ⟨_, _, answer⟩ := mem_selectWithin.mp failed
  exact absurd answer (by simp)

/-- The backends answer alike, over every run of calls whose counters fit their columns and every limit of a signed
word, exactly when the outcomes fit theirs and the ORDER BY clauses that differ order the recorded groups alike.
With a larger limit only SQLite answers. -/
theorem backendsAgree_iff (network : String) (writes : List Write) :
    (CountersFit (Database.empty.after writes) → OutcomesFit network (Database.empty.after writes) →
      OrdersAgree network (Database.empty.after writes) →
        ∀ limit < 2 ^ 63, BackendsAgree network (Database.empty.after writes) limit) ∧
    (writes.length < 2 ^ 63 →
      (∀ row ∈ (Database.empty.after writes).executionOutcomes, row.targetBlock < 2 ^ 64 ∧ row.gasUsed < 2 ^ 64) →
      (∀ limit < 2 ^ 63, BackendsAgree network (Database.empty.after writes) limit) →
        OutcomesFit network (Database.empty.after writes) ∧ OrdersAgree network (Database.empty.after writes)) ∧
    ∀ limit, 2 ^ 63 ≤ limit → limit < 2 ^ 64 → ¬ BackendsAgree network (Database.empty.after writes) limit := by
  refine ⟨fun counters outcomes agree limit fits => agree.backendsAgree counters outcomes fits, ?_,
    fun limit => not_backendsAgree_of_negative⟩
  intro short words agree
  have shown := agree writes.length short
  exact ⟨outcomesFit_of_backendsAgree short (Database.sizes_after writes).1 words shown,
    ordersAgree_of_backendsAgree short (length_outcomeContexts_le writes network) (length_selectorGroups_le writes)
      shown⟩

/-- An outcome on a pair of its own. -/
def sampleExecution (pair outcome : String) (realizedProfitEth : ℚ) : ExecutionOutcome where
  relay := "rpc://polygon-a"
  targetBlock := 456
  pair := pair
  router := "0x00000000000000000000000000000000000000c9"
  tokenIn := "0x000000000000000000000000000000000000012d"
  tokenOut := "0x0000000000000000000000000000000000000191"
  victimTx := "0xvictim"
  outcome := outcome
  expectedProfitEth := 1
  realizedProfitEth := realizedProfitEth
  gasUsed := 210000
  submitLatencyMs := 14
  finalizationLatencyMs := 700

/-- Two successes on one pair and a revert on another. -/
def sampleOutcomes : List Write :=
  [⟨"polygon", 1, .executionOutcome (sampleExecution "0xgood" "included_success" 1)⟩,
    ⟨"polygon", 2, .executionOutcome (sampleExecution "0xgood" "included_success" 1)⟩,
    ⟨"polygon", 3, .executionOutcome (sampleExecution "0xbad" "included_revert" 0)⟩]

def goodContext : OutcomeGroup :=
  (⟨0, "0xgood", "0x00000000000000000000000000000000000000c9"⟩,
    [⟨sampleExecution "0xgood" "included_success" 1, "polygon", 1⟩,
      ⟨sampleExecution "0xgood" "included_success" 1, "polygon", 2⟩])

def badContext : OutcomeGroup :=
  (⟨0, "0xbad", "0x00000000000000000000000000000000000000c9"⟩,
    [⟨sampleExecution "0xbad" "included_revert" 0, "polygon", 3⟩])

theorem sampleOutcomes_contexts :
    (Database.empty.after sampleOutcomes).outcomeContexts "polygon" = [goodContext, badContext] := rfl

/-- With room for one context, SQLite shows the one that reverts and Postgres the busier one. -/
theorem toxicity_differs_in_sampleOutcomes :
    ¬ BackendsAgree "polygon" (Database.empty.after sampleOutcomes) 1 := by
  intro agree
  have same := agree.toxicityProfiles
  simp only [Handle.toxicityProfiles, Backend.select_of_lt _ (show 1 < 2 ^ 63 by decide),
    sampleOutcomes_contexts] at same
  have busiest : Relational.Answers (fun group : OutcomeGroup => OrderDual.toDual (contextRates group.2).samples)
      (some 1) [goodContext, badContext] [goodContext] :=
    ⟨[goodContext, badContext], .refl _, List.pairwise_pair.mpr (by decide), rfl⟩
  obtain ⟨result, ⟨sorted, perm, ordered, cut⟩, answer⟩ :=
    mem_selectWithin.mp (same.symm.subset (mem_selectWithin.mpr ⟨_, busiest, rfl⟩))
  cases sorted with
  | nil => exact absurd perm.length_eq (by simp)
  | cons head rest =>
    have shown : [toxicitySnapshot goodContext] = [toxicitySnapshot head] := by
      rw [cut] at answer
      exact Except.ok.inj answer
    have first : head = goodContext := by
      have named : goodContext.1.pair = head.1.pair :=
        congrArg (fun snapshot : ToxicitySnapshot => snapshot.pair) (List.cons.inj shown).1
      have inside := perm.subset List.mem_cons_self
      rcases List.mem_cons.mp inside with rfl | other
      · rfl
      · rw [List.mem_singleton.mp other] at named
        exact absurd named (by decide)
    rw [first] at perm ordered
    have later : badContext ∈ rest := (List.perm_cons goodContext).mp perm |>.symm.subset List.mem_cons_self
    have order := toxicity_order.mp (List.rel_of_pairwise_cons ordered later)
    exact absurd order (by decide +kernel)

end ArbitrageRuntime.Storage
