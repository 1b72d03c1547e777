import ArbitrageRuntime.Storage.Queries

namespace ArbitrageRuntime.Storage

/-- The calls that write one of the tables behind the selector scores. -/
def RecordCall.scoresSelector : RecordCall → Bool
  | .selectorPerformanceRollup _ => true
  | .selectorPoolPerformanceRollup _ => true
  | .selectorReplayScore _ => true
  | _ => false

namespace Handle

/-- Two databases that the handle cannot tell apart. -/
structure SameAnswers (handle : Handle) (shared alone : Database) : Prop where
  relayRankings : ∀ limit, handle.relayRankings shared limit = handle.relayRankings alone limit
  executionOutcomes : ∀ limit, handle.executionOutcomes shared limit = handle.executionOutcomes alone limit
  outcomeProfiles : ∀ limit parseAddress minSamples,
    handle.outcomeProfiles shared limit parseAddress minSamples =
      handle.outcomeProfiles alone limit parseAddress minSamples
  toxicityProfiles : ∀ limit, handle.toxicityProfiles shared limit = handle.toxicityProfiles alone limit
  treasuryRebalanceTrail : ∀ limit,
    handle.treasuryRebalanceTrail shared limit = handle.treasuryRebalanceTrail alone limit
  selectorPerformanceScores : ∀ limit newestRow,
    handle.selectorPerformanceScores shared limit newestRow = handle.selectorPerformanceScores alone limit newestRow
  selectorPoolPerformanceScores : ∀ limit,
    handle.selectorPoolPerformanceScores shared limit = handle.selectorPoolPerformanceScores alone limit
  selectorReplayScores : ∀ limit, handle.selectorReplayScores shared limit = handle.selectorReplayScores alone limit

/-- Every query answers as if only the calls on the network of the handle had been made. -/
def Isolated (handle : Handle) (writes : List Write) : Prop :=
  handle.SameAnswers (Database.empty.after writes)
    (Database.empty.after (writes.filter fun write => write.network = handle.network))

end Handle

/-- No other network scores selectors, and none writes the row of a relay of this one: the scoped names of two
relays can only meet if one network is named like the other with a colon behind it. -/
structure KeepsApart (network : String) (writes : List Write) : Prop where
  scores : ∀ write ∈ writes, write.network ≠ network → write.call.scoresSelector = false
  relays : ∀ own ∈ writes, own.network = network → ∀ foreign ∈ writes, foreign.network ≠ network →
    ∀ outcome outcome', own.call = .relayOutcome outcome → foreign.call = .relayOutcome outcome' →
      scopedRelay own.network outcome.relay ≠ scopedRelay foreign.network outcome'.relay

namespace KeepsApart

variable {network : String} {writes : List Write}

theorem of_prefix {front : List Write} (apart : KeepsApart network writes) (inside : front <+: writes) :
    KeepsApart network front where
  scores := fun write member => apart.scores write (inside.subset member)
  relays := fun own member named foreign member' =>
    apart.relays own (inside.subset member) named foreign (inside.subset member')

end KeepsApart

/-- Every relay row has the network and the scoped name of the last call that wrote it. -/
def RelayRowsFrom (writes : List Write) (database : Database) : Prop :=
  ∀ row ∈ database.relayMetrics, ∃ write ∈ writes, ∃ outcome, write.call = .relayOutcome outcome ∧
    row.relay = scopedRelay write.network outcome.relay ∧ row.network = write.network

theorem RelayRowsFrom.write {writes : List Write} {database : Database} (rows : RelayRowsFrom writes database)
    (last : Write) : RelayRowsFrom (writes ++ [last]) (database.write last) := by
  have earlier : RelayRowsFrom (writes ++ [last]) database := by
    intro row member
    obtain ⟨write, inside, outcome, origin⟩ := rows row member
    exact ⟨write, List.mem_append_left _ inside, outcome, origin⟩
  cases called : last.call with
  | relayOutcome outcome =>
    have own : last ∈ writes ++ [last] := List.mem_append_right _ List.mem_cons_self
    intro row member
    simp only [Database.write, called] at member
    rcases Relational.mem_upsert member with kept | rfl | ⟨old, _, conflict, rfl⟩
    · exact earlier row kept
    · exact ⟨last, own, outcome, called, rfl, rfl⟩
    · exact ⟨last, own, outcome, called, conflict, rfl⟩
  | treasuryRecommendation recommendation => simpa only [RelayRowsFrom, Database.write, called] using earlier
  | executionOutcome outcome => simpa only [RelayRowsFrom, Database.write, called] using earlier
  | selectorPerformanceRollup performance => simpa only [RelayRowsFrom, Database.write, called] using earlier
  | selectorPoolPerformanceRollup performance => simpa only [RelayRowsFrom, Database.write, called] using earlier
  | selectorReplayScore replay => simpa only [RelayRowsFrom, Database.write, called] using earlier
  | otherTable => simpa only [RelayRowsFrom, Database.write, called] using earlier

theorem relayRowsFrom_after (writes : List Write) : RelayRowsFrom writes (Database.empty.after writes) := by
  induction writes using List.reverseRecOn with
  | nil =>
    intro row member
    exact absurd member (by simp [Database.after, Database.empty])
  | append_singleton writes last ih =>
    rw [Database.after_concat]
    exact ih.write last

/-- What the queries on the handle of a network can read. -/
structure SameRows (network : String) (shared alone : Database) : Prop where
  relayMetrics : (shared.relayMetrics.filter fun row => row.network = network) =
    alone.relayMetrics.filter fun row => row.network = network
  treasuryRebalance : (shared.treasuryRebalance.filter fun row => row.network = network) =
    alone.treasuryRebalance.filter fun row => row.network = network
  executionOutcomes : (shared.executionOutcomes.filter fun row => row.network = network) =
    alone.executionOutcomes.filter fun row => row.network = network
  selectorPerformanceRollups : shared.selectorPerformanceRollups = alone.selectorPerformanceRollups
  selectorPoolPerformanceRollups : shared.selectorPoolPerformanceRollups = alone.selectorPoolPerformanceRollups
  selectorReplayScores : shared.selectorReplayScores = alone.selectorReplayScores

namespace SameRows

variable {network : String} {shared alone : Database}

/-- Databases with the same rows of a network give its handles the same answers. -/
theorem sameAnswers {handle : Handle} (same : SameRows handle.network shared alone) :
    handle.SameAnswers shared alone where
  relayRankings := fun limit => by simp only [Handle.relayRankings, same.relayMetrics]
  executionOutcomes := fun limit => by simp only [Handle.executionOutcomes, same.executionOutcomes]
  outcomeProfiles := fun limit parseAddress minSamples => by
    simp only [Handle.outcomeProfiles, Database.outcomeContexts, same.executionOutcomes]
  toxicityProfiles := fun limit => by
    simp only [Handle.toxicityProfiles, Database.outcomeContexts, same.executionOutcomes]
  treasuryRebalanceTrail := fun limit => by simp only [Handle.treasuryRebalanceTrail, same.treasuryRebalance]
  selectorPerformanceScores := fun limit newestRow => by
    simp only [Handle.selectorPerformanceScores, Database.selectorGroups, same.selectorPerformanceRollups]
  selectorPoolPerformanceScores := fun limit => by
    simp only [Handle.selectorPoolPerformanceScores, Database.poolGroups, same.selectorPoolPerformanceRollups]
  selectorReplayScores := fun limit => by simp only [Handle.selectorReplayScores, same.selectorReplayScores]

variable {writes : List Write} {last : Write}

/-- The row that a call writes to belongs to the network if and only if the call does. -/
theorem conflict_same {outcome : RelayOutcome} {database : Database} (apart : KeepsApart network (writes ++ [last]))
    (rows : RelayRowsFrom writes database) (called : last.call = .relayOutcome outcome) {old : RelayMetrics}
    (member : old ∈ database.relayMetrics) (conflict : old.relay = scopedRelay last.network outcome.relay) :
    old.network = network ↔ last.network = network := by
  obtain ⟨write, inside, outcome', called', named, owner⟩ := rows old member
  have earlier : write ∈ writes ++ [last] := List.mem_append_left _ inside
  have now : last ∈ writes ++ [last] := List.mem_append_right _ List.mem_cons_self
  have meet : scopedRelay write.network outcome'.relay = scopedRelay last.network outcome.relay :=
    named.symm.trans conflict
  rw [owner]
  constructor
  · intro own
    by_contra foreign
    exact apart.relays write earlier own last now foreign outcome' outcome called' called meet
  · intro own
    by_contra foreign
    exact apart.relays last now own write earlier foreign outcome outcome' called called' meet.symm

theorem filter_relayMetrics {outcome : RelayOutcome} {database : Database} (apart : KeepsApart network (writes ++ [last]))
    (rows : RelayRowsFrom writes database) (called : last.call = .relayOutcome outcome) :
    ((database.write last).relayMetrics.filter fun row => row.network = network) =
      if last.network = network then
        Relational.upsert RelayMetrics.relay RelayMetrics.merge (outcome.row last.network last.now)
          (database.relayMetrics.filter fun row => row.network = network)
      else database.relayMetrics.filter fun row => row.network = network := by
  simp only [Database.write, called]
  rw [Relational.filter_upsert]
  · change (if decide (last.network = network) = true then _ else _) = _
    simp only [decide_eq_true_eq]
  · intro old member conflict
    have same := conflict_same apart rows called member conflict
    exact ⟨decide_eq_decide.mpr same, rfl⟩

/-- A call of another network does not show. -/
theorem foreign (same : SameRows network shared alone) (apart : KeepsApart network (writes ++ [last]))
    (rows : RelayRowsFrom writes shared) (other : last.network ≠ network) :
    SameRows network (shared.write last) alone := by
  have quiet := apart.scores last (List.mem_append_right _ List.mem_cons_self) other
  cases called : last.call with
  | relayOutcome outcome =>
    have kept := filter_relayMetrics apart rows called
    rw [if_neg other, same.relayMetrics] at kept
    simp only [Database.write, called] at kept ⊢
    exact { same with relayMetrics := kept }
  | treasuryRecommendation recommendation =>
    simp only [Database.write, called]
    exact { same with treasuryRebalance := by simp [List.filter_append, other, same.treasuryRebalance] }
  | executionOutcome outcome =>
    simp only [Database.write, called]
    exact { same with executionOutcomes := by simp [List.filter_append, other, same.executionOutcomes] }
  | selectorPerformanceRollup performance => exact absurd quiet (by simp [called, RecordCall.scoresSelector])
  | selectorPoolPerformanceRollup performance => exact absurd quiet (by simp [called, RecordCall.scoresSelector])
  | selectorReplayScore replay => exact absurd quiet (by simp [called, RecordCall.scoresSelector])
  | otherTable => simpa only [Database.write, called] using same

/-- A call of the network itself does the same to both databases. -/
theorem own (same : SameRows network shared alone) (apart : KeepsApart network (writes ++ [last]))
    (rows : RelayRowsFrom writes shared) (rows' : RelayRowsFrom writes alone) (named : last.network = network) :
    SameRows network (shared.write last) (alone.write last) := by
  cases called : last.call with
  | relayOutcome outcome =>
    have kept := filter_relayMetrics apart rows called
    have kept' := filter_relayMetrics apart rows' called
    rw [if_pos named, same.relayMetrics] at kept
    rw [if_pos named] at kept'
    have both := kept.trans kept'.symm
    simp only [Database.write, called] at both ⊢
    exact { same with relayMetrics := both }
  | treasuryRecommendation recommendation =>
    simp only [Database.write, called]
    exact { same with treasuryRebalance := by simp only [List.filter_append, same.treasuryRebalance] }
  | executionOutcome outcome =>
    simp only [Database.write, called]
    exact { same with executionOutcomes := by simp only [List.filter_append, same.executionOutcomes] }
  | selectorPerformanceRollup performance =>
    simp only [Database.write, called]
    exact { same with selectorPerformanceRollups := by simp only [same.selectorPerformanceRollups] }
  | selectorPoolPerformanceRollup performance =>
    simp only [Database.write, called]
    exact { same with selectorPoolPerformanceRollups := by simp only [same.selectorPoolPerformanceRollups] }
  | selectorReplayScore replay =>
    simp only [Database.write, called]
    exact { same with selectorReplayScores := by simp only [same.selectorReplayScores] }
  | otherTable => simpa only [Database.write, called] using same

end SameRows

theorem RelayRowsFrom.mono {writes more : List Write} {database : Database} (rows : RelayRowsFrom writes database)
    (inside : writes ⊆ more) : RelayRowsFrom more database := by
  intro row member
  obtain ⟨write, earlier, origin⟩ := rows row member
  exact ⟨write, inside earlier, origin⟩

/-- Over every interleaving of calls that keeps the network apart, its rows are those of its own calls. -/
theorem sameRows_after {network : String} {writes : List Write} (apart : KeepsApart network writes) :
    SameRows network (Database.empty.after writes)
      (Database.empty.after (writes.filter fun write => write.network = network)) := by
  induction writes using List.reverseRecOn with
  | nil => exact ⟨rfl, rfl, rfl, rfl, rfl, rfl⟩
  | append_singleton writes last ih =>
    have same := ih (apart.of_prefix (List.prefix_append _ _))
    have rows := relayRowsFrom_after writes
    have rows' : RelayRowsFrom writes (Database.empty.after (writes.filter fun write => write.network = network)) :=
      (relayRowsFrom_after _).mono fun write member => List.mem_of_mem_filter member
    rw [Database.after_concat, List.filter_append]
    by_cases named : last.network = network
    · have taken : ([last].filter fun write => write.network = network) = [last] := by simp [named]
      rw [taken, Database.after_concat]
      exact same.own apart rows rows' named
    · have skipped : ([last].filter fun write => write.network = network) = [] := by simp [named]
      rw [skipped, List.append_nil]
      exact same.foreign apart rows named

/-- Networks that share a database do not see each other as long as none of the others scores selectors or
writes a relay row of this one: the selector queries forget the network. -/
theorem Handle.isolated_of_keepsApart (handle : Handle) {writes : List Write}
    (apart : KeepsApart handle.network writes) : handle.Isolated writes :=
  (sameRows_after apart).sameAnswers

/-- A replay that succeeded. -/
def sampleReplay : SelectorReplay where
  selector := "0x38ed1739"
  target := "router"
  pool := "pool"
  success := true
  reverted := false
  expectedProfit := 1 / 100
  simulatedProfit := 1 / 100
  gasUsed := 210000

def sampleOutcome (relay : String) : RelayOutcome where
  relay := relay
  accepted := 1
  submitFailed := 0
  includedSuccess := 1
  includedRevert := 0
  notIncludedTimeout := 0
  submitLatencyMs := some 12
  finalizationLatencyMs := some 500
  score := some (1 / 5)
  pressure := some (1 / 10)
  acceptRate := some (9 / 10)
  inclusionRate := some (4 / 5)

/-- Two networks that record their relays, and one of them a replay. -/
def sampleWrites : List Write :=
  [⟨"bsc", 1, .relayOutcome (sampleOutcome "relay-a")⟩, ⟨"polygon", 2, .relayOutcome (sampleOutcome "relay-b")⟩,
    ⟨"bsc", 3, .selectorReplayScore sampleReplay⟩]

theorem isolated_sampleWrites : (⟨.sqlite, "bsc"⟩ : Handle).Isolated sampleWrites := by
  refine Handle.isolated_of_keepsApart _ ⟨?_, ?_⟩
  · intro write member other
    simp only [sampleWrites, List.mem_cons, List.not_mem_nil, or_false] at member
    rcases member with rfl | rfl | rfl
    · rfl
    · rfl
    · exact absurd rfl other
  · intro own member named foreign member' other outcome outcome' called called'
    simp only [sampleWrites, List.mem_cons, List.not_mem_nil, or_false] at member member'
    rcases member with rfl | rfl | rfl
    · rcases member' with rfl | rfl | rfl
      · exact absurd rfl other
      · cases called
        cases called'
        decide +kernel
      · exact absurd rfl other
    · exact absurd named (by decide)
    · exact absurd called (by simp)

/-- The replay of one network is a score on the handle of the other. -/
theorem replay_seen_by_other_network :
    ¬ (⟨.sqlite, "bsc"⟩ : Handle).Isolated [⟨"polygon", 1, .selectorReplayScore sampleReplay⟩] := by
  intro isolated
  have same := isolated.selectorReplayScores 12
  simp only [Handle.selectorReplayScores, Backend.select_of_lt _ (show 12 < 2 ^ 63 by decide)] at same
  have shown := same.subset (mem_selectWithin.mpr ⟨[sampleReplay.row "polygon" 1],
    ⟨[sampleReplay.row "polygon" 1], .refl _, List.pairwise_singleton _ _, rfl⟩, rfl⟩)
  obtain ⟨result, ⟨sorted, perm, _, cut⟩, answer⟩ := mem_selectWithin.mp shown
  have none : sorted = [] := List.perm_nil.mp perm
  rw [cut, none] at answer
  exact absurd answer (by simp [Relational.cutAt])

end ArbitrageRuntime.Storage
