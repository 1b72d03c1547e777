import ArbitrageRuntime.Storage.Snapshots
import Mathlib.Data.Prod.Lex
import Mathlib.Data.Set.Basic
import Mathlib.Order.WithBot

namespace ArbitrageRuntime.Storage

inductive Backend
  | sqlite
  | postgres
  deriving DecidableEq, Repr

/-- `value as i64` of a 64-bit word. -/
def asI64 (value : Nat) : Int := (value : Int).bmod (2 ^ 64)

theorem asI64_eq {value : Nat} (fits : value < 2 ^ 63) : asI64 value = value := by
  unfold asI64
  rw [Int.bmod_eq_of_le] <;> omega

theorem asI64_neg {value : Nat} (large : 2 ^ 63 ≤ value) (word : value < 2 ^ 64) : asI64 value < 0 := by
  have wrapped : asI64 value = value - 2 ^ 64 := by
    unfold asI64
    rw [Int.bmod_def]
    omega
  omega

/-- What `LIMIT` lets through: a negative limit is none for SQLite and an error for Postgres. -/
def Backend.window (backend : Backend) (limit : Int) : Except String (Option Nat) :=
  if limit < 0 then
    match backend with
    | .sqlite => .ok none
    | .postgres => .error "LIMIT must not be negative"
  else .ok (some limit.toNat)

/-- A `u64` from the signed column that it was bound to: of a negative one SQLite makes an error and Postgres the
word again. -/
def Backend.readU64 (backend : Backend) (value : Nat) : Except String Nat :=
  match backend with
  | .sqlite => if asI64 value < 0 then .error "integer out of range" else .ok (asI64 value).toNat
  | .postgres => .ok (asI64 value % 2 ^ 64).toNat

theorem Backend.readU64_of_lt (backend : Backend) {value : Nat} (fits : value < 2 ^ 63) :
    backend.readU64 value = .ok value := by
  have nonneg : ¬ ((value : Int) < 0) := by omega
  have within : ((value : Int) % 2 ^ 64).toNat = value := by omega
  cases backend with
  | sqlite =>
    unfold Backend.readU64
    rw [asI64_eq fits]
    simp only [if_neg nonneg, Int.toNat_natCast]
  | postgres =>
    unfold Backend.readU64
    rw [asI64_eq fits]
    exact congrArg Except.ok within

theorem Backend.readU64_isOk_iff {value : Nat} (word : value < 2 ^ 64) :
    (∃ read, Backend.sqlite.readU64 value = .ok read) ↔ value < 2 ^ 63 := by
  constructor
  · rintro ⟨read, answer⟩
    by_contra large
    have negative : asI64 value < 0 := asI64_neg (by omega) word
    simp only [Backend.readU64, if_pos negative] at answer
    exact absurd answer (by simp)
  · exact fun fits => ⟨value, Backend.sqlite.readU64_of_lt fits⟩

def RelayMetrics.read (backend : Backend) (row : RelayMetrics) : Except String RelaySnapshot := do
  let accepted ← backend.readU64 row.accepted
  let submitFailed ← backend.readU64 row.submitFailed
  let includedSuccess ← backend.readU64 row.includedSuccess
  let includedRevert ← backend.readU64 row.includedRevert
  let notIncludedTimeout ← backend.readU64 row.notIncludedTimeout
  return { row.snapshot with accepted, submitFailed, includedSuccess, includedRevert, notIncludedTimeout }

def ExecutionOutcomeRow.read (backend : Backend) (row : ExecutionOutcomeRow) :
    Except String ExecutionOutcomeSnapshot := do
  let targetBlock ← backend.readU64 row.targetBlock
  let gasUsed ← backend.readU64 row.gasUsed
  return { row.snapshot with targetBlock, gasUsed }

abbrev Answer (Snapshot : Type) := Except String (List Snapshot)

/-- The rows are read in turn, and an answer fails with the first that cannot be read. -/
def readRows {Row Snapshot : Type} (read : Row → Except String Snapshot) (answer : Answer Row) : Answer Snapshot :=
  answer.bind fun rows => rows.mapM read

section Statements

variable {Row Rank Snapshot : Type} [LinearOrder Rank]

/-- The answers that `SELECT .. ORDER BY .. LIMIT` may have, each row turned into snapshots by the code behind
the query. -/
def selectWithin (window : Except String (Option Nat)) (sortKey : Row → Rank) (finish : Row → Option Snapshot)
    (rows : List Row) : Set (Answer Snapshot) :=
  match window with
  | .error error => {.error error}
  | .ok window => {answer | ∃ result, Relational.Answers sortKey window rows result ∧
      answer = .ok (result.filterMap finish)}

def Backend.select (backend : Backend) (limit : Nat) (sortKey : Row → Rank) (finish : Row → Option Snapshot)
    (rows : List Row) : Set (Answer Snapshot) :=
  selectWithin (backend.window (asI64 limit)) sortKey finish rows

theorem Backend.window_of_lt (backend : Backend) {limit : Nat} (fits : limit < 2 ^ 63) :
    backend.window (asI64 limit) = .ok (some limit) := by
  have nonneg : ¬ ((limit : Int) < 0) := by omega
  unfold Backend.window
  rw [asI64_eq fits, if_neg nonneg, Int.toNat_natCast]

/-- A limit that fits the signed word is the same to both backends. -/
theorem Backend.select_of_lt (backend : Backend) {limit : Nat} (fits : limit < 2 ^ 63) {sortKey : Row → Rank}
    {finish : Row → Option Snapshot} {rows : List Row} :
    backend.select limit sortKey finish rows = selectWithin (.ok (some limit)) sortKey finish rows :=
  congrArg (fun window => selectWithin window sortKey finish rows) (backend.window_of_lt fits)

theorem mem_selectWithin {limit : Option Nat} {sortKey : Row → Rank} {finish : Row → Option Snapshot}
    {rows : List Row} {answer : Answer Snapshot} : answer ∈ selectWithin (.ok limit) sortKey finish rows ↔
      ∃ result, Relational.Answers sortKey limit rows result ∧ answer = .ok (result.filterMap finish) :=
  Iff.rfl

/-- `ORDER BY id DESC` leaves nothing open. -/
def Backend.newestFirst (backend : Backend) (limit : Nat) (finish : Row → Snapshot) (rows : List Row) :
    Answer Snapshot :=
  (backend.window (asI64 limit)).map fun window => (Relational.cutAt window rows.reverse).map finish

end Statements

/-- A quotient by `NULLIF(total, 0)`. -/
def quotient (sum : ℚ) (total : Nat) : Option ℚ := if total = 0 then none else some (sum / total)

/-- SQLite sorts NULL below and Postgres above all numbers. -/
def nullLowest : Option ℚ → WithBot ℚ
  | none => ⊥
  | some value => value

def nullHighest : Option ℚ → WithTop ℚ
  | none => ⊤
  | some value => value

abbrev SqliteSelectorRank := ℕᵒᵈ ×ₗ ℕᵒᵈ ×ₗ (WithBot ℚ)ᵒᵈ ×ₗ ℕᵒᵈ

abbrev PostgresSelectorRank := ℕᵒᵈ ×ₗ ℕᵒᵈ ×ₗ (WithTop ℚ)ᵒᵈ ×ₗ ℕᵒᵈ

def sqliteSelectorRank (newestRow : SelectorGroup → SelectorPerformanceRollup) (group : SelectorGroup) :
    SqliteSelectorRank :=
  toLex (OrderDual.toDual (stageCount "payload_built" group.2),
    toLex (OrderDual.toDual (stageCount "shadow_payload_built" group.2),
      toLex (OrderDual.toDual (nullLowest (quotient (newestRow group).confidenceSum (totalCount group.2))),
        OrderDual.toDual (stageCount "payload_reject" group.2))))

def postgresSelectorRank (group : SelectorGroup) : PostgresSelectorRank :=
  toLex (OrderDual.toDual (stageCount "payload_built" group.2),
    toLex (OrderDual.toDual (stageCount "shadow_payload_built" group.2),
      toLex (OrderDual.toDual (nullHighest (quotient (totalConfidence group.2) (totalCount group.2))),
        OrderDual.toDual (stageCount "payload_reject" group.2))))

/-- Inside an expression SQLite reads `confidence_sum` as the column of the table, and next to `MAX(last_seen)`
it takes the column from a newest row of the group, of its own choice. -/
def NewestRows (groups : List SelectorGroup) (newestRow : SelectorGroup → SelectorPerformanceRollup) : Prop :=
  ∀ group ∈ groups, newestRow group ∈ group.2 ∧ ∀ row ∈ group.2, row.lastSeen ≤ (newestRow group).lastSeen

namespace Database

def outcomeContexts (database : Database) (network : String) : List OutcomeGroup :=
  Relational.groups ExecutionOutcomeRow.context (database.executionOutcomes.filter fun row => row.network = network)

/-- The rows of every network count. -/
def selectorGroups (database : Database) : List SelectorGroup :=
  Relational.groups (fun row : SelectorPerformanceRollup => row.toSelectorSource) database.selectorPerformanceRollups

def poolGroups (database : Database) : List PoolGroup :=
  Relational.groups (fun row : SelectorPoolPerformanceRollup => row.toSelectorPool)
    database.selectorPoolPerformanceRollups

end Database

/-- A `Storage`: the backend and the network whose rows it writes. -/
structure Handle where
  backend : Backend
  network : String

namespace Handle

variable (handle : Handle) (database : Database) (limit : Nat)

def relayRankings : Set (Answer RelaySnapshot) :=
  (handle.backend.select limit
    (fun row : RelayMetrics =>
      toLex (row.score, toLex (OrderDual.toDual row.includedSuccess, OrderDual.toDual row.acceptRate)))
    some (database.relayMetrics.filter fun row => row.network = handle.network)).image
      (readRows (RelayMetrics.read handle.backend))

def treasuryRebalanceTrail : Answer TreasurySnapshot :=
  handle.backend.newestFirst limit TreasuryRow.snapshot
    (database.treasuryRebalance.filter fun row => row.network = handle.network)

def executionOutcomes : Answer ExecutionOutcomeSnapshot :=
  readRows (ExecutionOutcomeRow.read handle.backend) (handle.backend.newestFirst limit id
    (database.executionOutcomes.filter fun row => row.network = handle.network))

/-- Contexts at the zero address are left out behind the limit. -/
def outcomeProfiles (parseAddress : String → Option Address) (minSamples : Nat) :
    Set (Answer Adaptive.HistoricalOutcomeProfile) :=
  handle.backend.select limit (fun group : OutcomeGroup => OrderDual.toDual (contextRates group.2).samples)
    (fun group =>
      let profile := historicalProfile parseAddress group
      if profile.pair ≠ 0 ∧ profile.router ≠ 0 then some profile else none)
    ((database.outcomeContexts handle.network).filter fun group =>
      asI64 minSamples ≤ (contextRates group.2).samples)

/-- SQLite puts the worst contexts first, Postgres the busiest. -/
def toxicityProfiles : Set (Answer ToxicitySnapshot) :=
  match handle.backend with
  | .sqlite =>
    Backend.sqlite.select limit
      (fun group : OutcomeGroup => toLex (OrderDual.toDual (toxicityRank (contextRates group.2)),
        OrderDual.toDual (contextRates group.2).samples))
      (fun group => some (toxicitySnapshot group)) (database.outcomeContexts handle.network)
  | .postgres =>
    Backend.postgres.select limit (fun group : OutcomeGroup => OrderDual.toDual (contextRates group.2).samples)
      (fun group => some (toxicitySnapshot group)) (database.outcomeContexts handle.network)

def selectorPerformanceScores (newestRow : SelectorGroup → SelectorPerformanceRollup) :
    Set (Answer SelectorPerformanceSnapshot) :=
  match handle.backend with
  | .sqlite =>
    Backend.sqlite.select limit (sqliteSelectorRank newestRow) (fun group => some (selectorSnapshot group))
      database.selectorGroups
  | .postgres =>
    Backend.postgres.select limit postgresSelectorRank (fun group => some (selectorSnapshot group))
      database.selectorGroups

def selectorPoolPerformanceScores : Set (Answer SelectorPoolPerformanceSnapshot) :=
  handle.backend.select limit
    (fun group : PoolGroup =>
      let counters := poolCounters group.2
      toLex (OrderDual.toDual counters.shadowEvPositive, toLex (OrderDual.toDual counters.payloadBuilt,
        toLex (OrderDual.toDual counters.poolFound, counters.poolMissing))))
    (fun group => some (poolSnapshot group)) database.poolGroups

def selectorReplayScores : Set (Answer SelectorReplayScoreSnapshot) :=
  handle.backend.select limit
    (fun row : SelectorReplayScore =>
      toLex (OrderDual.toDual row.replaySuccessCount,
        toLex (OrderDual.toDual row.replayCases, OrderDual.toDual row.expectedProfitSum)))
    (fun row => some row.snapshot) database.selectorReplayScores

end Handle

end ArbitrageRuntime.Storage
