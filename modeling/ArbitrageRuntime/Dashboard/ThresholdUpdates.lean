import ArbitrageRuntime.Config
import ArbitrageRuntime.Lib.LastWriter
import ArbitrageRuntime.Lib.Transition
import Mathlib.Logic.Function.Basic

namespace ArbitrageRuntime

structure OpportunityThresholdRequest where
  minLargeSwapEth : Option ℚ
  minNetProfitEth : Option ℚ
  minProfitUsd : Option ℚ
  minLiquidityEth : Option ℚ

structure OpportunityThresholdResponse where
  ok : Bool
  message : String
  thresholds : OpportunityThresholds

inductive ThresholdField
  | minLargeSwapEth
  | minNetProfitEth
  | minProfitUsd
  | minLiquidityEth

def OpportunityThresholds.field (thresholds : OpportunityThresholds) : ThresholdField → ℚ
  | .minLargeSwapEth => thresholds.minLargeSwapEth
  | .minNetProfitEth => thresholds.minNetProfitEth
  | .minProfitUsd => thresholds.minProfitUsd
  | .minLiquidityEth => thresholds.minLiquidityEth

namespace OpportunityThresholdRequest

def field (request : OpportunityThresholdRequest) : ThresholdField → Option ℚ
  | .minLargeSwapEth => request.minLargeSwapEth
  | .minNetProfitEth => request.minNetProfitEth
  | .minProfitUsd => request.minProfitUsd
  | .minLiquidityEth => request.minLiquidityEth

/-- The thresholds that the request asks for, where the fields it leaves out stay as they were read. -/
def merge (request : OpportunityThresholdRequest) (current : OpportunityThresholds) : OpportunityThresholds where
  minLargeSwapEth := request.minLargeSwapEth.getD current.minLargeSwapEth
  minNetProfitEth := request.minNetProfitEth.getD current.minNetProfitEth
  minProfitUsd := request.minProfitUsd.getD current.minProfitUsd
  minLiquidityEth := request.minLiquidityEth.getD current.minLiquidityEth

theorem merge_field (request : OpportunityThresholdRequest) (current : OpportunityThresholds) (field : ThresholdField) :
    (request.merge current).field field = (request.field field).getD (current.field field) := by
  cases field with
  | minLargeSwapEth => rfl
  | minNetProfitEth => rfl
  | minProfitUsd => rfl
  | minLiquidityEth => rfl

end OpportunityThresholdRequest

/-- Where one request stands between its lock-protected steps. -/
inductive ThresholdUpdate
  | waiting
  | merged (next : OpportunityThresholds)
  | written (next : OpportunityThresholds)
  | returned (response : OpportunityThresholdResponse)

/-- The lock of the thresholds, which holds nothing when it is poisoned, the thresholds that the dashboard
shows, the requests, and those of them that have written, in the order of their writes. -/
structure ThresholdBoard where
  runtimeThresholds : Option OpportunityThresholds
  shown : OpportunityThresholds
  updates : Nat → ThresholdUpdate
  writes : List Nat

/-- A lock-protected step of a request. -/
inductive ThresholdStep
  | read (task : Nat)
  | write (task : Nat)
  | show (task : Nat)

namespace ThresholdBoard

def start (initial shown : OpportunityThresholds) : ThresholdBoard := ⟨some initial, shown, fun _ => .waiting, []⟩

/-- What a request reads of a poisoned lock. -/
def unreadable : OpportunityThresholds := ⟨25, 25 / 10000, 2, 25⟩

/-- The merged thresholds of a request are checked before they are written. -/
def answerRead (current : OpportunityThresholds) (request : OpportunityThresholdRequest) : ThresholdUpdate :=
  let next := request.merge current
  if next.minLargeSwapEth ≤ 0 ∨ next.minNetProfitEth ≤ 0 ∨ next.minProfitUsd ≤ 0 ∨ next.minLiquidityEth ≤ 0 then
    .returned ⟨false, "threshold values must be positive", current⟩
  else .merged next

/-- `set_opportunity_thresholds`, for any number of requests and in any interleaving of their steps. -/
def system (requests : Nat → OpportunityThresholdRequest) : Transition.System ThresholdBoard ThresholdStep
  | board, .read task =>
    match board.updates task with
    | .waiting => some { board with
        updates := Function.update board.updates task
          (answerRead (board.runtimeThresholds.getD unreadable) (requests task)) }
    | _ => none
  | board, .write task =>
    match board.updates task with
    | .merged next => some { board with
        runtimeThresholds := board.runtimeThresholds.map fun _ => next
        updates := Function.update board.updates task (.written next)
        writes := board.writes ++ [task] }
    | _ => none
  | board, .show task =>
    match board.updates task with
    | .written next => some { board with
        shown := next
        updates := Function.update board.updates task (.returned ⟨true, "opportunity thresholds updated", next⟩) }
    | _ => none

/-- Every field holds what the last of the requests that set it has written, or its initial value. -/
def KeepsUpdates (requests : Nat → OpportunityThresholdRequest) (initial : OpportunityThresholds)
    (board : ThresholdBoard) : Prop :=
  ∃ thresholds, board.runtimeThresholds = some thresholds ∧ ∀ field,
    LastWriter.Holds (fun task => (requests task).field field) (initial.field field) board.writes (thresholds.field field)

/-- A request that is about to write brings along, for every field that it does not set, what stands there. -/
def UpToDate (requests : Nat → OpportunityThresholdRequest) (board : ThresholdBoard) : ThresholdStep → Prop
  | .read _ => True
  | .write task => ∀ next standing, board.updates task = .merged next → board.runtimeThresholds = some standing →
      ∀ field, (requests task).field field = none → next.field field = standing.field field
  | .show _ => True

variable {requests : Nat → OpportunityThresholdRequest} {board next : ThresholdBoard} {move : ThresholdStep}

/-- What a step can do. -/
theorem system_cases (moved : system requests board move = some next) :
    (∃ task, move = .read task ∧ board.updates task = .waiting ∧
      next = { board with
        updates := Function.update board.updates task
          (answerRead (board.runtimeThresholds.getD unreadable) (requests task)) }) ∨
    (∃ task merged, move = .write task ∧ board.updates task = .merged merged ∧
      next = { board with
        runtimeThresholds := board.runtimeThresholds.map fun _ => merged
        updates := Function.update board.updates task (.written merged)
        writes := board.writes ++ [task] }) ∨
    (∃ task written, move = .show task ∧ board.updates task = .written written ∧
      next = { board with
        shown := written
        updates := Function.update board.updates task (.returned ⟨true, "opportunity thresholds updated", written⟩) }) := by
  unfold system at moved
  split at moved
  · split at moved
    · exact Or.inl ⟨_, rfl, by assumption, (Option.some.inj moved).symm⟩
    · exact absurd moved (by simp)
  · split at moved
    · exact Or.inr (Or.inl ⟨_, _, rfl, by assumption, (Option.some.inj moved).symm⟩)
    · exact absurd moved (by simp)
  · split at moved
    · exact Or.inr (Or.inr ⟨_, _, rfl, by assumption, (Option.some.inj moved).symm⟩)
    · exact absurd moved (by simp)

variable {initial shown : OpportunityThresholds} {labels : List ThresholdStep}

/-- Only a write changes the thresholds. -/
theorem runtimeThresholds_of_not_write (moved : system requests board move = some next)
    (silent : ∀ task, move ≠ .write task) :
    next.runtimeThresholds = board.runtimeThresholds ∧ next.writes = board.writes := by
  rcases system_cases moved with ⟨task, _, _, rfl⟩ | ⟨task, merged, writes, _, _⟩ | ⟨task, written, _, _, rfl⟩
  · exact ⟨rfl, rfl⟩
  · exact absurd writes (silent task)
  · exact ⟨rfl, rfl⟩

/-- A request brings along what it sets, writes once it has been merged, and answers whether it has written. -/
def Tells (request : OpportunityThresholdRequest) (wrote : Prop) : ThresholdUpdate → Prop
  | .waiting => ¬ wrote
  | .merged next => ¬ wrote ∧ ∀ field value, request.field field = some value → next.field field = value
  | .written _ => wrote
  | .returned response => response.ok = true ↔ wrote

theorem tells_answerRead {request : OpportunityThresholdRequest} {wrote : Prop} (unwritten : ¬ wrote)
    (current : OpportunityThresholds) : Tells request wrote (answerRead current request) := by
  unfold answerRead
  dsimp only
  split
  · exact ⟨fun accepted => absurd accepted (by simp), fun written => absurd written unwritten⟩
  · refine ⟨unwritten, fun field value sets => ?_⟩
    rw [OpportunityThresholdRequest.merge_field, sets, Option.getD_some]

/-- The lock is not poisoned, and every request tells whether it has written. -/
def Answered (requests : Nat → OpportunityThresholdRequest) (board : ThresholdBoard) : Prop :=
  board.runtimeThresholds.isSome ∧ ∀ task, Tells (requests task) (task ∈ board.writes) (board.updates task)

theorem answered_start : Answered requests (start initial shown) := ⟨rfl, fun _ => List.not_mem_nil⟩

theorem Answered.step (answered : Answered requests board) (moved : system requests board move = some next) :
    Answered requests next := by
  obtain ⟨healthy, tells⟩ := answered
  rcases system_cases moved with ⟨task, _, waits, rfl⟩ | ⟨task, merged, _, merges, rfl⟩ | ⟨task, written, _, writes, rfl⟩
  · have unwritten := tells task
    rw [waits] at unwritten
    refine ⟨healthy, fun other => ?_⟩
    dsimp only
    by_cases same : other = task
    · subst same
      rw [Function.update_self]
      exact tells_answerRead unwritten _
    · rw [Function.update_of_ne same]
      exact tells other
  · refine ⟨by rw [Option.isSome_map, healthy], fun other => ?_⟩
    dsimp only
    by_cases same : other = task
    · subst same
      rw [Function.update_self]
      exact List.mem_append_right _ List.mem_cons_self
    · rw [Function.update_of_ne same, List.mem_append, List.mem_singleton, or_iff_left same]
      exact tells other
  · have wrote := tells task
    rw [writes] at wrote
    refine ⟨healthy, fun other => ?_⟩
    dsimp only
    by_cases same : other = task
    · subst same
      rw [Function.update_self]
      exact ⟨fun _ => wrote, fun _ => rfl⟩
    · rw [Function.update_of_ne same]
      exact tells other

/-- A step keeps the updates exactly when it brings along what stands in the fields that it does not set. -/
theorem keepsUpdates_step_iff (answered : Answered requests board) (keeps : KeepsUpdates requests initial board)
    (moved : system requests board move = some next) :
    KeepsUpdates requests initial next ↔ UpToDate requests board move := by
  obtain ⟨standing, holds, kept⟩ := keeps
  rcases system_cases moved with ⟨task, rfl, _, rfl⟩ | ⟨task, merged, rfl, merges, rfl⟩ | ⟨task, written, rfl, _, rfl⟩
  · exact ⟨fun _ => trivial, fun _ => ⟨standing, holds, kept⟩⟩
  · have values : ∀ field, LastWriter.value (fun task => (requests task).field field) (initial.field field)
        (board.writes ++ [task]) = ((requests task).field field).getD (standing.field field) := by
      intro field
      rw [LastWriter.value_concat, ← LastWriter.holds_iff.mp (kept field)]
    constructor
    · rintro ⟨thresholds, written, after⟩ next current merges' stands field unset
      have first : merged = next := ThresholdUpdate.merged.inj (merges.symm.trans merges')
      have second : standing = current := Option.some.inj (holds.symm.trans stands)
      have third : merged = thresholds := by simpa [holds] using written
      have value := LastWriter.holds_iff.mp (after field)
      rw [values field, unset, Option.getD_none] at value
      rw [← first, third, value, second]
    · intro upToDate
      have brings := answered.2 task
      rw [merges] at brings
      refine ⟨merged, by rw [holds]; rfl, fun field => LastWriter.holds_iff.mpr ?_⟩
      rw [values field]
      cases sets : (requests task).field field with
      | none => exact upToDate merged standing merges holds field sets
      | some value => exact brings.2 field value sets
  · exact ⟨fun _ => trivial, fun _ => ⟨standing, holds, kept⟩⟩

theorem keepsUpdates_start : KeepsUpdates requests initial (start initial shown) :=
  ⟨initial, rfl, fun _ => Or.inr ⟨by simp [start], rfl⟩⟩

theorem answered_after {last : ThresholdBoard}
    (reached : (system requests).after (start initial shown) labels = some last) : Answered requests last :=
  Transition.System.invariant (fun _ _ _ answered moved => answered.step moved) answered_start reached

/-- No update is lost in any state of a run exactly when every write of the run is up to date in the fields that
its request does not set. Whether a request is accepted says whether it writes, and without a write nothing
changes. -/
theorem keepsUpdates_iff {last : ThresholdBoard}
    (reached : (system requests).after (start initial shown) labels = some last) :
    ((∀ before board, before <+: labels → (system requests).after (start initial shown) before = some board →
        KeepsUpdates requests initial board) ↔
      (system requests).EveryStep (fun board move _ => UpToDate requests board move) (start initial shown) labels) ∧
    (∀ task response, last.updates task = .returned response → (response.ok = true ↔ task ∈ last.writes)) ∧
    (system requests).EveryStep (fun board move next => (∀ task, move ≠ .write task) →
      next.runtimeThresholds = board.runtimeThresholds ∧ next.writes = board.writes) (start initial shown) labels := by
  refine ⟨⟨?_, ?_⟩, ?_, ?_⟩
  · intro every before move board next front reaches moves
    have earlier := every before board ((List.prefix_append before [move]).trans front) reaches
    have later := every (before ++ [move]) next front (Transition.System.after_concat_eq_some.mpr ⟨board, reaches, moves⟩)
    exact (keepsUpdates_step_iff (answered_after reaches) earlier moves).mp later
  · intro every before board front reaches
    have carries : ∀ board move next, Answered requests board ∧ KeepsUpdates requests initial board →
        system requests board move = some next → UpToDate requests board move →
        Answered requests next ∧ KeepsUpdates requests initial next := by
      rintro board move next ⟨answered, keeps⟩ moved upToDate
      exact ⟨answered.step moved, (keepsUpdates_step_iff answered keeps moved).mpr upToDate⟩
    exact ((every.of_prefix front).invariant carries ⟨answered_start, keepsUpdates_start⟩ reaches).2
  · intro task response returned
    have tells := (answered_after reached).2 task
    rw [returned] at tells
    exact tells
  · intro before move board next front reaches moves silent
    exact runtimeThresholds_of_not_write moves silent

/-- One request sets the swap limit, every other the profit limit. -/
def sampleRequests : Nat → OpportunityThresholdRequest
  | 0 => { minLargeSwapEth := some 10, minNetProfitEth := none, minProfitUsd := none, minLiquidityEth := none }
  | _ + 1 => { minLargeSwapEth := none, minNetProfitEth := none, minProfitUsd := some 5, minLiquidityEth := none }

def sampleThresholds : OpportunityThresholds := ⟨25, 1, 2, 25⟩

/-- The second request reads after the first one has written. -/
theorem sequential_updates_kept :
    ∃ last, (system sampleRequests).after (start sampleThresholds sampleThresholds)
        [.read 0, .write 0, .show 0, .read 1, .write 1, .show 1] = some last ∧
      (∀ task response, last.updates task = .returned response → (response.ok = true ↔ task ∈ last.writes)) ∧
      ((∀ before board, before <+: [ThresholdStep.read 0, .write 0, .show 0, .read 1, .write 1, .show 1] →
          (system sampleRequests).after (start sampleThresholds sampleThresholds) before = some board →
            KeepsUpdates sampleRequests sampleThresholds board) ↔
        (system sampleRequests).EveryStep (fun board move _ => UpToDate sampleRequests board move)
          (start sampleThresholds sampleThresholds) [.read 0, .write 0, .show 0, .read 1, .write 1, .show 1]) := by
  obtain ⟨kept, answered, _⟩ := @keepsUpdates_iff sampleRequests sampleThresholds sampleThresholds
    [.read 0, .write 0, .show 0, .read 1, .write 1, .show 1] _ rfl
  exact ⟨_, rfl, answered, kept⟩

/-- Two requests read before either writes. Both are accepted, and the swap limit that the first one set is gone. -/
theorem concurrent_update_lost :
    ∃ last, (system sampleRequests).after (start sampleThresholds sampleThresholds)
        [.read 0, .read 1, .write 0, .write 1, .show 0, .show 1] = some last ∧
      (∃ first second, last.updates 0 = .returned first ∧ last.updates 1 = .returned second ∧
        first.ok = true ∧ second.ok = true) ∧
      (sampleRequests 0).field .minLargeSwapEth = some 10 ∧ (sampleRequests 1).field .minLargeSwapEth = none ∧
      (∃ thresholds, last.runtimeThresholds = some thresholds ∧ thresholds.field .minLargeSwapEth = 25) ∧
      ¬ KeepsUpdates sampleRequests sampleThresholds last := by
  refine ⟨_, rfl, ⟨_, _, rfl, rfl, rfl, rfl⟩, rfl, rfl, ⟨_, rfl, rfl⟩, ?_⟩
  rintro ⟨thresholds, holds, kept⟩
  have value := LastWriter.holds_iff.mp (kept .minLargeSwapEth)
  cases Option.some.inj holds
  exact absurd value (by decide +kernel)

end ThresholdBoard

end ArbitrageRuntime
