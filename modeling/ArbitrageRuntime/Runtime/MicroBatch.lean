import ArbitrageRuntime.Lib.SwapRemove
import ArbitrageRuntime.Lib.PickMax
import ArbitrageRuntime.Amm.UniswapV2
import ArbitrageRuntime.Engine.Handle

namespace ArbitrageRuntime

structure PendingExecutionCandidate where
  opportunity : MevOpportunity
  evRealUsd : ℚ
  pPositive : ℚ
  capitalEfficiency : ℚ
  relayScore : ℚ
  contextPriorityScore : ℚ

def PendingExecutionCandidate.rankingScore (candidate : PendingExecutionCandidate) : ℚ :=
  max candidate.evRealUsd 0 * (65 / 100 + clamp 0 1 candidate.pPositive * (35 / 100)) *
    (70 / 100 + clamp 0 1 candidate.contextPriorityScore * (30 / 100)) *
    (72 / 100 + clamp 0 1 candidate.capitalEfficiency * (28 / 100)) *
    (1 - clamp 0 1 candidate.relayScore * (20 / 100))

def microbatchWindow : Nat := 45 * 1000000

def microbatchMaxCandidates : Nat := 4

structure MicroBatcher where
  openedAt : Option Instant
  candidates : List PendingExecutionCandidate

namespace MicroBatcher

def default : MicroBatcher := ⟨none, []⟩

def push (batcher : MicroBatcher) (candidate : PendingExecutionCandidate) (now : Instant) : MicroBatcher where
  openedAt := if batcher.openedAt.isNone then some now else batcher.openedAt
  candidates := batcher.candidates ++ [candidate]

def shouldFlush (batcher : MicroBatcher) (now : Instant) : Bool :=
  microbatchMaxCandidates ≤ batcher.candidates.length ||
    (match batcher.openedAt with
    | some opened => microbatchWindow ≤ now - opened
    | none => false)

def hasPending (batcher : MicroBatcher) : Bool := !batcher.candidates.isEmpty

/-- The best candidate, the number of the others, and the batcher with the others. The last of equally
ranked candidates goes first. -/
def drainBest (batcher : MicroBatcher) (now : Instant) :
    Option (PendingExecutionCandidate × Nat × MicroBatcher) :=
  match PickMax.pickMax (fun entry => entry.1.rankingScore) batcher.candidates.zipIdx with
  | none => none
  | some (best, bestIndex) =>
    let rest := SwapRemove.swapRemove batcher.candidates bestIndex
    some (best, rest.length, ⟨if rest.isEmpty then none else some now, rest⟩)

theorem drainBest_none {batcher : MicroBatcher} {now : Instant} (drained : batcher.drainBest now = none) :
    batcher.candidates = [] := by
  by_contra pending
  have indexed : batcher.candidates.zipIdx ≠ [] := by simpa using pending
  obtain ⟨best, found⟩ := PickMax.pickMax_exists (fun entry => entry.1.rankingScore) indexed
  rw [drainBest, found] at drained
  exact absurd drained (by simp)

/-- What is drained ranks highest, the others stay, and the window is open exactly for them. -/
theorem drainBest_some {batcher rest : MicroBatcher} {now : Instant} {best : PendingExecutionCandidate} {dropped : Nat}
    (drained : batcher.drainBest now = some (best, dropped, rest)) :
    batcher.candidates.Perm (best :: rest.candidates) ∧
    (∀ other ∈ batcher.candidates, other.rankingScore ≤ best.rankingScore) ∧
    (rest.openedAt.isSome ↔ rest.candidates ≠ []) := by
  unfold drainBest at drained
  cases found : PickMax.pickMax (fun entry => entry.1.rankingScore) batcher.candidates.zipIdx with
  | none =>
    rw [found] at drained
    exact absurd drained (by simp)
  | some entry =>
    obtain ⟨chosen, bestIndex⟩ := entry
    rw [found] at drained
    simp only [Option.some.injEq, Prod.mk.injEq] at drained
    obtain ⟨same, _, others⟩ := drained
    subst same
    subst others
    have member := PickMax.pickMax_mem found
    have place : batcher.candidates[bestIndex]? = some chosen := List.mk_mem_zipIdx_iff_getElem?.mp member
    refine ⟨SwapRemove.swapRemove_perm place, ?_, ?_⟩
    · intro other pending
      obtain ⟨index, inside, rfl⟩ := List.mem_iff_getElem.mp pending
      have indexed : (batcher.candidates[index], index) ∈ batcher.candidates.zipIdx :=
        List.mk_mem_zipIdx_iff_getElem?.mpr (List.getElem?_eq_getElem inside)
      have bound := PickMax.pickMax_greatest found _ indexed
      dsimp only at bound
      exact bound
    · cases SwapRemove.swapRemove batcher.candidates bestIndex with
      | nil => simp
      | cons other others => simp

end MicroBatcher

/-- A candidate as it goes to the executor, with all that was pending at that moment. -/
structure Handover where
  best : PendingExecutionCandidate
  pending : List PendingExecutionCandidate

/-- The batcher, with the candidates that came in and those that the executor has taken over so far. -/
structure BatchState where
  batcher : MicroBatcher
  pushed : List PendingExecutionCandidate
  handed : List Handover

/-- What a branch reads on its way through a flush: the clock at the check and at the drain, and what the
executor makes of the opportunity. -/
structure FlushReading where
  checkedAt : Instant
  drainedAt : Instant
  handle : MevOpportunity → Except String Unit

namespace BatchState

def start : BatchState := ⟨.default, [], []⟩

def flushCandidateBatch (state : BatchState) (reading : FlushReading) : BatchState × Except String Unit :=
  match state.batcher.drainBest reading.drainedAt with
  | none => (state, .ok ())
  | some (best, _, batcher) =>
    ({ state with batcher := batcher, handed := state.handed ++ [⟨best, state.batcher.candidates⟩] },
      reading.handle best.opportunity)

def flushIfDue (state : BatchState) (reading : FlushReading) : BatchState × Except String Unit :=
  if state.batcher.shouldFlush reading.checkedAt then state.flushCandidateBatch reading else (state, .ok ())

def push (state : BatchState) (candidate : PendingExecutionCandidate) (now : Instant) : BatchState :=
  { state with batcher := state.batcher.push candidate now, pushed := state.pushed ++ [candidate] }

/-- Nothing is lost and nothing is doubled, the window is open exactly while something is pending, and the
executor has been given the best of what was there. -/
structure Conserves (state : BatchState) : Prop where
  perm : state.pushed.Perm (state.handed.map Handover.best ++ state.batcher.candidates)
  opened : state.batcher.openedAt.isSome ↔ state.batcher.candidates ≠ []
  best : ∀ handover ∈ state.handed, handover.best ∈ handover.pending ∧
    ∀ other ∈ handover.pending, other.rankingScore ≤ handover.best.rankingScore

theorem conserves_start : Conserves start where
  perm := by simp [start, MicroBatcher.default]
  opened := by simp [start, MicroBatcher.default]
  best := by simp [start]

theorem Conserves.push {state : BatchState} (conserves : Conserves state) (candidate : PendingExecutionCandidate)
    (now : Instant) : Conserves (state.push candidate now) where
  perm := by
    have both := conserves.perm.append_right [candidate]
    rw [List.append_assoc] at both
    exact both
  opened := by
    cases opened : state.batcher.openedAt with
    | none => simp [BatchState.push, MicroBatcher.push, opened]
    | some first => simp [BatchState.push, MicroBatcher.push, opened]
  best := conserves.best

/-- A flush hands over one candidate, if there is one. -/
theorem Conserves.flush {state : BatchState} (conserves : Conserves state) (reading : FlushReading) :
    Conserves (state.flushCandidateBatch reading).1 ∧
    (state.flushCandidateBatch reading).1.batcher.candidates.length = state.batcher.candidates.length - 1 := by
  unfold flushCandidateBatch
  cases drained : state.batcher.drainBest reading.drainedAt with
  | none =>
    have empty := MicroBatcher.drainBest_none drained
    exact ⟨conserves, by rw [empty]; rfl⟩
  | some result =>
    obtain ⟨best, dropped, rest⟩ := result
    obtain ⟨perm, greatest, opened⟩ := MicroBatcher.drainBest_some drained
    have member : best ∈ state.batcher.candidates := perm.mem_iff.mpr List.mem_cons_self
    refine ⟨⟨?_, opened, ?_⟩, ?_⟩
    · have moved := perm.append_left (state.handed.map Handover.best)
      simpa using conserves.perm.trans moved
    · intro handover inside
      rcases List.mem_append.mp inside with earlier | last
      · exact conserves.best handover earlier
      · cases List.mem_singleton.mp last
        exact ⟨member, greatest⟩
    · rw [perm.length_eq, List.length_cons]
      rfl

theorem Conserves.flushIfDue {state : BatchState} (conserves : Conserves state) (reading : FlushReading)
    (few : state.batcher.candidates.length ≤ microbatchMaxCandidates) :
    Conserves (state.flushIfDue reading).1 ∧
    (state.flushIfDue reading).1.batcher.candidates.length < microbatchMaxCandidates := by
  unfold BatchState.flushIfDue
  by_cases due : state.batcher.shouldFlush reading.checkedAt
  · rw [if_pos due]
    obtain ⟨kept, fewer⟩ := conserves.flush reading
    refine ⟨kept, ?_⟩
    rw [fewer]
    unfold microbatchMaxCandidates at *
    omega
  · rw [if_neg due]
    refine ⟨conserves, ?_⟩
    by_contra full
    have long : microbatchMaxCandidates ≤ state.batcher.candidates.length := not_lt.mp full
    exact due (by simp [MicroBatcher.shouldFlush, long])

end BatchState

end ArbitrageRuntime
