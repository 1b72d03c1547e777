import ArbitrageRuntime.Lib.Reorder
import ArbitrageRuntime.Rpc.EndpointState

namespace ArbitrageRuntime

/-- A score for every endpoint that has one, by its id. -/
abbrev ScoreTable := Nat → Option ℚ

/-- An invalidated cache may be dated before the clock started. -/
structure ScoreCacheState where
  updatedAt : Int
  readScores : ScoreTable
  sendScores : ScoreTable

/-- A score, without the power function of the burst ratio: `powf` stands for it. `now` is the time at which
the selection started, and `clock` the time of the scoring itself. -/
def endpointScoreMs (powf : ℚ → ℚ) (kind : RpcKind) (state : RpcEndpointState) (now clock : Instant)
    (sendMode : Bool) : ℚ :=
  let burstCapacityUnits := endpointBurstCapacityUnits kind sendMode
  let burstRatio : ℚ := state.burstLoadUnits now / max burstCapacityUnits 1
  let latencyMs : ℚ := match state.avgLatency with
    | some value => value / 10 ^ 6
    | none => 120
  let failurePenalty : ℚ := min state.failures 20 * 180
  let rateLimitPenalty : ℚ := min state.rateLimitFailures 12 * 900
  let stalePenalty : ℚ := match state.lastBlockAt with
    | some lastBlockAt => if 30 * nanosPerSec < clock - lastBlockAt then 500 else 0
    | none => 0
  let kindBias : ℚ := match kind, sendMode with
    | .tenderly, true => -80
    | .tenderly, false => -120
    | .getBlock, _ => -140
    | .generic, _ => -20
    | .alchemy, true => 0
    | .alchemy, false => -100
    | .infura, true => -50
    | .infura, false => 0
  let infuraRateLimitedPenalty : ℚ := if kind = .infura ∧ 0 < state.rateLimitFailures then 2500 else 0
  let burstPenalty : ℚ := if 1 ≤ burstRatio then 25000 + (burstRatio - 1) * 8000 else powf burstRatio * 2200
  let recencyPenalty : ℚ := match state.lastSelectedAt with
    | some last => if (now - last) / millis 1 < 180 then (180 - ((now - last) / millis 1 : Nat)) * (24 / 10) else 0
    | none => 0
  latencyMs + failurePenalty + rateLimitPenalty + stalePenalty + infuraRateLimitedPenalty + burstPenalty +
    recencyPenalty + kindBias

/-- The scoring of an endpoint, over a state that has been refreshed. A disabled endpoint has no score, nor has
one that cools down. -/
def uncachedScore (powf : ℚ → ℚ) (kind : RpcKind) (state : RpcEndpointState) (now clock : Instant)
    (sendMode : Bool) : Option ℚ :=
  if state.disabled then none
  else
    match state.cooldownUntil with
    | some cooldownUntil =>
      if now < cooldownUntil then none else some (endpointScoreMs powf kind state now clock sendMode)
    | none => some (endpointScoreMs powf kind state now clock sendMode)

/-- The order, the rotation and the cut of a selection for sending. -/
def handOut (rotation limit : Nat) (candidates : List (RpcEndpoint × ℚ)) : List RpcHandle :=
  let sorted := candidates.insertionSort fun left right => left.2 ≤ right.2
  let topN := min sorted.length 2
  let rotated := if 1 < topN then (sorted.take topN).rotateLeft (rotation % topN) ++ sorted.drop topN else sorted
  (rotated.take (max limit 1)).map fun candidate => RpcFleet.toHandle candidate.1

theorem mem_handOut {rotation limit : Nat} {candidates : List (RpcEndpoint × ℚ)} {handle : RpcHandle}
    (member : handle ∈ handOut rotation limit candidates) :
    ∃ candidate ∈ candidates, handle = RpcFleet.toHandle candidate.1 := by
  obtain ⟨candidate, taken, rfl⟩ := List.mem_map.mp member
  refine ⟨candidate, ?_, rfl⟩
  have rotated := List.mem_of_mem_take taken
  have sorted : candidate ∈ candidates.insertionSort fun left right => left.2 ≤ right.2 := by
    split at rotated
    · rcases List.mem_append.mp rotated with front | back
      · exact List.mem_of_mem_take ((Reorder.rotateLeft_perm _ _).mem_iff.mp front)
      · exact List.mem_of_mem_drop back
    · exact rotated
  exact (List.perm_insertionSort _ candidates).mem_iff.mp sorted

/-- A recomputation of the scores under way, with the endpoints that it has still to score for reading and for
sending. `scoredIn` has those that were not out when they were scored for sending. -/
structure Recomputation where
  now : Instant
  todo : List (RpcEndpoint × Bool)
  readScores : ScoreTable
  sendScores : ScoreTable
  scoredIn : Nat → Bool

inductive ScoreLookup
  | looking
  | recomputing (recomputation : Recomputation)
  | reading

/-- A call of `send_candidates` under way: the endpoints it has still to look up, and those it has found a score
for. It goes over the endpoints of every kind when it finds none of the preferred kind. `startedOut` has the
endpoints that were out at its start. -/
structure Selection where
  now : Instant
  limit : Nat
  everyKind : Bool
  todo : List RpcEndpoint
  found : List (RpcEndpoint × ℚ)
  lookup : ScoreLookup
  startedOut : Nat → Bool

/-- Where a task stands between two critical sections. -/
inductive FleetTask
  | idle
  | invalidating (disabled : Option Nat)
  | recomputing (recomputation : Recomputation)
  | selecting (selection : Selection)

/-- What a call of `send_candidates` has handed out. -/
structure HandedOut where
  task : Nat
  startedOut : Nat → Bool
  handles : List RpcHandle

/-- The parts of the fleet that never change. -/
structure FleetConfig where
  endpoints : List RpcEndpoint
  sendPreference : RpcPreference

/-- The shared state of the fleet and the positions of the tasks. `out` has the endpoints for which a call of
`set_endpoint_enabled(id, false)` has returned and which have not been enabled again since. -/
structure FleetState where
  clock : Instant
  states : Nat → RpcEndpointState
  cache : ScoreCacheState
  rotation : Nat
  tasks : Nat → FleetTask
  out : Nat → Bool
  returned : List HandedOut

/-- A critical section of a task, or the start of a call. A call reads the clock before it takes a lock. -/
inductive FleetStep
  | setEndpointEnabled (task id : Nat) (enabled : Bool) (reason : Option String)
  | recordFailure (task id : Nat) (startedAt : Instant) (kind : RpcFailureKind)
  | invalidate (task : Nat)
  | recompute (task : Nat) (startedAt : Instant)
  | select (task limit : Nat)
  | look (task : Nat)
  | score (task : Nat)
  | publish (task : Nat)
  | read (task : Nat)
  | finish (task : Nat)

def FleetStep.task : FleetStep → Nat
  | .setEndpointEnabled task _ _ _ => task
  | .recordFailure task _ _ _ => task
  | .invalidate task => task
  | .recompute task _ => task
  | .select task _ => task
  | .look task => task
  | .score task => task
  | .publish task => task
  | .read task => task
  | .finish task => task

namespace Recomputation

def start (config : FleetConfig) (now : Instant) : Recomputation where
  now := now
  todo := config.endpoints.flatMap fun endpoint => [(endpoint, false), (endpoint, true)]
  readScores := fun _ => none
  sendScores := fun _ => none
  scoredIn := fun _ => false

/-- The scores with one more. -/
def put (recomputation : Recomputation) (endpoint : RpcEndpoint) (sendMode isOut : Bool) (score : Option ℚ)
    (todo : List (RpcEndpoint × Bool)) : Recomputation :=
  if sendMode then
    { recomputation with
      todo := todo
      sendScores := Function.update recomputation.sendScores endpoint.id score
      scoredIn := Function.update recomputation.scoredIn endpoint.id !isOut }
  else
    { recomputation with
      todo := todo
      readScores := Function.update recomputation.readScores endpoint.id score }

end Recomputation

namespace Selection

def start (config : FleetConfig) (now : Instant) (limit : Nat) (out : Nat → Bool) : Selection where
  now := now
  limit := limit
  everyKind := false
  todo := config.endpoints.filter fun endpoint => RpcFleet.matchesPreference endpoint.kind config.sendPreference
  found := []
  lookup := .looking
  startedOut := out

/-- The selection behind the look-up of its next endpoint. -/
def advance (selection : Selection) (endpoint : RpcEndpoint) (todo : List RpcEndpoint) (score : Option ℚ) :
    Selection :=
  { selection with
    todo := todo
    found := selection.found ++ (score.map fun value => (endpoint, value)).toList
    lookup := .looking }

end Selection

namespace FleetTask

/-- The recomputation that the task has under way. -/
def recomputation : FleetTask → Option Recomputation
  | .recomputing recomputation => some recomputation
  | .selecting selection =>
    match selection.lookup with
    | .recomputing recomputation => some recomputation
    | _ => none
  | _ => none

/-- The same position in a recomputation that has got further. -/
def recomputed (position : FleetTask) (recomputation : Recomputation) : FleetTask :=
  match position with
  | .selecting selection => .selecting { selection with lookup := .recomputing recomputation }
  | _ => .recomputing recomputation

/-- The position behind the publication of the scores. -/
def published : FleetTask → FleetTask
  | .selecting selection => .selecting { selection with lookup := .reading }
  | _ => .idle

end FleetTask

namespace FleetState

def start (now : Instant) : FleetState where
  clock := now
  states := fun _ => .new now
  cache := ⟨now - nanosPerSec, fun _ => none, fun _ => none⟩
  rotation := 0
  tasks := fun _ => .idle
  out := fun _ => false
  returned := []

def goTo (state : FleetState) (task : Nat) (position : FleetTask) : FleetState :=
  { state with tasks := Function.update state.tasks task position }

def withEndpoint (state : FleetState) (id : Nat) (endpoint : RpcEndpointState) : FleetState :=
  { state with states := Function.update state.states id endpoint }

def withCache (state : FleetState) (cache : ScoreCacheState) : FleetState := { state with cache := cache }

def withOut (state : FleetState) (id : Nat) (isOut : Bool) : FleetState :=
  { state with out := Function.update state.out id isOut }

/-- The cached scores are at most half a second old. -/
def fresh (state : FleetState) : Bool := (state.clock : Int) - state.cache.updatedAt ≤ millis 500

/-- The disabling has returned. It counts only if nobody has enabled the endpoint in between. -/
def disablingReturned (state : FleetState) : Option Nat → FleetState
  | some id => if (state.states id).disabled then state.withOut id true else state
  | none => state

/-- The call of `send_candidates` returns. The counter of the rotation wraps around. -/
def hand (state : FleetState) (task : Nat) (selection : Selection) : FleetState :=
  { state with
    rotation := if 1 < min selection.found.length 2 then (state.rotation + 1) % 2 ^ 64 else state.rotation
    returned := state.returned ++
      [⟨task, selection.startedOut, handOut state.rotation selection.limit selection.found⟩] }

/-- One step of a task at the time of the clock. -/
def step (config : FleetConfig) (powf : ℚ → ℚ) (state : FleetState) : FleetStep → Option FleetState
  | .setEndpointEnabled task id enabled reason =>
    match state.tasks task with
    | .idle =>
      if config.endpoints.any fun endpoint => endpoint.id = id then
        let changed := (state.withEndpoint id ((state.states id).setEnabled enabled reason)).goTo task
          (.invalidating (if enabled then none else some id))
        some (if enabled then changed.withOut id false else changed)
      else some state
    | _ => none
  | .recordFailure task id startedAt kind =>
    match state.tasks task with
    | .idle =>
      if state.clock < startedAt then none
      else if config.endpoints.any fun endpoint => endpoint.id = id then
        some ((state.withEndpoint id ((state.states id).recordFailure startedAt kind)).goTo task (.invalidating none))
      else some state
    | _ => none
  | .invalidate task =>
    match state.tasks task with
    | .invalidating disabled =>
      some (((state.withCache { state.cache with updatedAt := state.clock - 2 * nanosPerSec }).goTo task
        .idle).disablingReturned disabled)
    | _ => none
  | .recompute task startedAt =>
    match state.tasks task with
    | .idle => if state.clock < startedAt then none else some (state.goTo task (.recomputing (.start config startedAt)))
    | _ => none
  | .select task limit =>
    match state.tasks task with
    | .idle => some (state.goTo task (.selecting (.start config state.clock limit state.out)))
    | _ => none
  | .look task =>
    match state.tasks task with
    | .selecting selection =>
      match selection.lookup, selection.todo with
      | .looking, endpoint :: todo =>
        if state.fresh then
          some (state.goTo task (.selecting (selection.advance endpoint todo (state.cache.sendScores endpoint.id))))
        else some (state.goTo task (.selecting { selection with lookup := .recomputing (.start config selection.now) }))
      | _, _ => none
    | _ => none
  | .score task =>
    match (state.tasks task).recomputation with
    | some recomputation =>
      match recomputation.todo with
      | (endpoint, sendMode) :: todo =>
        let refreshed := (state.states endpoint.id).refresh recomputation.now
        let score := uncachedScore powf endpoint.kind refreshed recomputation.now state.clock sendMode
        some ((state.withEndpoint endpoint.id refreshed).goTo task ((state.tasks task).recomputed
          (recomputation.put endpoint sendMode (state.out endpoint.id) score todo)))
      | [] => none
    | none => none
  | .publish task =>
    match (state.tasks task).recomputation with
    | some recomputation =>
      match recomputation.todo with
      | [] => some ((state.withCache ⟨state.clock, recomputation.readScores, recomputation.sendScores⟩).goTo task
          (state.tasks task).published)
      | _ :: _ => none
    | none => none
  | .read task =>
    match state.tasks task with
    | .selecting selection =>
      match selection.lookup, selection.todo with
      | .reading, endpoint :: todo =>
        some (state.goTo task (.selecting (selection.advance endpoint todo (state.cache.sendScores endpoint.id))))
      | _, _ => none
    | _ => none
  | .finish task =>
    match state.tasks task with
    | .selecting selection =>
      match selection.lookup, selection.todo with
      | .looking, [] =>
        if selection.found.isEmpty ∧ selection.everyKind = false then
          some (state.goTo task (.selecting { selection with everyKind := true, todo := config.endpoints }))
        else some ((state.hand task selection).goTo task .idle)
      | _, _ => none
    | _ => none

/-- The tasks in any interleaving of their critical sections. Every step has its time, and time does not go back. -/
def system (config : FleetConfig) (powf : ℚ → ℚ) : Transition.System FleetState (Instant × FleetStep) :=
  fun state timed => if timed.1 < state.clock then none else step config powf { state with clock := timed.1 } timed.2

end FleetState

end ArbitrageRuntime
