import ArbitrageRuntime.Lib.ElapsedWindows
import ArbitrageRuntime.Lib.SilentSteps
import ArbitrageRuntime.Rpc.Cooldown

namespace ArbitrageRuntime

open ElapsedWindows

def failureDecayWindow : Nat := nanosPerSec * failureDecaySecs

namespace RpcEndpointState

/-- The counters are machine words, and the windows up to a time can be counted in one. -/
structure CountsUntil (state : RpcEndpointState) (last : Instant) : Prop where
  failures : state.failures ≤ u32Max
  timeoutFailures : state.timeoutFailures ≤ u32Max
  staleFailures : state.staleFailures ≤ u32Max
  rateLimitFailures : state.rateLimitFailures ≤ u32Max
  windows : elapsed failureDecayWindow state.lastFailureDecayAt last < 2 ^ 32

/-- The decay of a number of windows. -/
def decayedBy (state : RpcEndpointState) (windows : Nat) : RpcEndpointState :=
  { state with
    lastFailureDecayAt := state.lastFailureDecayAt + windows * failureDecayWindow
    failures := state.failures - u32Mul windows 2
    timeoutFailures := state.timeoutFailures - u32Mul windows 2
    staleFailures := state.staleFailures - u32Mul windows 2
    rateLimitFailures := state.rateLimitFailures - u32Mul windows 4 }

variable {state : RpcEndpointState} {now last : Instant}

theorem CountsUntil.earlier (counts : state.CountsUntil last) (order : now ≤ last) : state.CountsUntil now :=
  { counts with windows := (elapsed_mono order).trans_lt counts.windows }

theorem decayFailureCounters_eq (counts : state.CountsUntil now) :
    state.decayFailureCounters now = state.decayedBy (elapsed failureDecayWindow state.lastFailureDecayAt now) := by
  have windows : secsSince now state.lastFailureDecayAt / failureDecaySecs % 2 ^ 32 =
      elapsed failureDecayWindow state.lastFailureDecayAt now := by
    rw [secsSince, Nat.div_div_eq_div_mul]
    exact Nat.mod_eq_of_lt counts.windows
  have moved (steps : Nat) : failureDecaySecs * steps * nanosPerSec = steps * failureDecayWindow := by
    unfold failureDecayWindow
    ring
  unfold decayFailureCounters
  rw [windows]
  dsimp only
  split
  · rename_i none
    rw [none]
    simp [decayedBy, u32Mul, Saturating.mul]
  · rw [moved]
    rfl

theorem decayedBy_decayedBy (counts : state.CountsUntil now) (first second : Nat) :
    (state.decayedBy first).decayedBy second = state.decayedBy (first + second) := by
  unfold decayedBy u32Mul
  dsimp only
  rw [Saturating.sub_mul_sub_mul counts.failures, Saturating.sub_mul_sub_mul counts.timeoutFailures,
    Saturating.sub_mul_sub_mul counts.staleFailures, Saturating.sub_mul_sub_mul counts.rateLimitFailures, Nat.add_mul,
    Nat.add_assoc]

theorem CountsUntil.decayedBy (counts : state.CountsUntil last) {windows : Nat}
    (passed : windows ≤ elapsed failureDecayWindow state.lastFailureDecayAt last) :
    (state.decayedBy windows).CountsUntil last where
  failures := (Nat.sub_le _ _).trans counts.failures
  timeoutFailures := (Nat.sub_le _ _).trans counts.timeoutFailures
  staleFailures := (Nat.sub_le _ _).trans counts.staleFailures
  rateLimitFailures := (Nat.sub_le _ _).trans counts.rateLimitFailures
  windows := by
    unfold RpcEndpointState.decayedBy
    dsimp only
    rw [elapsed_advance passed]
    exact (Nat.sub_le _ _).trans_lt counts.windows

theorem CountsUntil.decays (counts : state.CountsUntil last) (order : now ≤ last) :
    (state.decayFailureCounters now).CountsUntil last := by
  rw [decayFailureCounters_eq (counts.earlier order)]
  exact counts.decayedBy (elapsed_mono order)

/-- A decay on the way does not matter: the reference time moves by whole windows only. -/
theorem decayFailureCounters_decayFailureCounters (counts : state.CountsUntil last) (order : now ≤ last) :
    (state.decayFailureCounters now).decayFailureCounters last = state.decayFailureCounters last := by
  have passed : elapsed failureDecayWindow state.lastFailureDecayAt now ≤
      elapsed failureDecayWindow state.lastFailureDecayAt last := elapsed_mono order
  have rest : elapsed failureDecayWindow
      (state.decayedBy (elapsed failureDecayWindow state.lastFailureDecayAt now)).lastFailureDecayAt last =
      elapsed failureDecayWindow state.lastFailureDecayAt last -
        elapsed failureDecayWindow state.lastFailureDecayAt now := elapsed_advance passed
  rw [decayFailureCounters_eq (counts.decays order), decayFailureCounters_eq (counts.earlier order),
    decayFailureCounters_eq counts, rest, decayedBy_decayedBy counts, Nat.add_sub_of_le passed]

theorem foldl_decayFailureCounters (counts : state.CountsUntil last) {times : List Instant}
    (within : ∀ time ∈ times, time ≤ last) :
    (times ++ [last]).foldl decayFailureCounters state = state.decayFailureCounters last := by
  induction times generalizing state with
  | nil => rfl
  | cons time times ih =>
    have order := within time List.mem_cons_self
    rw [List.cons_append, List.foldl_cons,
      ih (counts.decays order) fun next inside => within next (List.mem_cons_of_mem time inside),
      decayFailureCounters_decayFailureCounters counts order]

theorem pruneBurstReservations_decayFailureCounters (state : RpcEndpointState) (pruned decayed : Instant) :
    (state.decayFailureCounters decayed).pruneBurstReservations pruned =
      (state.pruneBurstReservations pruned).decayFailureCounters decayed := by
  unfold decayFailureCounters pruneBurstReservations
  dsimp only
  split
  · rfl
  · rfl

theorem pruneBurstReservations_pruneBurstReservations (state : RpcEndpointState) (order : now ≤ last) :
    (state.pruneBurstReservations now).pruneBurstReservations last = state.pruneBurstReservations last := by
  unfold pruneBurstReservations
  dsimp only
  rw [SlidingWindow.dropWhile_dropWhile]
  intro item expired
  have past : burstWindow < now - item.reservedAt := of_decide_eq_true expired
  exact decide_eq_true (past.trans_le (Nat.sub_le_sub_right order item.reservedAt))

theorem CountsUntil.prunes (counts : state.CountsUntil last) (pruned : Instant) :
    (state.pruneBurstReservations pruned).CountsUntil last :=
  ⟨counts.failures, counts.timeoutFailures, counts.staleFailures, counts.rateLimitFailures, counts.windows⟩

theorem CountsUntil.refreshes (counts : state.CountsUntil last) (order : now ≤ last) :
    (state.refresh now).CountsUntil last :=
  (counts.prunes now).decays order

/-- What every query does first may be done before. -/
theorem refresh_refresh (counts : state.CountsUntil last) (order : now ≤ last) :
    (state.refresh now).refresh last = state.refresh last := by
  unfold refresh
  rw [pruneBurstReservations_decayFailureCounters, pruneBurstReservations_pruneBurstReservations state order]
  exact decayFailureCounters_decayFailureCounters (counts.prunes last) order

end RpcEndpointState

/-- An operation on an endpoint between the queries that look at it. Snapshots, health checks and scores all refresh
the endpoint and change nothing else. -/
inductive EndpointEvent
  | query (now : Instant)
  | call (next : EndpointCall)
  | setEnabled (now : Instant) (enabled : Bool) (reason : Option String)

def EndpointEvent.time : EndpointEvent → Instant
  | .query now => now
  | .call next => next.now
  | .setEnabled now _ _ => now

def EndpointEvent.isQuery : EndpointEvent → Bool
  | .query _ => true
  | _ => false

namespace RpcEndpointState

def event (kind : RpcKind) (state : RpcEndpointState) : EndpointEvent → RpcEndpointState
  | .query now => state.refresh now
  | .call next => state.call kind next
  | .setEnabled _ enabled reason => state.setEnabled enabled reason

variable {state : RpcEndpointState} {now last : Instant}

/-- The recording operations only see a refreshed endpoint. -/
theorem call_congr {kind : RpcKind} {other : RpcEndpointState} {next : EndpointCall}
    (same : state.refresh next.now = other.refresh next.now) : state.call kind next = other.call kind next := by
  cases next with
  | recordSuccess now latency observedBlock =>
    have refreshed : state.refresh now = other.refresh now := same
    simp only [call, recordSuccess, refreshed]
  | recordFailure now failure =>
    have refreshed : state.refresh now = other.refresh now := same
    simp only [call, recordFailure, refreshed]
  | reserveSelection now sendMode =>
    have refreshed : state.refresh now = other.refresh now := same
    have reserved : ∀ units, state.reserveUnits now units = other.reserveUnits now units := fun units => by
      simp only [reserveUnits, refreshed]
    simp only [call, reserveSelection, reserveBurstUnits, reserved]

theorem refresh_setEnabled (state : RpcEndpointState) (enabled : Bool) (reason : Option String) (now : Instant) :
    (state.setEnabled enabled reason).refresh now = (state.refresh now).setEnabled enabled reason := by
  unfold refresh decayFailureCounters pruneBurstReservations setEnabled
  dsimp only
  split
  · rfl
  · rfl

theorem CountsUntil.records (counts : state.CountsUntil last) {kind : RpcKind} {next : EndpointCall}
    (order : next.now ≤ last) : (state.call kind next).CountsUntil last := by
  have fresh := counts.refreshes order
  have word : ∀ value, u32Add value 1 ≤ u32Max := fun value => Nat.min_le_right _ _
  cases next with
  | recordSuccess now latency observedBlock =>
    exact ⟨(Nat.sub_le _ _).trans fresh.failures, (Nat.sub_le _ _).trans fresh.timeoutFailures,
      (Nat.sub_le _ _).trans fresh.staleFailures, (Nat.sub_le _ _).trans fresh.rateLimitFailures, fresh.windows⟩
  | recordFailure now failure =>
    cases failure with
    | timeout => exact ⟨word _, word _, fresh.staleFailures, fresh.rateLimitFailures, fresh.windows⟩
    | rateLimited => exact ⟨word _, fresh.timeoutFailures, fresh.staleFailures, word _, fresh.windows⟩
    | capacityExhausted => exact ⟨word _, fresh.timeoutFailures, fresh.staleFailures, word _, fresh.windows⟩
    | stale => exact ⟨word _, fresh.timeoutFailures, word _, fresh.rateLimitFailures, fresh.windows⟩
    | transport => exact ⟨word _, fresh.timeoutFailures, fresh.staleFailures, fresh.rateLimitFailures, fresh.windows⟩
    | remote => exact ⟨word _, fresh.timeoutFailures, fresh.staleFailures, fresh.rateLimitFailures, fresh.windows⟩
  | reserveSelection now sendMode =>
    have kept : ∀ cooldownUntil, RpcEndpointState.CountsUntil
        { state.reserveUnits now (endpointBurstCostUnits kind sendMode) with cooldownUntil := cooldownUntil } last :=
      fun _ => ⟨fresh.failures, fresh.timeoutFailures, fresh.staleFailures, fresh.rateLimitFailures, fresh.windows⟩
    unfold call reserveSelection reserveBurstUnits
    dsimp only
    split
    · exact kept _
    · exact kept _

/-- A run with queries against the run without them. -/
theorem refresh_eq_refresh_erase (counts : state.CountsUntil last) (kind : RpcKind) {events : List EndpointEvent}
    (ordered : events.Pairwise fun first second => first.time ≤ second.time)
    (within : ∀ next ∈ events, next.time ≤ last) :
    (events.foldl (event kind) state).refresh last =
      ((SilentSteps.erase EndpointEvent.isQuery events).foldl (event kind) state).refresh last := by
  -- From a time on the two endpoints are the same to everything that refreshes them.
  have kept := SilentSteps.related_erase (event kind) EndpointEvent.time EndpointEvent.isQuery (fun _ _ => True)
    (fun now state erased => state.CountsUntil last ∧
      ∀ later, now ≤ later → later ≤ last → state.refresh later = erased.refresh later)
    (fun order related => ⟨related.1, fun later first => related.2 later (order.trans first)⟩)
    ?skips ?steps ordered (fun next inside => ⟨Nat.zero_le _, within next inside⟩) (Nat.zero_le last)
    (SilentSteps.along_true (event kind) state events) ⟨counts, fun later _ _ => rfl⟩
  case skips =>
    rintro state erased (now | next | ⟨now, enabled, reason⟩) isQuery ends _ ⟨counts, same⟩
    · refine ⟨counts.refreshes ends, fun later first fits => ?_⟩
      exact (refresh_refresh (counts.earlier fits) first).trans (same later first fits)
    · exact absurd isQuery (by simp [EndpointEvent.isQuery])
    · exact absurd isQuery (by simp [EndpointEvent.isQuery])
  case steps =>
    rintro state erased (now | next | ⟨now, enabled, reason⟩) isQuery ends _ ⟨counts, same⟩
    · exact absurd isQuery (by simp [EndpointEvent.isQuery])
    · refine ⟨counts.records ends, fun later _ _ => ?_⟩
      rw [event, event, call_congr (same next.now le_rfl ends)]
    · refine ⟨⟨counts.failures, counts.timeoutFailures, counts.staleFailures, counts.rateLimitFailures, counts.windows⟩,
        fun later first fits => ?_⟩
      rw [event, event, refresh_setEnabled, refresh_setEnabled, same later first fits]
  exact kept.2 last le_rfl le_rfl

/-- The failure counters do not depend on being looked at, as long as the windows can be counted in a machine word. -/
theorem failureDecay_unobserved (counts : state.CountsUntil last) (kind : RpcKind) :
    (∀ times : List Instant, times.Pairwise (· ≤ ·) → (∀ time ∈ times, time ≤ last) →
      (times ++ [last]).foldl decayFailureCounters state = state.decayFailureCounters last) ∧
    ∀ events : List EndpointEvent, events.Pairwise (fun first second => first.time ≤ second.time) →
      (∀ next ∈ events, next.time ≤ last) →
        (events.foldl (event kind) state).refresh last =
          ((SilentSteps.erase EndpointEvent.isQuery events).foldl (event kind) state).refresh last :=
  ⟨fun _ _ within => foldl_decayFailureCounters counts within,
    fun _ ordered within => refresh_eq_refresh_erase counts kind ordered within⟩

/-- An endpoint with failures of every kind. -/
def failingEndpoint : RpcEndpointState :=
  { new 0 with failures := 9, timeoutFailures := 3, rateLimitFailures := 6, staleFailures := 1 }

theorem failingEndpoint_unobserved :
    [7 * nanosPerSec, 25 * nanosPerSec, 39 * nanosPerSec, 41 * nanosPerSec].foldl decayFailureCounters failingEndpoint =
        failingEndpoint.decayFailureCounters (41 * nanosPerSec) ∧
      ([EndpointEvent.query (25 * nanosPerSec), .call (.recordFailure (30 * nanosPerSec) .timeout),
          .query (39 * nanosPerSec)].foldl (event .alchemy) failingEndpoint).refresh (41 * nanosPerSec) =
        ((SilentSteps.erase EndpointEvent.isQuery [EndpointEvent.query (25 * nanosPerSec),
          .call (.recordFailure (30 * nanosPerSec) .timeout), .query (39 * nanosPerSec)]).foldl (event .alchemy)
            failingEndpoint).refresh (41 * nanosPerSec) := by
  have counts : failingEndpoint.CountsUntil (41 * nanosPerSec) :=
    ⟨by decide, by decide, by decide, by decide, by decide⟩
  have spec := failureDecay_unobserved counts .alchemy
  exact ⟨spec.1 [7 * nanosPerSec, 25 * nanosPerSec, 39 * nanosPerSec] (by decide) (by decide),
    spec.2 _ (by simp [EndpointEvent.time, EndpointCall.now, nanosPerSec])
      (by simp [EndpointEvent.time, EndpointCall.now, nanosPerSec])⟩

/-- After `2 ^ 32` windows a single decay counts none, and one that was interrupted by a look counts all but one. -/
theorem failingEndpoint_wraps :
    [20 * nanosPerSec, 2 ^ 32 * 20 * nanosPerSec].foldl decayFailureCounters failingEndpoint ≠
      failingEndpoint.decayFailureCounters (2 ^ 32 * 20 * nanosPerSec) := by
  decide

end RpcEndpointState

end ArbitrageRuntime
