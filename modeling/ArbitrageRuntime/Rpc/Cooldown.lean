import ArbitrageRuntime.Lib.SlidingWindow
import ArbitrageRuntime.Rpc.EndpointState

namespace ArbitrageRuntime

/-- An operation on one endpoint. -/
inductive EndpointCall
  | recordSuccess (now : Instant) (latency : Nat) (observedBlock : Option Nat)
  | recordFailure (now : Instant) (kind : RpcFailureKind)
  | reserveSelection (now : Instant) (sendMode : Bool)
  deriving DecidableEq

def EndpointCall.now : EndpointCall → Instant
  | .recordSuccess now _ _ => now
  | .recordFailure now _ => now
  | .reserveSelection now _ => now

namespace RpcEndpointState

def call (kind : RpcKind) (state : RpcEndpointState) : EndpointCall → RpcEndpointState
  | .recordSuccess now latency observedBlock => state.recordSuccess now latency observedBlock
  | .recordFailure now failure => state.recordFailure now failure
  | .reserveSelection now sendMode => state.reserveSelection kind now sendMode

/-- The operations on an endpoint of a kind. All of them are possible at any time. -/
def system (kind : RpcKind) : Transition.System RpcEndpointState EndpointCall :=
  fun state next => some (state.call kind next)

/-- A cooldown that is not over when the operation comes lasts at least as long behind it. -/
def KeepsCooldown (state : RpcEndpointState) (next : EndpointCall) (after : RpcEndpointState) : Prop :=
  ∀ deadline, state.cooldownUntil = some deadline → next.now < deadline →
    ∃ deadline', after.cooldownUntil = some deadline' ∧ deadline ≤ deadline'

/-- The operation is no reservation that brings the load to twice the capacity for sending while the
endpoint has more than the burst cooldown still to go. -/
def SparesCooldown (kind : RpcKind) (state : RpcEndpointState) (next : EndpointCall) (_ : RpcEndpointState) : Prop :=
  ∀ now sendMode, next = .reserveSelection now sendMode →
    endpointBurstCapacityUnits kind true * 2 ≤
      (state.burstLoadUnits now + endpointBurstCostUnits kind sendMode) % 2 ^ 32 →
    ∀ deadline, state.cooldownUntil = some deadline → deadline ≤ now + millis 900

theorem burstLoadUnits_reserveUnits (state : RpcEndpointState) (now : Instant) (units : Nat) :
    (state.reserveUnits now units).burstLoadUnits now = (state.burstLoadUnits now + units) % 2 ^ 32 := by
  have apart : ∀ item : BurstReservation, decide (burstWindow < now - item.reservedAt) = true →
      decide (now - item.reservedAt ≤ burstWindow) = false := by
    intro item expired
    exact decide_eq_false (not_le.mpr (of_decide_eq_true expired))
  unfold burstLoadUnits reserveUnits
  dsimp only
  rw [recentBurstReservations_refresh, List.filter_append, SlidingWindow.filter_dropWhile apart, List.map_append,
    List.sum_append]
  simp

theorem u32Mul_capacity (kind : RpcKind) :
    u32Mul (endpointBurstCapacityUnits kind true) 2 = endpointBurstCapacityUnits kind true * 2 := by
  cases kind <;> rfl

theorem cooldownUntil_recordSuccess (state : RpcEndpointState) (now : Instant) (latency : Nat)
    (observedBlock : Option Nat) : (state.recordSuccess now latency observedBlock).cooldownUntil =
      state.cooldownUntil.filter fun cooldownUntil => now < cooldownUntil := by
  simp only [recordSuccess, cooldownUntil_refresh]

theorem cooldownUntil_recordFailure (state : RpcEndpointState) (now : Instant) (kind : RpcFailureKind) :
    ∃ cooldown, (state.recordFailure now kind).cooldownUntil =
      some (laterOf state.cooldownUntil (now + min cooldown (45 * nanosPerSec))) := by
  refine ⟨(countFailure { state.refresh now with failures := u32Add (state.refresh now).failures 1 } kind).2, ?_⟩
  simp only [recordFailure, cooldownUntil_countFailure, cooldownUntil_refresh]

theorem cooldownUntil_reserveSelection (kind : RpcKind) (state : RpcEndpointState) (now : Instant) (sendMode : Bool) :
    (state.reserveSelection kind now sendMode).cooldownUntil =
      if endpointBurstCapacityUnits kind true * 2 ≤
          (state.burstLoadUnits now + endpointBurstCostUnits kind sendMode) % 2 ^ 32 then
        some (now + millis 900) else state.cooldownUntil := by
  have kept : ∀ units, (state.reserveUnits now units).cooldownUntil = state.cooldownUntil := by
    intro units
    simp only [reserveUnits, cooldownUntil_refresh]
  unfold reserveSelection reserveBurstUnits
  dsimp only
  rw [u32Mul_capacity, burstLoadUnits_reserveUnits]
  split
  · rfl
  · exact kept _

theorem le_laterOf (existing : Option Instant) (cooldownUntil deadline : Instant) (known : existing = some deadline) :
    deadline ≤ laterOf existing cooldownUntil := by
  subst known
  unfold laterOf
  dsimp only
  split
  · exact le_rfl
  · rename_i notLater
    exact not_lt.mp notLater

/-- An operation keeps the cooldown exactly when it spares it: a success only clears what is over, a
failure keeps the later deadline, and a burst sets its own. -/
theorem keepsCooldown_iff (kind : RpcKind) (state : RpcEndpointState) (next : EndpointCall) (after : RpcEndpointState)
    (step : system kind state next = some after) :
    KeepsCooldown state next after ↔ SparesCooldown kind state next after := by
  cases Option.some.inj step
  cases next with
  | recordSuccess now latency observedBlock =>
    constructor
    · intro _ _ _ same
      exact absurd same (by simp)
    · intro _ deadline active before
      refine ⟨deadline, ?_, le_rfl⟩
      have later : now < deadline := before
      simp only [call, cooldownUntil_recordSuccess, active]
      simp [later]
  | recordFailure now failure =>
    constructor
    · intro _ _ _ same
      exact absurd same (by simp)
    · intro _ deadline active _
      obtain ⟨cooldown, kept⟩ := cooldownUntil_recordFailure state now failure
      exact ⟨_, kept, le_laterOf _ _ _ active⟩
  | reserveSelection now sendMode =>
    have outcome := cooldownUntil_reserveSelection kind state now sendMode
    by_cases burst : endpointBurstCapacityUnits kind true * 2 ≤
        (state.burstLoadUnits now + endpointBurstCostUnits kind sendMode) % 2 ^ 32
    · rw [if_pos burst] at outcome
      constructor
      · rintro keeps _ _ ⟨rfl, rfl⟩ _ deadline active
        by_cases running : now < deadline
        · obtain ⟨deadline', set, bound⟩ := keeps deadline active running
          cases Option.some.inj (outcome.symm.trans set)
          exact bound
        · exact (not_lt.mp running).trans (Nat.le_add_right now _)
      · intro spares deadline active _
        exact ⟨_, outcome, spares now sendMode rfl burst deadline active⟩
    · rw [if_neg burst] at outcome
      constructor
      · rintro _ _ _ ⟨rfl, rfl⟩ reached
        exact absurd reached burst
      · intro _ deadline active _
        exact ⟨deadline, outcome.trans active, le_rfl⟩

/-- A cooldown that every operation keeps lasts through all the operations that come before its end. -/
theorem cooldown_lasts {kind : RpcKind} {state last : RpcEndpointState} {calls : List EndpointCall} {deadline : Instant}
    (cooling : state.cooldownUntil = some deadline) (before : ∀ next ∈ calls, next.now < deadline)
    (keeps : (system kind).EveryStep KeepsCooldown state calls) (reached : (system kind).after state calls = some last) :
    ∃ deadline', last.cooldownUntil = some deadline' ∧ deadline ≤ deadline' := by
  induction calls using List.reverseRecOn generalizing last with
  | nil =>
    cases Option.some.inj reached
    exact ⟨deadline, cooling, le_rfl⟩
  | append_singleton calls next ih =>
    obtain ⟨middle, earlier, step⟩ := Transition.System.after_concat_eq_some.mp reached
    obtain ⟨each, kept⟩ := (Transition.System.everyStep_concat earlier step).mp keeps
    obtain ⟨current, active, bound⟩ := ih (fun other member => before other (List.mem_append_left _ member)) each earlier
    have soon := before next (List.mem_append_right _ (List.mem_singleton.mpr rfl))
    obtain ⟨deadline', set, later⟩ := kept current active (soon.trans_le bound)
    exact ⟨deadline', set, bound.trans later⟩

/-- Over every sequence of operations no active cooldown is shortened exactly when no reservation brings the
load to twice the capacity for sending while more than the burst cooldown is still to go. Then an endpoint that
cools down until some time is unavailable until that time. -/
theorem cooldowns_kept_iff (kind : RpcKind) (state : RpcEndpointState) (calls : List EndpointCall) :
    ((system kind).EveryStep KeepsCooldown state calls ↔ (system kind).EveryStep (SparesCooldown kind) state calls) ∧
    ((system kind).EveryStep (SparesCooldown kind) state calls → ∀ deadline last, state.cooldownUntil = some deadline →
      (∀ next ∈ calls, next.now < deadline) → (system kind).after state calls = some last →
      ∀ now, now < deadline → last.Cooling now) := by
  have same : (system kind).EveryStep KeepsCooldown state calls ↔
      (system kind).EveryStep (SparesCooldown kind) state calls :=
    Transition.System.everyStep_congr (keepsCooldown_iff kind) calls
  refine ⟨same, ?_⟩
  intro spares deadline last cooling before reached now early
  obtain ⟨deadline', set, bound⟩ := cooldown_lasts cooling before (same.mpr spares) reached
  exact ⟨deadline', set, early.trans_le bound⟩

/-- An endpoint that a rate limit stops for four seconds, one second after the start. -/
def rateLimitedEndpoint : RpcEndpointState := (new 0).recordFailure (1 * nanosPerSec) .rateLimited

/-- Another failure, then a lone reservation for sending, far from a burst, and a success. -/
def coolingCalls : List EndpointCall :=
  [.recordFailure (2 * nanosPerSec) .remote, .reserveSelection (2 * nanosPerSec) true,
    .recordSuccess (3 * nanosPerSec) 1000 none]

theorem rateLimitedEndpoint_cools :
    ∃ last, (system .getBlock).after rateLimitedEndpoint coolingCalls = some last ∧ last.Cooling (4 * nanosPerSec) := by
  have spares : (system .getBlock).EveryStep (SparesCooldown .getBlock) rateLimitedEndpoint coolingCalls := by
    have failed : (system .getBlock).EveryStep (SparesCooldown .getBlock) rateLimitedEndpoint (coolingCalls.take 1) :=
      (Transition.System.everyStep_concat rfl rfl).mpr ⟨Transition.System.everyStep_nil,
        fun _ _ same => absurd same (by simp)⟩
    have reserved : (system .getBlock).EveryStep (SparesCooldown .getBlock) rateLimitedEndpoint
        (coolingCalls.take 2) := by
      refine (Transition.System.everyStep_concat rfl rfl).mpr ⟨failed, ?_⟩
      intro now sendMode same burst
      cases same
      exact absurd burst (by decide)
    exact (Transition.System.everyStep_concat rfl rfl).mpr ⟨reserved, fun _ _ same => absurd same (by simp)⟩
  exact ⟨_, rfl, (cooldowns_kept_iff .getBlock rateLimitedEndpoint coolingCalls).2 spares (5 * nanosPerSec) _
    (by decide) (by decide) rfl _ (by decide)⟩

/-- A fourth reservation for sending within the window replaces the four seconds by the burst cooldown. -/
theorem burst_shortens_cooldown :
    let reservation := EndpointCall.reserveSelection (1 * nanosPerSec) true
    ¬ (system .getBlock).EveryStep KeepsCooldown rateLimitedEndpoint
      [reservation, reservation, reservation, reservation] := by
  intro reservation every
  have keeps := every [reservation, reservation, reservation] reservation _ _ (List.prefix_refl _) rfl rfl
  obtain ⟨deadline', set, bound⟩ := keeps (5 * nanosPerSec) (by decide) (by decide)
  have shortened : deadline' = 1 * nanosPerSec + millis 900 := by
    have read := set.symm.trans (show _ = some (1 * nanosPerSec + millis 900) by decide)
    exact Option.some.inj read
  rw [shortened] at bound
  exact absurd bound (by decide)

end RpcEndpointState

end ArbitrageRuntime
