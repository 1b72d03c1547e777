import ArbitrageRuntime.Lib.Transition
import ArbitrageRuntime.Engine.Guards
import ArbitrageRuntime.Rpc.Fleet
import ArbitrageRuntime.Runtime.MempoolIntake

namespace ArbitrageRuntime

inductive RpcFailureKind
  | timeout
  | rateLimited
  | capacityExhausted
  | stale
  | transport
  | remote
  deriving DecidableEq

structure BurstReservation where
  reservedAt : Instant
  units : Nat
  deriving DecidableEq

/-- What an endpoint keeps behind its lock. A latency is in nanoseconds. -/
structure RpcEndpointState where
  failures : Nat
  timeoutFailures : Nat
  rateLimitFailures : Nat
  staleFailures : Nat
  lastFailureDecayAt : Instant
  disabled : Bool
  disabledReason : Option String
  cooldownUntil : Option Instant
  avgLatency : Option Nat
  lastBlock : Option Nat
  lastBlockAt : Option Instant
  recentBurstReservations : List BurstReservation
  lastSelectedAt : Option Instant
  deriving DecidableEq

def endpointBurstCapacityUnits (kind : RpcKind) (sendMode : Bool) : Nat :=
  match kind, sendMode with
  | .alchemy, false => 24
  | .alchemy, true => 18
  | .infura, false => 30
  | .infura, true => 12
  | .tenderly, false => 10
  | .tenderly, true => 8
  | .getBlock, false => 10
  | .getBlock, true => 8
  | .generic, false => 12
  | .generic, true => 10

def endpointBurstCostUnits (kind : RpcKind) (sendMode : Bool) : Nat :=
  match kind, sendMode with
  | .alchemy, false => 1
  | .alchemy, true => 7
  | .infura, false => 1
  | .infura, true => 6
  | .tenderly, false => 2
  | .tenderly, true => 8
  | .getBlock, false => 1
  | .getBlock, true => 5
  | .generic, false => 2
  | .generic, true => 6

def burstWindow : Nat := millis 1200

def failureDecaySecs : Nat := 20

def u32Add (a b : Nat) : Nat := Saturating.add u32Max a b

def u32Mul (a b : Nat) : Nat := Saturating.mul u32Max a b

namespace RpcEndpointState

/-- The state of an endpoint that `from_config` builds. -/
def new (now : Instant) : RpcEndpointState where
  failures := 0
  timeoutFailures := 0
  rateLimitFailures := 0
  staleFailures := 0
  lastFailureDecayAt := now
  disabled := false
  disabledReason := none
  cooldownUntil := none
  avgLatency := none
  lastBlock := none
  lastBlockAt := none
  recentBurstReservations := []
  lastSelectedAt := none

def pruneBurstReservations (state : RpcEndpointState) (now : Instant) : RpcEndpointState :=
  { state with
    recentBurstReservations :=
      state.recentBurstReservations.dropWhile fun item => burstWindow < now - item.reservedAt }

def decayFailureCounters (state : RpcEndpointState) (now : Instant) : RpcEndpointState :=
  let steps := secsSince now state.lastFailureDecayAt / failureDecaySecs % 2 ^ 32
  if steps = 0 then state
  else
    { state with
      lastFailureDecayAt := state.lastFailureDecayAt + failureDecaySecs * steps * nanosPerSec
      failures := state.failures - u32Mul steps 2
      timeoutFailures := state.timeoutFailures - u32Mul steps 2
      staleFailures := state.staleFailures - u32Mul steps 2
      rateLimitFailures := state.rateLimitFailures - u32Mul steps 4 }

/-- The units inside the window. The sum of machine words wraps around. -/
def burstLoadUnits (state : RpcEndpointState) (now : Instant) : Nat :=
  ((state.recentBurstReservations.filter fun item => now - item.reservedAt ≤ burstWindow).map
    BurstReservation.units).sum % 2 ^ 32

/-- What every operation does first. -/
def refresh (state : RpcEndpointState) (now : Instant) : RpcEndpointState :=
  (state.pruneBurstReservations now).decayFailureCounters now

def recordSuccess (state : RpcEndpointState) (now : Instant) (latency : Nat) (observedBlock : Option Nat) :
    RpcEndpointState :=
  let current := state.refresh now
  { current with
    avgLatency := some (match current.avgLatency with
      | some previous => (Rounding.halfEven (previous * (72 / 100) + latency * (28 / 100))).toNat
      | none => latency)
    failures := current.failures - 1
    timeoutFailures := current.timeoutFailures - 1
    rateLimitFailures := current.rateLimitFailures - 1
    staleFailures := current.staleFailures - 1
    lastBlock := observedBlock.or current.lastBlock
    lastBlockAt := if observedBlock.isSome then some now else current.lastBlockAt
    cooldownUntil := current.cooldownUntil.filter fun cooldownUntil => now < cooldownUntil }

/-- What a failure counts, and the cooldown that it asks for. -/
def countFailure (state : RpcEndpointState) (kind : RpcFailureKind) : RpcEndpointState × Nat :=
  match kind with
  | .rateLimited =>
    let rateLimitFailures := u32Add state.rateLimitFailures 1
    ({ state with rateLimitFailures := rateLimitFailures }, 2 ^ min rateLimitFailures 4 * 2 * nanosPerSec)
  | .capacityExhausted =>
    ({ state with
        rateLimitFailures := u32Add state.rateLimitFailures 10
        disabled := true
        disabledReason := some "provider monthly capacity exhausted; rotate key or re-enable manually" },
      24 * 60 * 60 * nanosPerSec)
  | .timeout =>
    let timeoutFailures := u32Add state.timeoutFailures 1
    ({ state with timeoutFailures := timeoutFailures }, millis (400 * 2 ^ min timeoutFailures 5))
  | .stale => ({ state with staleFailures := u32Add state.staleFailures 1 }, millis 900)
  | .transport => (state, millis 700)
  | .remote => (state, millis 500)

/-- The later of a deadline and the one that stands already. -/
def laterOf (existing : Option Instant) (cooldownUntil : Instant) : Instant :=
  match existing with
  | some existing => if cooldownUntil < existing then existing else cooldownUntil
  | none => cooldownUntil

def recordFailure (state : RpcEndpointState) (now : Instant) (kind : RpcFailureKind) : RpcEndpointState :=
  let current := state.refresh now
  let (counted, cooldown) := countFailure { current with failures := u32Add current.failures 1 } kind
  { counted with
    cooldownUntil := some (laterOf counted.cooldownUntil (now + min cooldown (45 * nanosPerSec))) }

/-- The state with one more reservation, before the check on the load. -/
def reserveUnits (state : RpcEndpointState) (now : Instant) (units : Nat) : RpcEndpointState :=
  let current := state.refresh now
  { current with
    recentBurstReservations := current.recentBurstReservations ++ [⟨now, units⟩]
    lastSelectedAt := some now }

def reserveBurstUnits (state : RpcEndpointState) (kind : RpcKind) (now : Instant) (units : Nat) : RpcEndpointState :=
  let reserved := state.reserveUnits now units
  if u32Mul (endpointBurstCapacityUnits kind true) 2 ≤ reserved.burstLoadUnits now then
    { reserved with cooldownUntil := some (now + millis 900) }
  else reserved

def reserveSelection (state : RpcEndpointState) (kind : RpcKind) (now : Instant) (sendMode : Bool) :
    RpcEndpointState :=
  state.reserveBurstUnits kind now (endpointBurstCostUnits kind sendMode)

def setEnabled (state : RpcEndpointState) (enabled : Bool) (reason : Option String) : RpcEndpointState :=
  { state with
    disabled := !enabled
    disabledReason := if enabled then none else some (reason.getD "disabled from dashboard") }

/-- The endpoint cools down at a time. -/
def Cooling (state : RpcEndpointState) (now : Instant) : Prop :=
  ∃ deadline, state.cooldownUntil = some deadline ∧ now < deadline

@[simp] theorem cooldownUntil_refresh (state : RpcEndpointState) (now : Instant) :
    (state.refresh now).cooldownUntil = state.cooldownUntil := by
  unfold refresh decayFailureCounters
  dsimp only
  split
  · rfl
  · rfl

@[simp] theorem disabled_refresh (state : RpcEndpointState) (now : Instant) :
    (state.refresh now).disabled = state.disabled := by
  unfold refresh decayFailureCounters
  dsimp only
  split
  · rfl
  · rfl

theorem recentBurstReservations_refresh (state : RpcEndpointState) (now : Instant) :
    (state.refresh now).recentBurstReservations =
      state.recentBurstReservations.dropWhile fun item => burstWindow < now - item.reservedAt := by
  unfold refresh decayFailureCounters
  dsimp only
  split
  · rfl
  · rfl

theorem cooldownUntil_countFailure (state : RpcEndpointState) (kind : RpcFailureKind) :
    (state.countFailure kind).1.cooldownUntil = state.cooldownUntil := by
  cases kind <;> rfl

end RpcEndpointState

end ArbitrageRuntime
