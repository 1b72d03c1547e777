import ArbitrageRuntime.Engine.Budget
import Mathlib.Order.Monotone.Basic

namespace ArbitrageRuntime

def u32Max : Nat := 2 ^ 32 - 1

structure ExecutionResult where
  realizedProfit : ℚ
  gasUsed : Nat
  success : Bool

structure ContextFreezeKey where
  pair : Address
  router : Address
  submitPath : String
  deriving DecidableEq

structure ContextExecutionGuard where
  consecutiveLosses : Nat
  frozenUntil : Option Instant
  lastEventAt : Option Instant
  regimePressureEwma : ℚ

/-- `ContextExecutionGuard::default()` -/
def ContextExecutionGuard.fresh : ContextExecutionGuard where
  consecutiveLosses := 0
  frozenUntil := none
  lastEventAt := none
  regimePressureEwma := 0

structure ExecutionGuard where
  consecutiveLosses : Nat
  frozenUntil : Option Instant
  contextGuards : ContextFreezeKey → Option ContextExecutionGuard

structure StopLossSnapshot where
  consecutiveLosses : Nat
  remainingFreezeSecs : Nat
  scope : String

def decayContextGuard (state : ContextExecutionGuard) (now : Instant) (baseFreezeSecs : Nat) : ContextExecutionGuard :=
  match state.lastEventAt with
  | none => state
  | some lastEventAt =>
    let decayWindowSecs := max (baseFreezeSecs / 2) 30
    let elapsedSecs := secsSince now lastEventAt
    if elapsedSecs < decayWindowSecs ∨ state.consecutiveLosses = 0 then state
    else
      let decaySteps := max (elapsedSecs / decayWindowSecs % 2 ^ 32) 1
      { state with
        consecutiveLosses := state.consecutiveLosses - decaySteps
        lastEventAt := some now
        regimePressureEwma := state.regimePressureEwma * (88 / 100) ^ decaySteps }

/-- Decay forgets losses and never the freeze itself. -/
@[simp] theorem frozenUntil_decayContextGuard (state : ContextExecutionGuard) (now : Instant) (baseFreezeSecs : Nat) :
    (decayContextGuard state now baseFreezeSecs).frozenUntil = state.frozenUntil := by
  unfold decayContextGuard
  split
  · rfl
  · dsimp only
    split
    · rfl
    · rfl

def contextualRegimePressure (contextPriorityScore contextToxicityScore : ℚ) (success : Bool) (realizedProfit : ℚ) :
    ℚ :=
  let toxicity := max 0 (min contextToxicityScore 1)
  let lowPriority := max 0 (min (1 - max 0 (min contextPriorityScore 1)) 1)
  let outcomePenalty := if success ∧ 0 < realizedProfit then 0 else 24 / 100
  max 0 (min (toxicity * (62 / 100) + lowPriority * (22 / 100) + outcomePenalty) 1)

def contextualStopLossThreshold (baseThreshold : Nat) (regimePressure : ℚ) : Nat :=
  if 78 / 100 ≤ regimePressure then max (baseThreshold - 1) 1 else max baseThreshold 1

def contextualFreezeSecs (baseFreezeSecs : Nat) (regimePressure : ℚ) : Nat :=
  let multiplier : ℚ :=
    if 90 / 100 ≤ regimePressure then 2
    else if 78 / 100 ≤ regimePressure then 150 / 100
    else if 62 / 100 ≤ regimePressure then 120 / 100
    else 1
  asU64 (Rounding.halfUp (baseFreezeSecs * multiplier))

/-- `f64::EPSILON` is `2^-52`. -/
def ewma (current sample alpha : ℚ) : ℚ :=
  if current ≤ 1 / 2 ^ 52 then sample else current + (sample - current) * alpha

def pruneContextGuards (now : Instant) (contextGuards : ContextFreezeKey → Option ContextExecutionGuard) :
    ContextFreezeKey → Option ContextExecutionGuard := fun key =>
  (contextGuards key).filter fun state =>
    match state.frozenUntil with
    | some frozenUntil => now < frozenUntil || 0 < state.consecutiveLosses
    | none => 0 < state.consecutiveLosses

/-- What a result does to the guard of its own context. The source panics where `Instant + Duration` leaves what
the clock can hold, for a freeze of hundreds of billions of years; here and in the global guard the time goes on. -/
def recordContextResult (mev : MevConfig) (now : Instant) (result : ExecutionResult)
    (contextPriorityScore contextToxicityScore : ℚ) (state : ContextExecutionGuard) : ContextExecutionGuard :=
  let decayed := decayContextGuard state now (max mev.contextStopLossFreezeSecs 1)
  let regimePressure := contextualRegimePressure contextPriorityScore contextToxicityScore result.success
    result.realizedProfit
  let pressed := { decayed with
    regimePressureEwma := ewma decayed.regimePressureEwma regimePressure (35 / 100)
    lastEventAt := some now }
  if result.success ∧ 0 < result.realizedProfit then { pressed with consecutiveLosses := 0, frozenUntil := none }
  else
    let lossIncrement := if 82 / 100 ≤ pressed.regimePressureEwma then 2 else 1
    let losses := Saturating.add u32Max pressed.consecutiveLosses lossIncrement
    if contextualStopLossThreshold mev.contextStopLossConsecutiveLosses pressed.regimePressureEwma ≤ losses then
      { pressed with
        consecutiveLosses := losses
        frozenUntil := some (now + contextualFreezeSecs mev.contextStopLossFreezeSecs pressed.regimePressureEwma *
          nanosPerSec) }
    else { pressed with consecutiveLosses := losses }

namespace ExecutionGuard

/-- What a result does to the global guard. -/
def recordGlobalResult (guard : ExecutionGuard) (mev : MevConfig) (now : Instant) (result : ExecutionResult) :
    ExecutionGuard :=
  if result.success ∧ 0 < result.realizedProfit then { guard with consecutiveLosses := 0, frozenUntil := none }
  else
    let losses := Saturating.add u32Max guard.consecutiveLosses 1
    { guard with
      consecutiveLosses := losses
      frozenUntil := if mev.stopLossConsecutiveLosses ≤ losses then
          some (now + mev.stopLossFreezeSecs * nanosPerSec)
        else guard.frozenUntil }

/-- `record_result` with its context: the three optional arguments of the source that name it are
given together or not at all. -/
def recordResult (guard : ExecutionGuard) (mev : MevConfig) (now : Instant) (result : ExecutionResult)
    (context : Option ContextFreezeKey) (contextPriorityScore contextToxicityScore : Option ℚ) : ExecutionGuard :=
  let counted := guard.recordGlobalResult mev now result
  let contextGuards := match context with
    | none => counted.contextGuards
    | some key => Function.update counted.contextGuards key
        (some (recordContextResult mev now result (contextPriorityScore.getD (1 / 2)) (contextToxicityScore.getD (1 / 2))
          ((counted.contextGuards key).getD .fresh)))
  { counted with contextGuards := pruneContextGuards now contextGuards }

def stopLossSnapshot (guard : ExecutionGuard) (now : Instant) : Option StopLossSnapshot × ExecutionGuard :=
  match guard.frozenUntil with
  | none => (none, guard)
  | some frozenUntil =>
    if frozenUntil ≤ now then (none, { guard with frozenUntil := none, consecutiveLosses := 0 })
    else
      (some { consecutiveLosses := guard.consecutiveLosses
              remainingFreezeSecs := secsSince frozenUntil now
              scope := "global" }, guard)

def contextStopLossSnapshot (guard : ExecutionGuard) (mev : MevConfig) (now : Instant) (key : ContextFreezeKey) :
    Option StopLossSnapshot × ExecutionGuard :=
  match guard.contextGuards key with
  | none => (none, guard)
  | some found =>
    let state := decayContextGuard found now (max mev.contextStopLossFreezeSecs 1)
    match state.frozenUntil with
    | none => (none, { guard with contextGuards := Function.update guard.contextGuards key (some state) })
    | some frozenUntil =>
      if frozenUntil ≤ now then (none, { guard with contextGuards := Function.update guard.contextGuards key none })
      else
        (some { consecutiveLosses := state.consecutiveLosses
                remainingFreezeSecs := secsSince frozenUntil now
                scope := "contextual" },
         { guard with contextGuards := Function.update guard.contextGuards key (some state) })

/-- The context is frozen at the time: its guard holds a freeze that has not ended. -/
def Frozen (guard : ExecutionGuard) (now : Instant) (key : ContextFreezeKey) : Prop :=
  ∃ deadline, (guard.contextGuards key).bind ContextExecutionGuard.frozenUntil = some deadline ∧ now < deadline

instance (guard : ExecutionGuard) (now : Instant) (key : ContextFreezeKey) : Decidable (guard.Frozen now key) :=
  match read : (guard.contextGuards key).bind ContextExecutionGuard.frozenUntil with
  | none => isFalse (by simp [Frozen, read])
  | some deadline => decidable_of_iff (now < deadline) (by simp [Frozen, read])

variable {guard : ExecutionGuard} {mev : MevConfig}

theorem contextStopLossSnapshot_isSome {now : Instant} {key : ContextFreezeKey} :
    (guard.contextStopLossSnapshot mev now key).1.isSome = true ↔ guard.Frozen now key := by
  unfold contextStopLossSnapshot Frozen
  cases guard.contextGuards key with
  | none => simp
  | some found =>
    simp only [frozenUntil_decayContextGuard, Option.bind_some]
    cases found.frozenUntil with
    | none => simp
    | some deadline =>
      by_cases ended : deadline ≤ now
      · simp [ended]
      · simp [ended, lt_of_not_ge ended]

/-- Looking at one context does not change which contexts are frozen, then or later. -/
theorem frozen_contextStopLossSnapshot {now later : Instant} (order : now ≤ later) (key other : ContextFreezeKey) :
    (guard.contextStopLossSnapshot mev now key).2.Frozen later other ↔ guard.Frozen later other := by
  unfold contextStopLossSnapshot
  cases present : guard.contextGuards key with
  | none => rfl
  | some found =>
    simp only [frozenUntil_decayContextGuard]
    by_cases same : other = key
    · subst same
      cases freeze : found.frozenUntil with
      | none => simp [Frozen, present]
      | some deadline =>
        by_cases ended : deadline ≤ now
        · have notLater : ¬ later < deadline := not_lt.mpr (ended.trans order)
          simp [Frozen, present, freeze, ended, notLater]
        · simp [Frozen, present, ended]
    · cases found.frozenUntil with
      | none => simp [Frozen, Function.update_of_ne same]
      | some deadline =>
        by_cases ended : deadline ≤ now
        · simp [Frozen, Function.update_of_ne same, ended]
        · simp [Frozen, Function.update_of_ne same, ended]

end ExecutionGuard

end ArbitrageRuntime
