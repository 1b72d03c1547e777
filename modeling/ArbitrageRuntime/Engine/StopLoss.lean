import ArbitrageRuntime.Engine.Guards

namespace ArbitrageRuntime

/-- A call on the execution guard. -/
inductive GuardCall
  | recordResult (now : Instant) (result : ExecutionResult) (context : Option ContextFreezeKey)
      (contextPriorityScore contextToxicityScore : Option ℚ)
  | stopLossSnapshot (now : Instant)

def ExecutionResult.isWin (result : ExecutionResult) : Bool := result.success ∧ 0 < result.realizedProfit

/-- What there is to remember of a call: the time of a result, and whether a snapshot saw a freeze that
was over. -/
inductive GuardNote
  | win (time : Instant)
  | loss (time : Instant)
  | expiredFreeze
  | looked
  deriving DecidableEq

/-- The non-wins since the later of the last win and the last snapshot that saw a freeze that was over.
The notes stand in reverse, the latest one first. -/
def lossesSinceReset : List GuardNote → Nat
  | .loss _ :: notes => lossesSinceReset notes + 1
  | .looked :: notes => lossesSinceReset notes
  | .win _ :: _ | .expiredFreeze :: _ | [] => 0

/-- The time of the last result, if it was a non-win. -/
def lastLoss : List GuardNote → Option Instant
  | .loss time :: _ => some time
  | .looked :: notes | .expiredFreeze :: notes => lastLoss notes
  | .win _ :: _ | [] => none

/-- The losses that stop the engine. A threshold of zero stops it with the first one. -/
def MevConfig.stopLossThreshold (mev : MevConfig) : Nat := max 1 mev.stopLossConsecutiveLosses

namespace ExecutionGuard

def fresh : ExecutionGuard := ⟨0, none, fun _ => none⟩

/-- A snapshot at the time finds a freeze that is over. -/
def seesExpiredFreeze (guard : ExecutionGuard) (now : Instant) : Bool :=
  match guard.frozenUntil with
  | some frozenUntil => frozenUntil ≤ now
  | none => false

def note (guard : ExecutionGuard) : GuardCall → GuardNote
  | .recordResult now result _ _ _ => if result.isWin then .win now else .loss now
  | .stopLossSnapshot now => if guard.seesExpiredFreeze now then .expiredFreeze else .looked

def call (guard : ExecutionGuard) (mev : MevConfig) : GuardCall → ExecutionGuard
  | .recordResult now result context priority toxicity => guard.recordResult mev now result context priority toxicity
  | .stopLossSnapshot now => (guard.stopLossSnapshot now).2

/-- A sequence of calls: the guard behind them, and the notes on them with the latest one first. -/
def calls (mev : MevConfig) (sequence : List GuardCall) : ExecutionGuard × List GuardNote :=
  sequence.foldl (fun run next => (run.1.call mev next, run.1.note next :: run.2)) (fresh, [])

/-- Counter and deadline say together what the notes say: the counter has the losses since the last reset,
and the deadline stands exactly as long as they reach the threshold. -/
structure Follows (guard : ExecutionGuard) (mev : MevConfig) (notes : List GuardNote) : Prop where
  counted : guard.consecutiveLosses = min (lossesSinceReset notes) u32Max
  deadline : guard.frozenUntil = if mev.stopLossThreshold ≤ lossesSinceReset notes then
    (lastLoss notes).map fun time => time + mev.stopLossFreezeSecs * nanosPerSec else none

variable {guard : ExecutionGuard} {mev : MevConfig} {notes : List GuardNote}

theorem follows_fresh (mev : MevConfig) : Follows fresh mev [] := by
  have positive : ¬ mev.stopLossThreshold ≤ lossesSinceReset [] := by
    have one : 1 ≤ mev.stopLossThreshold := Nat.le_max_left _ _
    simp only [lossesSinceReset]
    omega
  refine ⟨rfl, ?_⟩
  rw [if_neg positive]
  rfl

theorem recordResult_of_win (guard : ExecutionGuard) (mev : MevConfig) (now : Instant) {result : ExecutionResult}
    (context : Option ContextFreezeKey) (priority toxicity : Option ℚ) (win : result.isWin = true) :
    (guard.recordResult mev now result context priority toxicity).consecutiveLosses = 0 ∧
    (guard.recordResult mev now result context priority toxicity).frozenUntil = none := by
  have won : result.success = true ∧ 0 < result.realizedProfit := of_decide_eq_true win
  simp [recordResult, recordGlobalResult, won]

theorem recordResult_of_loss (guard : ExecutionGuard) (mev : MevConfig) (now : Instant) {result : ExecutionResult}
    (context : Option ContextFreezeKey) (priority toxicity : Option ℚ) (loss : ¬ result.isWin = true) :
    (guard.recordResult mev now result context priority toxicity).consecutiveLosses =
      Saturating.add u32Max guard.consecutiveLosses 1 ∧
    (guard.recordResult mev now result context priority toxicity).frozenUntil =
      if mev.stopLossConsecutiveLosses ≤ Saturating.add u32Max guard.consecutiveLosses 1 then
        some (now + mev.stopLossFreezeSecs * nanosPerSec) else guard.frozenUntil := by
  have lost : ¬ (result.success = true ∧ 0 < result.realizedProfit) := fun won => loss (decide_eq_true won)
  simp only [recordResult, recordGlobalResult, if_neg lost, and_self]

/-- A win takes everything back. -/
theorem Follows.win (now : Instant) {after : ExecutionGuard} (counter : after.consecutiveLosses = 0)
    (none : after.frozenUntil = none) : Follows after mev (.win now :: notes) := by
  have positive : ¬ mev.stopLossThreshold ≤ 0 := by
    have one : 1 ≤ mev.stopLossThreshold := Nat.le_max_left _ _
    omega
  refine ⟨counter, ?_⟩
  rw [none]
  exact (if_neg positive).symm

/-- A loss counts, and sets the deadline anew from the threshold on. The counter stops at its largest value,
which no threshold exceeds. -/
theorem Follows.loss (follows : Follows guard mev notes) (fits : mev.stopLossConsecutiveLosses ≤ u32Max)
    (now : Instant) {after : ExecutionGuard}
    (counter : after.consecutiveLosses = Saturating.add u32Max guard.consecutiveLosses 1)
    (deadline : after.frozenUntil =
      if mev.stopLossConsecutiveLosses ≤ Saturating.add u32Max guard.consecutiveLosses 1 then
        some (now + mev.stopLossFreezeSecs * nanosPerSec) else guard.frozenUntil) :
    Follows after mev (.loss now :: notes) := by
  have counted : Saturating.add u32Max guard.consecutiveLosses 1 = min (lossesSinceReset notes + 1) u32Max := by
    rw [follows.counted, Saturating.add]
    omega
  have reached : mev.stopLossConsecutiveLosses ≤ Saturating.add u32Max guard.consecutiveLosses 1 ↔
      mev.stopLossThreshold ≤ lossesSinceReset notes + 1 := by
    rw [counted, MevConfig.stopLossThreshold]
    omega
  refine ⟨counter.trans counted, ?_⟩
  rw [deadline]
  by_cases armed : mev.stopLossThreshold ≤ lossesSinceReset notes + 1
  · rw [if_pos (reached.mpr armed)]
    exact (if_pos armed).symm
  · have unarmed : ¬ mev.stopLossThreshold ≤ lossesSinceReset notes := by omega
    rw [if_neg (fun enough => armed (reached.mp enough)), follows.deadline, if_neg unarmed]
    exact (if_neg armed).symm

/-- A snapshot takes everything back when it finds the freeze over, and else leaves the guard alone. -/
theorem Follows.snapshot (follows : Follows guard mev notes) (now : Instant) :
    Follows (guard.stopLossSnapshot now).2 mev (guard.note (.stopLossSnapshot now) :: notes) := by
  cases frozen : guard.frozenUntil with
  | none =>
    have looked : guard.note (.stopLossSnapshot now) = .looked := by simp [note, seesExpiredFreeze, frozen]
    have same : (guard.stopLossSnapshot now).2 = guard := by simp [stopLossSnapshot, frozen]
    rw [looked, same]
    exact ⟨follows.counted, follows.deadline⟩
  | some frozenUntil =>
    by_cases ended : frozenUntil ≤ now
    · have expired : guard.note (.stopLossSnapshot now) = .expiredFreeze := by
        simp [note, seesExpiredFreeze, frozen, ended]
      have cleared : (guard.stopLossSnapshot now).2 = { guard with frozenUntil := none, consecutiveLosses := 0 } := by
        simp [stopLossSnapshot, frozen, ended]
      have positive : ¬ mev.stopLossThreshold ≤ 0 := by
        have one : 1 ≤ mev.stopLossThreshold := Nat.le_max_left _ _
        omega
      rw [expired, cleared]
      exact ⟨rfl, (if_neg positive).symm⟩
    · have looked : guard.note (.stopLossSnapshot now) = .looked := by simp [note, seesExpiredFreeze, frozen, ended]
      have same : (guard.stopLossSnapshot now).2 = guard := by simp [stopLossSnapshot, frozen, ended]
      rw [looked, same]
      exact ⟨follows.counted, follows.deadline⟩

theorem Follows.call (follows : Follows guard mev notes) (fits : mev.stopLossConsecutiveLosses ≤ u32Max)
    (next : GuardCall) : Follows (guard.call mev next) mev (guard.note next :: notes) := by
  cases next with
  | recordResult now result context priority toxicity =>
    by_cases win : result.isWin = true
    · have noted : guard.note (.recordResult now result context priority toxicity) = .win now := if_pos win
      obtain ⟨counter, none⟩ := recordResult_of_win guard mev now context priority toxicity win
      rw [noted]
      exact Follows.win now counter none
    · have noted : guard.note (.recordResult now result context priority toxicity) = .loss now := if_neg win
      obtain ⟨counter, deadline⟩ := recordResult_of_loss guard mev now context priority toxicity win
      rw [noted]
      exact follows.loss fits now counter deadline
  | stopLossSnapshot now => exact follows.snapshot now

theorem calls_concat (mev : MevConfig) (sequence : List GuardCall) (next : GuardCall) :
    calls mev (sequence ++ [next]) =
      ((calls mev sequence).1.call mev next, (calls mev sequence).1.note next :: (calls mev sequence).2) := by
  simp only [calls, List.foldl_append, List.foldl_cons, List.foldl_nil]

theorem calls_follows (fits : mev.stopLossConsecutiveLosses ≤ u32Max) (sequence : List GuardCall) :
    Follows (calls mev sequence).1 mev (calls mev sequence).2 := by
  induction sequence using List.reverseRecOn with
  | nil => exact follows_fresh mev
  | append_singleton sequence next ih =>
    rw [calls_concat]
    exact ih.call fits next

theorem stopLossSnapshot_isSome (guard : ExecutionGuard) (now : Instant) :
    (guard.stopLossSnapshot now).1.isSome = true ↔ ∃ deadline, guard.frozenUntil = some deadline ∧ now < deadline := by
  unfold stopLossSnapshot
  cases guard.frozenUntil with
  | none => simp
  | some deadline =>
    by_cases ended : deadline ≤ now
    · simp [ended]
    · simp [ended, lt_of_not_ge ended]

/-- After every sequence of calls a snapshot stops the engine exactly when the last result was a non-win whose
freeze is not over yet, and the non-wins since the last reset reach the threshold. -/
theorem stopLossSnapshot_exact {mev : MevConfig} (fits : mev.stopLossConsecutiveLosses ≤ u32Max)
    (sequence : List GuardCall) (now : Instant) :
    ((calls mev sequence).1.stopLossSnapshot now).1.isSome = true ↔
      (∃ time, lastLoss (calls mev sequence).2 = some time ∧ now < time + mev.stopLossFreezeSecs * nanosPerSec) ∧
      max 1 mev.stopLossConsecutiveLosses ≤ lossesSinceReset (calls mev sequence).2 := by
  have follows := calls_follows fits sequence
  rw [stopLossSnapshot_isSome, follows.deadline]
  by_cases reached : mev.stopLossThreshold ≤ lossesSinceReset (calls mev sequence).2
  · rw [if_pos reached]
    constructor
    · rintro ⟨deadline, armed, before⟩
      obtain ⟨time, last, rfl⟩ := Option.map_eq_some_iff.mp armed
      exact ⟨⟨time, last, before⟩, reached⟩
    · rintro ⟨⟨time, last, before⟩, _⟩
      exact ⟨_, by rw [last]; rfl, before⟩
  · rw [if_neg reached]
    constructor
    · rintro ⟨deadline, armed, _⟩
      exact absurd armed (by simp)
    · rintro ⟨_, enough⟩
      exact absurd enough reached

theorem stopLossSnapshot_exact_three_losses :
    let loss (now : Instant) := GuardCall.recordResult now ⟨0, 21000, false⟩ none none none
    let sequence := [loss 1, loss 2, .stopLossSnapshot 3, loss 4]
    ((calls testConfig.mev sequence).1.stopLossSnapshot 5).1.isSome = true :=
  (stopLossSnapshot_exact (by decide) _ 5).mpr ⟨⟨4, by decide +kernel, by decide⟩, by decide +kernel⟩

end ExecutionGuard

end ArbitrageRuntime
