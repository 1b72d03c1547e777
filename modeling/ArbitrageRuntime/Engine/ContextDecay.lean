import ArbitrageRuntime.Lib.ElapsedWindows
import ArbitrageRuntime.Lib.SilentSteps
import ArbitrageRuntime.Engine.StopLoss

namespace ArbitrageRuntime

open ElapsedWindows

/-- The window in which a quiet context forgets a loss. -/
def contextDecayWindow (baseFreezeSecs : Nat) : Nat := nanosPerSec * max (baseFreezeSecs / 2) 30

/-- The losses that a decay forgets: the whole windows as a machine word, and at least one when there is a window. -/
def contextDecaySteps (baseFreezeSecs : Nat) (start now : Instant) : Nat :=
  let windows := elapsed (contextDecayWindow baseFreezeSecs) start now
  if windows = 0 then 0 else max (windows % 2 ^ 32) 1

theorem decayContextGuard_eq {state : ContextExecutionGuard} {last : Instant} (event : state.lastEventAt = some last)
    (now : Instant) (baseFreezeSecs : Nat) :
    decayContextGuard state now baseFreezeSecs =
      if contextDecaySteps baseFreezeSecs last now = 0 ∨ state.consecutiveLosses = 0 then state
      else
        { state with
          consecutiveLosses := state.consecutiveLosses - contextDecaySteps baseFreezeSecs last now
          lastEventAt := some now
          regimePressureEwma := state.regimePressureEwma * (88 / 100) ^ contextDecaySteps baseFreezeSecs last now } := by
  have positive : 0 < max (baseFreezeSecs / 2) 30 := by omega
  have windows : secsSince now last / max (baseFreezeSecs / 2) 30 =
      elapsed (contextDecayWindow baseFreezeSecs) last now := by
    rw [secsSince, Nat.div_div_eq_div_mul]
    rfl
  have quiet : secsSince now last < max (baseFreezeSecs / 2) 30 ↔
      elapsed (contextDecayWindow baseFreezeSecs) last now = 0 := by
    rw [← windows, Nat.div_eq_zero_iff]
    omega
  unfold decayContextGuard
  rw [event]
  dsimp only
  rw [windows]
  by_cases none : elapsed (contextDecayWindow baseFreezeSecs) last now = 0
  · have still : contextDecaySteps baseFreezeSecs last now = 0 := if_pos none
    rw [if_pos (Or.inl (quiet.mpr none)), if_pos (Or.inl still)]
  · have steps : contextDecaySteps baseFreezeSecs last now =
        max (elapsed (contextDecayWindow baseFreezeSecs) last now % 2 ^ 32) 1 := if_neg none
    have moves : contextDecaySteps baseFreezeSecs last now ≠ 0 := by omega
    simp only [quiet, none, moves, false_or]
    rw [steps]

theorem decayContextGuard_noEvent {state : ContextExecutionGuard} (event : state.lastEventAt = none) (now : Instant)
    (baseFreezeSecs : Nat) : decayContextGuard state now baseFreezeSecs = state := by
  simp only [decayContextGuard, event]

/-- A poll that is not seen later: the freeze is not over, and the decay finds no whole window, no loss, or nothing but
whole windows and more losses than windows. -/
def HarmlessPoll (baseFreezeSecs : Nat) (state : ContextExecutionGuard) (now : Instant) : Prop :=
  (∀ deadline, state.frozenUntil = some deadline → now < deadline) ∧
    ∀ last, state.lastEventAt = some last →
      elapsed (contextDecayWindow baseFreezeSecs) last now = 0 ∨ state.consecutiveLosses = 0 ∨
        elapsed (contextDecayWindow baseFreezeSecs) last now < state.consecutiveLosses ∧
          now = last + elapsed (contextDecayWindow baseFreezeSecs) last now * contextDecayWindow baseFreezeSecs

/-- Two contexts with the same freeze that every decay up to a time makes the same. -/
structure SameDecay (baseFreezeSecs : Nat) (now last : Instant) (polled unpolled : ContextExecutionGuard) : Prop where
  frozenUntil : polled.frozenUntil = unpolled.frozenUntil
  losing : 0 < polled.consecutiveLosses ↔ 0 < unpolled.consecutiveLosses
  decays : ∀ later, now ≤ later → later ≤ last →
    (decayContextGuard polled later baseFreezeSecs).consecutiveLosses =
        (decayContextGuard unpolled later baseFreezeSecs).consecutiveLosses ∧
      (decayContextGuard polled later baseFreezeSecs).regimePressureEwma =
        (decayContextGuard unpolled later baseFreezeSecs).regimePressureEwma

section Polls

variable {baseFreezeSecs : Nat} {now later last : Instant} {state polled unpolled : ContextExecutionGuard}

theorem SameDecay.refl (state : ContextExecutionGuard) : SameDecay baseFreezeSecs now last state state :=
  ⟨rfl, Iff.rfl, fun _ _ _ => ⟨rfl, rfl⟩⟩

theorem SameDecay.mono (same : SameDecay baseFreezeSecs now last polled unpolled) (order : now ≤ later) :
    SameDecay baseFreezeSecs later last polled unpolled :=
  { same with decays := fun time first => same.decays time (order.trans first) }

theorem contextDecayWindow_pos (baseFreezeSecs : Nat) : 0 < contextDecayWindow baseFreezeSecs := by
  unfold contextDecayWindow nanosPerSec
  omega

/-- Within `2 ^ 32` windows the steps are the windows. -/
theorem contextDecaySteps_eq (start : Instant) (early : now < 2 ^ 32 * contextDecayWindow baseFreezeSecs) :
    contextDecaySteps baseFreezeSecs start now = elapsed (contextDecayWindow baseFreezeSecs) start now := by
  have word : elapsed (contextDecayWindow baseFreezeSecs) start now < 2 ^ 32 :=
    elapsed_lt (contextDecayWindow_pos baseFreezeSecs) early
  unfold contextDecaySteps
  dsimp only
  rw [Nat.mod_eq_of_lt word]
  split
  · omega
  · omega

/-- A harmless poll leaves the context alone, or takes the whole windows off the losses and moves the last event by
them. -/
theorem HarmlessPoll.cases (harmless : HarmlessPoll baseFreezeSecs state now)
    (early : now < 2 ^ 32 * contextDecayWindow baseFreezeSecs) :
    decayContextGuard state now baseFreezeSecs = state ∨
      ∃ event windows, state.lastEventAt = some event ∧
        windows = elapsed (contextDecayWindow baseFreezeSecs) event now ∧ windows < state.consecutiveLosses ∧
        decayContextGuard state now baseFreezeSecs =
          { state with
            consecutiveLosses := state.consecutiveLosses - windows
            lastEventAt := some (event + windows * contextDecayWindow baseFreezeSecs)
            regimePressureEwma := state.regimePressureEwma * (88 / 100) ^ windows } := by
  cases event : state.lastEventAt with
  | none => exact Or.inl (decayContextGuard_noEvent event now baseFreezeSecs)
  | some start =>
    rw [decayContextGuard_eq event, contextDecaySteps_eq start early]
    rcases harmless.2 start event with none | lossless | ⟨left, whole⟩
    · exact Or.inl (if_pos (Or.inl none))
    · exact Or.inl (if_pos (Or.inr lossless))
    · split
      · exact Or.inl rfl
      · refine Or.inr ⟨start, _, rfl, rfl, left, ?_⟩
        rw [← whole]

/-- What a decay after a harmless poll finds is what it finds without the poll. -/
theorem HarmlessPoll.unseen (harmless : HarmlessPoll baseFreezeSecs state now) (order : now ≤ later)
    (early : later < 2 ^ 32 * contextDecayWindow baseFreezeSecs) :
    (decayContextGuard (decayContextGuard state now baseFreezeSecs) later baseFreezeSecs).consecutiveLosses =
        (decayContextGuard state later baseFreezeSecs).consecutiveLosses ∧
      (decayContextGuard (decayContextGuard state now baseFreezeSecs) later baseFreezeSecs).regimePressureEwma =
        (decayContextGuard state later baseFreezeSecs).regimePressureEwma := by
  rcases harmless.cases (order.trans_lt early) with same | ⟨start, windows, event, counted, left, moved⟩
  · rw [same]
    exact ⟨rfl, rfl⟩
  · have passed : windows ≤ elapsed (contextDecayWindow baseFreezeSecs) start later := counted ▸ elapsed_mono order
    have rest := elapsed_advance passed
    rw [moved, decayContextGuard_eq rfl, decayContextGuard_eq event, contextDecaySteps_eq _ early,
      contextDecaySteps_eq _ early, rest]
    generalize elapsed (contextDecayWindow baseFreezeSecs) start later = whole at passed
    have remains : ¬ state.consecutiveLosses - windows = 0 := by omega
    have losing : ¬ state.consecutiveLosses = 0 := by omega
    simp only [remains, losing, or_false]
    rcases Nat.eq_or_lt_of_le passed with same | more
    · subst same
      by_cases none : windows = 0
      · simp [none]
      · simp [none]
    · have later : ¬ whole - windows = 0 := by omega
      have some : ¬ whole = 0 := by omega
      rw [if_neg later, if_neg some]
      dsimp only
      refine ⟨by omega, ?_⟩
      rw [mul_assoc, ← pow_add, Nat.add_sub_of_le passed]

/-- A harmless poll of one side. -/
theorem SameDecay.poll (same : SameDecay baseFreezeSecs now last polled unpolled)
    (harmless : HarmlessPoll baseFreezeSecs polled now) (order : now ≤ last)
    (early : last < 2 ^ 32 * contextDecayWindow baseFreezeSecs) :
    SameDecay baseFreezeSecs now last (decayContextGuard polled now baseFreezeSecs) unpolled where
  frozenUntil := by rw [frozenUntil_decayContextGuard, same.frozenUntil]
  losing := by
    rw [← same.losing]
    rcases harmless.cases (order.trans_lt early) with still | ⟨start, windows, _, _, left, moved⟩
    · rw [still]
    · rw [moved]
      dsimp only
      omega
  decays := by
    intro later first fits
    obtain ⟨losses, pressure⟩ := harmless.unseen first (fits.trans_lt early)
    obtain ⟨losses', pressure'⟩ := same.decays later first fits
    exact ⟨losses.trans losses', pressure.trans pressure'⟩

/-- A result finds the same context on both sides and leaves the same one. -/
theorem SameDecay.record {mev : MevConfig}
    (same : SameDecay (max mev.contextStopLossFreezeSecs 1) now last polled unpolled)
    (order : now ≤ last) (result : ExecutionResult) (priority toxicity : ℚ) :
    recordContextResult mev now result priority toxicity polled =
      recordContextResult mev now result priority toxicity unpolled := by
  obtain ⟨losses, pressure⟩ := same.decays now le_rfl order
  have freeze : (decayContextGuard polled now (max mev.contextStopLossFreezeSecs 1)).frozenUntil =
      (decayContextGuard unpolled now (max mev.contextStopLossFreezeSecs 1)).frozenUntil := by
    rw [frozenUntil_decayContextGuard, frozenUntil_decayContextGuard, same.frozenUntil]
  unfold recordContextResult
  simp only [losses, pressure, freeze]

end Polls

/-- A call on the execution guard, or a look at one context. -/
inductive ContextCall
  | poll (now : Instant) (key : ContextFreezeKey)
  | call (next : GuardCall)

def GuardCall.time : GuardCall → Instant
  | .recordResult now _ _ _ _ => now
  | .stopLossSnapshot now => now

def ContextCall.time : ContextCall → Instant
  | .poll now _ => now
  | .call next => next.time

namespace ExecutionGuard

/-- The decay base of the configured contexts. -/
def decayBase (mev : MevConfig) : Nat := max mev.contextStopLossFreezeSecs 1

/-- Every poll of the call is harmless. -/
def HarmlessCall (mev : MevConfig) (guard : ExecutionGuard) (next : ContextCall) : Prop :=
  ∀ now key state, next = .poll now key → guard.contextGuards key = some state →
    HarmlessPoll (decayBase mev) state now

/-- Two guards that agree on all contexts from a time on. -/
def SameContexts (mev : MevConfig) (last now : Instant) (polled unpolled : ExecutionGuard) : Prop :=
  ∀ key, Option.Rel (SameDecay (decayBase mev) now last) (polled.contextGuards key) (unpolled.contextGuards key)

variable {mev : MevConfig} {guard polled unpolled : ExecutionGuard} {now last : Instant}

theorem contextGuards_poll {key : ContextFreezeKey} (harmless : HarmlessCall mev guard (.poll now key)) :
    (guard.contextStopLossSnapshot mev now key).2.contextGuards =
      Function.update guard.contextGuards key
        ((guard.contextGuards key).map fun state => decayContextGuard state now (decayBase mev)) := by
  unfold contextStopLossSnapshot
  cases present : guard.contextGuards key with
  | none =>
    have still : Function.update guard.contextGuards key none = guard.contextGuards :=
      present ▸ Function.update_eq_self key guard.contextGuards
    rw [Option.map_none, still]
  | some found =>
    simp only [frozenUntil_decayContextGuard, Option.map_some]
    cases freeze : found.frozenUntil with
    | none => rfl
    | some deadline =>
      have running := (harmless now key found rfl present).1 deadline freeze
      simp only [if_neg (not_le.mpr running)]
      rfl

theorem SameContexts.poll (same : SameContexts mev last now polled unpolled) {key : ContextFreezeKey}
    (harmless : HarmlessCall mev polled (.poll now key)) (order : now ≤ last)
    (early : last < 2 ^ 32 * contextDecayWindow (decayBase mev)) :
    SameContexts mev last now (polled.contextStopLossSnapshot mev now key).2 unpolled := by
  intro other
  rw [contextGuards_poll harmless]
  by_cases here : other = key
  · subst here
    rw [Function.update_self]
    have related := same other
    cases found : polled.contextGuards other with
    | none =>
      rw [found] at related
      exact related
    | some state =>
      rw [found] at related
      cases absent : unpolled.contextGuards other with
      | none =>
        rw [absent] at related
        exact nomatch related
      | some state' =>
        rw [absent] at related
        cases related with
        | some both => exact .some (both.poll (harmless now other state rfl found) order early)
  · rw [Function.update_of_ne here]
    exact same other

theorem rel_filter {α : Type} {related : α → α → Prop} {keeps : α → Bool} {a b : α} (both : related a b)
    (same : keeps a = keeps b) : Option.Rel related ((some a).filter keeps) ((some b).filter keeps) := by
  rw [Option.filter_some, Option.filter_some, same]
  split
  · exact .some both
  · exact .none

/-- Pruning keeps and drops the same contexts. -/
theorem rel_pruneContextGuards {contexts contexts' : ContextFreezeKey → Option ContextExecutionGuard}
    (same : ∀ key, Option.Rel (SameDecay (decayBase mev) now last) (contexts key) (contexts' key))
    (key : ContextFreezeKey) :
    Option.Rel (SameDecay (decayBase mev) now last) (pruneContextGuards now contexts key)
      (pruneContextGuards now contexts' key) := by
  have related := same key
  unfold pruneContextGuards
  cases found : contexts key with
  | none =>
    cases found' : contexts' key with
    | none => exact .none
    | some state' =>
      rw [found, found'] at related
      exact nomatch related
  | some state =>
    cases found' : contexts' key with
    | none =>
      rw [found, found'] at related
      exact nomatch related
    | some state' =>
      rw [found, found'] at related
      cases related with
      | some both =>
        have losing : decide (0 < state.consecutiveLosses) = decide (0 < state'.consecutiveLosses) :=
          decide_eq_decide.mpr both.losing
        exact rel_filter both (by simp only [both.frozenUntil, losing])

theorem contextGuards_stopLossSnapshot (guard : ExecutionGuard) (now : Instant) :
    (guard.stopLossSnapshot now).2.contextGuards = guard.contextGuards := by
  unfold stopLossSnapshot
  cases guard.frozenUntil with
  | none => rfl
  | some deadline =>
    dsimp only
    split
    · rfl
    · rfl

theorem contextGuards_recordGlobalResult (guard : ExecutionGuard) (mev : MevConfig) (now : Instant)
    (result : ExecutionResult) : (guard.recordGlobalResult mev now result).contextGuards = guard.contextGuards := by
  unfold recordGlobalResult
  dsimp only
  split
  · rfl
  · rfl

theorem SameContexts.recordResult (same : SameContexts mev last now polled unpolled) (order : now ≤ last)
    (result : ExecutionResult) (context : Option ContextFreezeKey) (priority toxicity : Option ℚ) :
    SameContexts mev last now (polled.recordResult mev now result context priority toxicity)
      (unpolled.recordResult mev now result context priority toxicity) := by
  refine rel_pruneContextGuards fun key => ?_
  rw [contextGuards_recordGlobalResult, contextGuards_recordGlobalResult]
  cases context with
  | none => exact same key
  | some context =>
    dsimp only
    by_cases here : key = context
    · subst here
      have counted : ∀ {a b : Option ContextExecutionGuard}, Option.Rel (SameDecay (decayBase mev) now last) a b →
          recordContextResult mev now result (priority.getD (1 / 2)) (toxicity.getD (1 / 2)) (a.getD .fresh) =
            recordContextResult mev now result (priority.getD (1 / 2)) (toxicity.getD (1 / 2)) (b.getD .fresh) := by
        intro a b related
        cases related with
        | none => rfl
        | some both => exact both.record order result _ _
      rw [Function.update_self, Function.update_self, counted (same key)]
      exact .some (.refl _)
    · rw [Function.update_of_ne here, Function.update_of_ne here]
      exact same key

theorem SameContexts.call (same : SameContexts mev last now polled unpolled) {next : GuardCall} (time : next.time = now)
    (order : now ≤ last) : SameContexts mev last now (polled.call mev next) (unpolled.call mev next) := by
  subst time
  cases next with
  | recordResult now result context priority toxicity => exact same.recordResult order result context priority toxicity
  | stopLossSnapshot now =>
    intro key
    have related := same key
    rwa [← contextGuards_stopLossSnapshot polled now, ← contextGuards_stopLossSnapshot unpolled now] at related

theorem SameContexts.mono {later : Instant} (order : now ≤ later) (same : SameContexts mev last now polled unpolled) :
    SameContexts mev last later polled unpolled := by
  intro key
  have related := same key
  generalize polled.contextGuards key = a at related ⊢
  generalize unpolled.contextGuards key = b at related ⊢
  cases related with
  | none => exact .none
  | some both => exact .some (both.mono order)

def sampleContext : ContextFreezeKey := { pair := 5, router := 6, submitPath := "v2@alchemy-1" }

end ExecutionGuard

end ArbitrageRuntime
