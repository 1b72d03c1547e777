import ArbitrageRuntime.Replay.Cases

namespace ArbitrageRuntime.Replay

/-- What the tuning reads off a run: labels, misses and rows. -/
@[ext]
structure Tally where
  total : Nat
  labelled : Nat
  falseNegative : Nat
  rows : List ReplayDecisionRow
  poisoned : Bool

def ReplayState.tally (state : ReplayState) : Tally where
  total := state.report.total
  labelled := state.report.labelled
  falseNegative := state.report.falseNegative
  rows := state.decisionRows
  poisoned := state.adaptive.poisoned

/-- The tally after a case that is dropped without a label. -/
def Tally.skip (tally : Tally) : Tally := { tally with total := tally.total + 1 }

/-- The transaction of the case decodes to a relevant swap and offers a gas price. -/
def ReplaySettings.isCounted (settings : ReplaySettings) (index : Nat) (case : ReplayInputCase) : Bool :=
  match replayTransaction settings.reader case index with
  | .error _ => false
  | .ok tx =>
    match settings.decodeSwap tx with
    | .gives _ => tx.offeredGasPrice ≠ 0
    | _ => false

namespace ReplaySettings

variable (settings : ReplaySettings)

def passesQuote (readings : CaseReadings) (adaptive : Adaptive.SharedAdaptivePolicy) (decoded : DecodedCase)
    (payload : ExecutionPayload) : Bool :=
  match adaptive.lock with
  | none => false
  | some model =>
    shouldExecuteWithTuning (model.quoteForRelays settings.curves readings.quoteAt
      (settings.quoteInput decoded payload) settings.relayPaths).2 settings.tuning

def passesPayload (readings : CaseReadings) (adaptive : Adaptive.SharedAdaptivePolicy) (decoded : DecodedCase)
    (payload : ExecutionPayload) : Bool :=
  passesEvGate settings.config.toPricedConfig payload decoded.signal (asU64 ⌊decoded.lookupLatencyMs⌋)
      settings.minProfitWei &&
    passesQualityGate settings.config.toPricedConfig payload (settings.executionCostWei payload decoded.gasPrice) &&
    settings.passesQuote readings adaptive decoded payload

def passesPreflight (readings : CaseReadings) (adaptive : Adaptive.SharedAdaptivePolicy) (decoded : DecodedCase) :
    Bool :=
  match adaptive.lock with
  | none => false
  | some model =>
    let scored := ((model.observeLookupLatency decoded.lookupLatencyMs).observeCandidateFlow readings.flowAt
      decoded.signal.cluster decoded.signal.notionalWei decoded.gasPrice).preflightScore settings.curves
      readings.preflightAt (preflightInput decoded)
    scored.2.shouldContinue &&
      match readings.view.buildPayload settings.config decoded.signal decoded.gasPrice decoded.contextSignal with
      | .error _ => false
      | .ok payload => settings.passesPayload readings { adaptive with value := scored.1 } decoded payload

/-- No gate of the replay turns the case away. -/
def passesGates (index : Nat) (readings : CaseReadings) (adaptive : Adaptive.SharedAdaptivePolicy)
    (case : ReplayInputCase) : Bool :=
  match replayTransaction settings.reader case index with
  | .error _ => false
  | .ok tx =>
    match settings.decodeSwap tx with
    | .gives signal =>
      let decoded := settings.decodedCase readings adaptive case tx signal
      tx.offeredGasPrice ≠ 0 &&
        (fastPreflightGate signal decoded.gasPrice settings.minLargeSwapWei settings.config.toPricedConfig
          decoded.contextSignal).shouldContinue &&
        settings.passesPreflight readings adaptive decoded
    | _ => false

end ReplaySettings

namespace ReplayState

/-- The stages have only noted how far a case has come: no label, no row, and the lock as it was. -/
structure Noted (executed : Nat) (before after : ReplayState) : Prop where
  tally : after.tally = before.tally
  executeCandidates : after.report.executeCandidates = before.report.executeCandidates + executed

theorem Noted.trans {executed : Nat} {before between after : ReplayState} (first : Noted 0 before between)
    (second : Noted executed between after) : Noted executed before after where
  tally := second.tally.trans first.tally
  executeCandidates := by
    have earlier := first.executeCandidates
    have later := second.executeCandidates
    omega

/-- How the stages end a case: one of them turns it away, or finds the lock of the policy poisoned, or it is
executed. -/
inductive Verdict (decoded : DecodedCase) (before : ReplayState) : Bool → ReplayState → Prop
  | reject {last gasLimit key stage reason} :
      Noted 0 before last → Verdict decoded before false (last.reject decoded gasLimit key stage reason)
  | locked {last key} :
      Noted 0 before last → before.adaptive.poisoned = true → Verdict decoded before false (last.bump key)
  | execute {last payload quote} :
      Noted 1 before last → Verdict decoded before true (last.execute decoded payload quote)

theorem Verdict.of_noted {decoded : DecodedCase} {before between after : ReplayState} {passes : Bool}
    (verdict : Verdict decoded between passes after) (noted : Noted 0 before between) :
    Verdict decoded before passes after := by
  cases verdict with
  | reject later => exact .reject (noted.trans later)
  | locked later poisoned => exact .locked (noted.trans later) ((congrArg Tally.poisoned noted.tally).symm.trans poisoned)
  | execute later => exact .execute (noted.trans later)

end ReplayState

open ReplayState (Noted Verdict)

namespace ReplaySettings

variable {settings : ReplaySettings} {readings : CaseReadings} {state after : ReplayState} {decoded : DecodedCase}
  {payload : ExecutionPayload}

theorem tally_replayFork {report next : ReplayReport} (ran : settings.replayFork readings report = .ok next) :
    next.total = report.total ∧ next.labelled = report.labelled ∧ next.falseNegative = report.falseNegative ∧
      next.executeCandidates = report.executeCandidates := by
  unfold replayFork at ran
  split at ran
  · dsimp only at ran
    split at ran
    · split at ran
      · exact absurd ran (by simp)
      · cases Except.ok.inj ran
        split
        · exact ⟨rfl, rfl, rfl, rfl⟩
        · exact ⟨rfl, rfl, rfl, rfl⟩
    · split at ran
      · exact absurd ran (by simp)
      · cases Except.ok.inj ran
        exact ⟨rfl, rfl, rfl, rfl⟩
  · cases Except.ok.inj ran
    exact ⟨rfl, rfl, rfl, rfl⟩

theorem verdict_replayQuote (ran : settings.replayQuote readings state decoded payload = .ok after) :
    Verdict decoded state (settings.passesQuote readings state.adaptive decoded payload) after := by
  unfold replayQuote at ran
  unfold passesQuote
  cases lock : state.adaptive.lock with
  | none =>
    rw [lock] at ran
    cases Except.ok.inj ran
    exact .locked ⟨rfl, rfl⟩ (Mutex.poisoned_of_lock lock)
  | some model =>
    rw [lock] at ran
    dsimp only at ran ⊢
    split at ran
    · rename_i refused
      cases Except.ok.inj ran
      rw [refused]
      exact .reject ⟨rfl, rfl⟩
    · rename_i passes
      rw [Bool.not_eq_false] at passes
      rw [passes]
      split at ran
      · exact absurd ran (by simp)
      · rename_i forked
        cases Except.ok.inj ran
        obtain ⟨total, labelled, falseNegative, executeCandidates⟩ := tally_replayFork forked
        exact .execute ⟨Tally.ext total labelled falseNegative rfl rfl, executeCandidates⟩

theorem verdict_replayPayload (ran : settings.replayPayload readings state decoded payload = .ok after) :
    Verdict decoded state (settings.passesPayload readings state.adaptive decoded payload) after := by
  unfold replayPayload at ran
  unfold passesPayload
  dsimp only at ran
  split at ran
  · rename_i refused
    cases Except.ok.inj ran
    rw [refused]
    exact .reject ⟨rfl, rfl⟩
  rename_i worth
  rw [Bool.not_eq_false] at worth
  split at ran
  · rename_i refused
    cases Except.ok.inj ran
    rw [worth, refused]
    exact .reject ⟨rfl, rfl⟩
  · rename_i good
    rw [Bool.not_eq_false] at good
    rw [worth, good, Bool.true_and, Bool.true_and]
    exact (verdict_replayQuote ran).of_noted ⟨rfl, rfl⟩

theorem verdict_replayPreflight (ran : settings.replayPreflight readings state decoded = .ok after) :
    Verdict decoded state (settings.passesPreflight readings state.adaptive decoded) after := by
  unfold replayPreflight at ran
  unfold passesPreflight
  cases lock : state.adaptive.lock with
  | none =>
    rw [lock] at ran
    cases Except.ok.inj ran
    exact .locked ⟨rfl, rfl⟩ (Mutex.poisoned_of_lock lock)
  | some model =>
    rw [lock] at ran
    dsimp only at ran ⊢
    split at ran
    · rename_i refused
      cases Except.ok.inj ran
      rw [refused]
      exact .reject ⟨rfl, rfl⟩
    rename_i continues
    rw [Bool.not_eq_false] at continues
    rw [continues, Bool.true_and]
    cases built : readings.view.buildPayload settings.config decoded.signal decoded.gasPrice decoded.contextSignal with
    | error stop =>
      rw [built] at ran
      dsimp only at ran ⊢
      split at ran
      · exact absurd ran (by simp)
      · cases Except.ok.inj ran
        exact .reject ⟨rfl, rfl⟩
    | ok payload =>
      rw [built] at ran
      exact (verdict_replayPayload ran).of_noted ⟨rfl, rfl⟩

theorem verdict_replayFastPreflight (ran : settings.replayFastPreflight readings state decoded = .ok after) :
    Verdict decoded state
      ((fastPreflightGate decoded.signal decoded.gasPrice settings.minLargeSwapWei settings.config.toPricedConfig
        decoded.contextSignal).shouldContinue && settings.passesPreflight readings state.adaptive decoded) after := by
  unfold replayFastPreflight at ran
  dsimp only at ran
  split at ran
  · rename_i refused
    cases Except.ok.inj ran
    rw [refused]
    exact .reject ⟨rfl, rfl⟩
  · rename_i continues
    rw [Bool.not_eq_false] at continues
    rw [continues, Bool.true_and]
    exact (verdict_replayPreflight ran).of_noted ⟨rfl, rfl⟩

/-- One case: it is dropped, or the stages end it as its gates say. -/
theorem replayCase_ends {index : Nat} {case : ReplayInputCase}
    (ran : settings.replayCase index readings state case = .ok after) :
    (settings.isCounted index case = false ∧ settings.passesGates index readings state.adaptive case = false ∧
        after.tally = state.tally.skip ∧ after.report.executeCandidates = state.report.executeCandidates) ∨
      settings.isCounted index case = true ∧ ∃ decoded entered, decoded.case = case ∧
        ReplayState.tally entered = state.tally.skip ∧
        entered.report.executeCandidates = state.report.executeCandidates ∧
        Verdict decoded entered (settings.passesGates index readings state.adaptive case) after := by
  unfold replayCase at ran
  unfold passesGates isCounted
  cases read : replayTransaction settings.reader case index with
  | error defect =>
    rw [read] at ran
    exact absurd ran (by simp)
  | ok tx =>
    rw [read] at ran
    dsimp only at ran ⊢
    cases decodes : settings.decodeSwap tx with
    | fails panic =>
      rw [decodes] at ran
      exact absurd ran (by simp)
    | declines =>
      rw [decodes] at ran
      cases Except.ok.inj ran
      exact .inl ⟨rfl, rfl, rfl, rfl⟩
    | gives signal =>
      rw [decodes] at ran
      dsimp only at ran ⊢
      split at ran
      · rename_i free
        cases Except.ok.inj ran
        simp only [free, ne_eq, not_true_eq_false, decide_false, Bool.false_and, true_and]
        exact .inl ⟨rfl, rfl⟩
      · rename_i priced
        simp only [ne_eq, priced, not_false_eq_true, decide_true, Bool.true_and]
        refine .inr ⟨trivial, _, _, ?_, ?_, ?_, verdict_replayFastPreflight ran⟩
        · rfl
        · rfl
        · rfl

end ReplaySettings

end ArbitrageRuntime.Replay
