import ArbitrageRuntime.Engine.Handle

namespace ArbitrageRuntime

/-- A context as the engine sees it: a poisoned guard freezes nothing. -/
def ContextFrozen (guard : Mutex ExecutionGuard) (now : Instant) (key : ContextFreezeKey) : Prop :=
  guard.poisoned = false ∧ guard.value.Frozen now key

instance (guard : Mutex ExecutionGuard) (now : Instant) (key : ContextFreezeKey) :
    Decidable (ContextFrozen guard now key) := inferInstanceAs (Decidable (_ ∧ _))

/-- The paths whose context is not frozen when they are looked at. -/
def openPaths (guard : Mutex ExecutionGuard) (key : String → ContextFreezeKey) (checkAt : Nat → Instant) :
    Nat → List RelayQuote → List RelayQuote
  | _, [] => []
  | i, quote :: rest =>
    if ContextFrozen guard (checkAt i) (key quote.relay) then openPaths guard key checkAt (i + 1) rest
    else quote :: openPaths guard key checkAt (i + 1) rest

theorem openPaths_congr {guard guard' : Mutex ExecutionGuard} {key : String → ContextFreezeKey}
    {checkAt : Nat → Instant} (i : Nat) (paths : List RelayQuote)
    (agree : ∀ j, i ≤ j → ∀ k, ContextFrozen guard (checkAt j) k ↔ ContextFrozen guard' (checkAt j) k) :
    openPaths guard key checkAt i paths = openPaths guard' key checkAt i paths := by
  induction paths generalizing i with
  | nil => rfl
  | cons quote rest ih =>
    have tail := ih (i + 1) fun j later => agree j (by omega)
    by_cases frozen : ContextFrozen guard (checkAt i) (key quote.relay)
    · have frozen' := (agree i le_rfl _).mp frozen
      simp only [openPaths, frozen, frozen', if_true, tail]
    · have open' := fun frozen' => frozen ((agree i le_rfl _).mpr frozen')
      simp only [openPaths, if_neg frozen, if_neg open', tail]

/-- The looks at the guard change none of their answers, because time goes forward. -/
theorem retainUnfrozen_eq {mev : MevConfig} {key : String → ContextFreezeKey} {checkAt : Nat → Instant}
    (mono : Monotone checkAt) (i : Nat) (paths : List RelayQuote) (guard : ExecutionGuard) :
    (retainUnfrozen mev key checkAt i paths guard).1 =
        openPaths { value := guard, poisoned := false } key checkAt i paths ∧
      ∀ later, (∀ j, checkAt j ≤ later) → ∀ k,
        (retainUnfrozen mev key checkAt i paths guard).2.Frozen later k ↔ guard.Frozen later k := by
  induction paths generalizing i guard with
  | nil => exact ⟨rfl, fun _ _ _ => Iff.rfl⟩
  | cons quote rest ih =>
    let observed := guard.contextStopLossSnapshot mev (checkAt i) (key quote.relay)
    have looked : ∀ later, checkAt i ≤ later → ∀ k, observed.2.Frozen later k ↔ guard.Frozen later k :=
      fun _ order k => ExecutionGuard.frozen_contextStopLossSnapshot order (key quote.relay) k
    have answered : observed.1.isSome = true ↔ guard.Frozen (checkAt i) (key quote.relay) :=
      ExecutionGuard.contextStopLossSnapshot_isSome
    obtain ⟨kept, after⟩ := ih (i + 1) observed.2
    have tail : (retainUnfrozen mev key checkAt (i + 1) rest observed.2).1 =
        openPaths { value := guard, poisoned := false } key checkAt (i + 1) rest := by
      rw [kept]
      exact openPaths_congr (i + 1) rest fun j later k =>
        and_congr_right fun _ => looked _ (mono (Nat.le_of_succ_le later)) k
    constructor
    · by_cases frozen : guard.Frozen (checkAt i) (key quote.relay)
      · have some := answered.mpr frozen
        have seen : ContextFrozen { value := guard, poisoned := false } (checkAt i) (key quote.relay) := ⟨rfl, frozen⟩
        simp only [openPaths, if_pos seen, ← tail]
        exact if_neg fun none => Option.isSome_iff_ne_none.mp some (Option.isNone_iff_eq_none.mp none)
      · have none := fun some => frozen (answered.mp some)
        have unseen : ¬ ContextFrozen { value := guard, poisoned := false } (checkAt i) (key quote.relay) :=
          fun seen => frozen seen.2
        simp only [openPaths, if_neg unseen, ← tail]
        exact if_pos (by simpa using none)
    · intro later past k
      exact (after later past k).trans (looked later (past i) k)

/-- The ranked paths of a call that are not frozen when it looks at them. -/
def openSubmitPaths (config : Config) (outside : Outside) (order : Order) (guard : Mutex ExecutionGuard) :
    List RelayQuote :=
  openPaths guard order.freezeKey outside.checkAt 0 (rankedSubmitPaths config outside order)

theorem openPaths_poisoned (guard : ExecutionGuard) (key : String → ContextFreezeKey) (checkAt : Nat → Instant)
    (i : Nat) (paths : List RelayQuote) : openPaths { value := guard, poisoned := true } key checkAt i paths = paths := by
  induction paths generalizing i with
  | nil => rfl
  | cons quote rest ih => simp [openPaths, ContextFrozen, ih]

/-- The contextual stop-loss check of a call: it keeps the open paths, leaves the budget alone and, at any
later time, the contexts as frozen as they were. -/
theorem Engine.retainUnfrozen_eq (engine : Engine) (config : Config) (outside : Outside) (order : Order) :
    let retained := engine.retainUnfrozen config.mev outside order (rankedSubmitPaths config outside order)
    retained.1 = openSubmitPaths config outside order engine.executionGuard ∧
      retained.2.capitalBudget = engine.capitalBudget ∧
      ∀ later, (∀ j, outside.checkAt j ≤ later) → ∀ key,
        ContextFrozen retained.2.executionGuard later key ↔ ContextFrozen engine.executionGuard later key := by
  obtain ⟨budget, guard, poisoned⟩ := engine
  cases poisoned with
  | true =>
    have paths := openPaths_poisoned guard order.freezeKey outside.checkAt 0 (rankedSubmitPaths config outside order)
    exact ⟨paths.symm, rfl, fun _ _ _ => Iff.rfl⟩
  | false =>
    obtain ⟨kept, after⟩ := ArbitrageRuntime.retainUnfrozen_eq outside.checkAt_mono 0
      (rankedSubmitPaths config outside order) guard
    exact ⟨kept, rfl, fun later past key => and_congr_right fun _ => after later past key⟩

/-- The call gets past every check and the budget lets it pass. -/
structure Granted (config : Config) (opportunity : MevOpportunity) (outside : Outside) (engine : Engine)
    (order : Order) : Prop where
  prepared : (prepareOrder config opportunity outside engine).1 = .ok order
  allowed : (checkAndReserveBudget engine.capitalBudget config.mev (order.request outside.reserveAt)).1.allowed = true

/-- Some ranked path is not frozen, and the wallet signs. -/
structure CanSubmit (config : Config) (outside : Outside) (order : Order) (guard : Mutex ExecutionGuard) : Prop where
  path : openSubmitPaths config outside order guard ≠ []
  signed : ∃ tx, signExecutorTransaction config outside order (openSubmitPaths config outside order guard).head? = .ok tx

variable {config : Config} {opportunity : MevOpportunity} {outside : Outside} {engine : Engine} {order : Order}

theorem Engine.stopLossSnapshot_keeps (engine : Engine) (now : Instant) :
    (engine.stopLossSnapshot now).2.capitalBudget = engine.capitalBudget ∧
      ∀ time key, ContextFrozen (engine.stopLossSnapshot now).2.executionGuard time key ↔
        ContextFrozen engine.executionGuard time key := by
  obtain ⟨budget, guard, poisoned⟩ := engine
  cases poisoned with
  | true => exact ⟨rfl, fun _ _ => Iff.rfl⟩
  | false =>
    have contexts : (guard.stopLossSnapshot now).2.contextGuards = guard.contextGuards := by
      unfold ExecutionGuard.stopLossSnapshot
      split
      · rfl
      · split
        · rfl
        · rfl
    refine ⟨rfl, fun time key => and_congr_right fun _ => ?_⟩
    simp only [Engine.stopLossSnapshot, Mutex.lock, ExecutionGuard.Frozen, Bool.false_eq_true, if_false, contexts]

/-- The checks before the reservation keep the budget and the contexts. -/
theorem prepareOrder_ok (prepared : (prepareOrder config opportunity outside engine).1 = .ok order) :
    opportunity.executionPayload = some order.payload ∧ order.opportunity = opportunity ∧
      (prepareOrder config opportunity outside engine).2 = (engine.stopLossSnapshot outside.stopLossAt).2 := by
  unfold prepareOrder at prepared ⊢
  split at prepared
  · exact absurd prepared (by simp)
  split at prepared
  · exact absurd prepared (by simp)
  rename_i sends fresh
  simp only [sends, fresh, if_false]
  split at prepared
  · exact absurd prepared (by simp)
  rename_i payload present
  simp only [present]
  dsimp only at prepared
  split at prepared
  · exact absurd prepared (by simp)
  rename_i running
  split at prepared
  · exact absurd prepared (by simp)
  split at prepared
  · exact absurd prepared (by simp)
  split at prepared
  · rename_i passes
    cases Except.ok.inj prepared
    simp [running, passes]
  · exact absurd prepared (by simp)

/-- A call that is not granted does nothing that others can see. -/
theorem handle_refused (refused : ∀ order, ¬ Granted config opportunity outside engine order) :
    (handle config opportunity outside engine).log = [] := by
  unfold handle
  split
  · rfl
  · rename_i order observed prepared
    have ready : (prepareOrder config opportunity outside engine).1 = .ok order := by rw [prepared]
    have kept := (prepareOrder_ok ready).2.2
    rw [prepared] at kept
    have budget := kept ▸ (engine.stopLossSnapshot_keeps outside.stopLossAt).1
    unfold reserveAndSubmit
    dsimp only
    rw [budget]
    split
    · rename_i allowed
      exact absurd ⟨ready, allowed⟩ (refused order)
    · rfl

/-- A granted call submits with its reservation in the budget and the contexts as they were. -/
theorem handle_granted (granted : Granted config opportunity outside engine order) :
    ∃ start, handle config opportunity outside engine = (submit config outside order start).after
        (if engine.capitalBudget.poisoned then [] else [.reserved (order.request outside.reserveAt)]) ∧
      start.capitalBudget =
        (checkAndReserveBudget engine.capitalBudget config.mev (order.request outside.reserveAt)).2 ∧
      ∀ time key, ContextFrozen start.executionGuard time key ↔ ContextFrozen engine.executionGuard time key := by
  obtain ⟨ready, allowed⟩ := granted
  obtain ⟨_, _, kept⟩ := prepareOrder_ok ready
  obtain ⟨budget, contexts⟩ := engine.stopLossSnapshot_keeps outside.stopLossAt
  have prepared : prepareOrder config opportunity outside engine =
      (.ok order, (engine.stopLossSnapshot outside.stopLossAt).2) := Prod.ext ready kept
  refine ⟨{ (engine.stopLossSnapshot outside.stopLossAt).2 with capitalBudget := _ }, ?_, rfl, contexts⟩
  simp only [handle, prepared, reserveAndSubmit, budget, allowed, if_true]

/-- Without an open path or a signature the call ends and leaves the budget as it is. -/
theorem submit_stuck (stuck : ¬ CanSubmit config outside order engine.executionGuard) :
    ∃ result last, submit config outside order engine = .exit last result ∧
      last.capitalBudget = engine.capitalBudget := by
  obtain ⟨kept, budget, _⟩ := engine.retainUnfrozen_eq config outside order
  unfold submit
  dsimp only at kept budget ⊢
  rw [kept]
  split
  · exact ⟨_, _, rfl, budget⟩
  · rename_i path
    split
    · exact ⟨_, _, rfl, budget⟩
    · rename_i tx signed
      exact absurd ⟨by simpa using path, tx, signed⟩ stuck

theorem submit_goes (can : CanSubmit config outside order engine.executionGuard) :
    ∃ last, submit config outside order engine =
        (if config.usesBundleRelays then
          submitBundles config outside order (openSubmitPaths config outside order engine.executionGuard) last
        else submitDirect config outside order (openSubmitPaths config outside order engine.executionGuard) last) ∧
      last.capitalBudget = engine.capitalBudget ∧
      ∀ later, (∀ j, outside.checkAt j ≤ later) → ∀ key,
        ContextFrozen last.executionGuard later key ↔ ContextFrozen engine.executionGuard later key := by
  obtain ⟨kept, budget, contexts⟩ := engine.retainUnfrozen_eq config outside order
  obtain ⟨path, tx, signed⟩ := can
  refine ⟨_, ?_, budget, contexts⟩
  have nonempty : (openSubmitPaths config outside order engine.executionGuard).isEmpty = false := by simpa using path
  unfold submit
  dsimp only at kept ⊢
  simp only [kept, nonempty, signed, Bool.false_eq_true, if_false]

/-- The joining loop ends with an acceptance or by giving up. -/
theorem joinSubmits_ends {α : Type} (label : α → String) (task : α → SubmitTask) (accept : String → Engine)
    (giveUp : Option String → Run) (lastError : Option String) (xs : List α) :
    (∃ path, joinSubmits label task accept giveUp lastError xs =
        { result := .ok (), engine := accept path, log := [.accepted path] }) ∨
      ∃ error, joinSubmits label task accept giveUp lastError xs = giveUp error := by
  induction xs generalizing lastError with
  | nil => exact .inr ⟨lastError, rfl⟩
  | cons x rest ih =>
    simp only [joinSubmits]
    split
    · exact ih lastError
    · exact ih lastError
    · rename_i error _
      exact ih (some error)
    · exact .inl ⟨label x, rfl⟩

theorem mem_log_joinSubmits {α : Type} {label : α → String} {task : α → SubmitTask} {accept : String → Engine}
    {giveUp : Option String → Run} {lastError : Option String} {xs : List α} {event : EngineEvent}
    (silent : ∀ error, (giveUp error).log = [])
    (member : event ∈ (joinSubmits label task accept giveUp lastError xs).log) : ∃ path, event = .accepted path := by
  rcases joinSubmits_ends label task accept giveUp lastError xs with ⟨path, run⟩ | ⟨error, run⟩
  · rw [run] at member
    exact ⟨path, List.mem_singleton.mp member⟩
  · rw [run, silent error] at member
    exact absurd member (by simp)

theorem log_allRpcFailed (firstPath : Option RelayQuote) (lastError : Option String) :
    (allRpcFailed config outside order engine firstPath lastError).log = [] := by
  unfold allRpcFailed
  split
  · rfl
  · rfl

theorem mem_log_submitBundles {paths : List RelayQuote} {event : EngineEvent}
    (member : event ∈ (submitBundles config outside order paths engine).log) : ∃ path, event = .accepted path :=
  mem_log_joinSubmits (fun _ => rfl) member

theorem mem_log_submitDirect {paths : List RelayQuote} {event : EngineEvent}
    (member : event ∈ (submitDirect config outside order paths engine).log) :
    (∃ endpoint ∈ directRpcSubmitEndpointsFromRankedPaths config outside.submitFleet paths, ∃ time result,
      outside.rpcSubmits.task endpoint = .sent time result ∧ event = .sent endpoint time engine.executionGuard) ∨
      ∃ path, event = .accepted path := by
  rcases List.mem_append.mp member with sent | joined
  · left
    obtain ⟨endpoint, inside, logged⟩ := List.mem_filterMap.mp sent
    split at logged
    · exact absurd logged (by simp)
    · rename_i time result task
      exact ⟨endpoint, inside, time, result, task, (Option.some.inj logged).symm⟩
  · exact .inr (mem_log_joinSubmits (log_allRpcFailed _) joined)

theorem openSubmitPaths_congr {guard guard' : Mutex ExecutionGuard}
    (contexts : ∀ time key, ContextFrozen guard time key ↔ ContextFrozen guard' time key) :
    openSubmitPaths config outside order guard = openSubmitPaths config outside order guard' :=
  openPaths_congr 0 _ fun j _ key => contexts (outside.checkAt j) key

theorem CanSubmit.congr {guard guard' : Mutex ExecutionGuard}
    (contexts : ∀ time key, ContextFrozen guard time key ↔ ContextFrozen guard' time key)
    (can : CanSubmit config outside order guard) : CanSubmit config outside order guard' := by
  obtain ⟨path, signed⟩ := can
  rw [openSubmitPaths_congr contexts] at path signed
  exact ⟨path, signed⟩

def sampleOpportunity : MevOpportunity where
  victimTx := 77
  executionPayload := some samplePayload
  router := 6
  tokenIn := 1
  tokenOut := 2
  selector := ⟨0x38, 0xed, 0x17, 0x39⟩
  preferredRelay := none

/-- Two endpoints that are equally fit to send. -/
def sampleFleet : RpcFleet where
  endpoints := [{ id := 0, name := "alchemy-1", kind := .alchemy }, { id := 1, name := "infura-1", kind := .infura }]
  rotation := 0
  sendPreference := .auto
  sendScores := [some 120, some 120]

/-- Every check passes, the wallet signs, and all endpoints answer alike when the transaction is sent at
time 9. -/
def sampleOutside (answer : SubmitResult) : Outside where
  ageMs := 10
  stopLossAt := 1
  wallet := .ok 3
  contextFleet := sampleFleet
  chainState := fun _ => .ok
    { hotBalance := 5 * 10 ^ 17, chainNonce := 0, gasPrice := 30 * 10 ^ 9, baseFeePerGas := none, block := 100 }
  preflightEnabled := false
  preflight := .ok true
  preflightHardFail := false
  reserveAt := 2
  rankingFleet := sampleFleet
  adaptive := { value := ⟨fun _ => ⟨1, 0, 0, 0⟩, fun _ _ => ⟨1, 0, 0, 0⟩⟩, poisoned := false }
  checkAt := fun _ => 3
  checkAt_mono := monotone_const
  signTransaction := fun _ => .ok [1]
  submitFleet := sampleFleet
  rpcSubmits := { task := fun _ => .sent 9 answer, order := id, order_perm := fun _ => .refl _ }
  sent_after_checks := by
    intro endpoint time result task i
    cases task
    decide
  parseUrl := fun _ => .ok ()
  relaySubmits := { task := fun _ => .unsent, order := id, order_perm := fun _ => .refl _ }
  observeRealizedPnl := fun _ => { realizedProfit := 1 / 1000, gasUsed := 150000, success := true }
  resultAt := 10

def sendingConfig : Config :=
  { testConfig with allowSend := true, mev := { testConfig.mev with rpcFanoutCount := 2 } }

/-- An idle engine in which the contexts of the sample opportunity are frozen on the given paths. -/
def frozenEngine (submitPaths : List String) : Engine where
  capitalBudget := { value := { reservations := [] }, poisoned := false }
  executionGuard :=
    { value :=
        { consecutiveLosses := 0
          frozenUntil := none
          contextGuards := fun key =>
            if key.pair = 5 ∧ key.router = 6 ∧ key.submitPath ∈ submitPaths then
              some { consecutiveLosses := 2, frozenUntil := some (180 * nanosPerSec), lastEventAt := some 0,
                     regimePressureEwma := 1 / 2 }
            else none }
      poisoned := false }

/-- The order of the sample opportunity. -/
def sampleOrder : Order where
  opportunity := sampleOpportunity
  payload := samplePayload
  walletAddress := 3
  context :=
    { endpoint := { id := 0, name := "alchemy-1" }, hotBalance := 5 * 10 ^ 17, chainNonce := 0, gasPrice := 30 * 10 ^ 9,
      baseFeePerGas := none, block := 100 }

theorem sampleFleet_sendCandidates : sampleFleet.sendCandidates 2 =
    [{ id := 0, name := "alchemy-1" }, { id := 1, name := "infura-1" }] := by decide +kernel

theorem granted_sample (answer : SubmitResult) (submitPaths : List String) :
    Granted sendingConfig sampleOpportunity (sampleOutside answer) (frozenEngine submitPaths) sampleOrder := by
  have loaded : loadSendContext (sampleOutside answer) = .ok sampleOrder.context := by
    have offered : sampleFleet.sendCandidates 3 =
      [{ id := 0, name := "alchemy-1" }, { id := 1, name := "infura-1" }] := by decide +kernel
    simp only [loadSendContext, sampleOutside, offered]
    rfl
  have passes : passesChecks sendingConfig (sampleOutside answer) sampleOrder.context = true := by
    change passesChecks sendingConfig (sampleOutside .panicked) sampleOrder.context = true
    decide +kernel
  constructor
  · unfold prepareOrder
    simp only [loaded, passes, if_true]
    rfl
  · change (checkAndReserveBudget (frozenEngine []).capitalBudget sendingConfig.mev (sampleOrder.request 2)).1.allowed =
      true
    decide +kernel

end ArbitrageRuntime
