import ArbitrageRuntime.Lib.Transition
import ArbitrageRuntime.Engine.Receipts
import ArbitrageRuntime.Engine.BudgetRelease

namespace ArbitrageRuntime

variable {config : Config} {opportunity : MevOpportunity} {outside : Outside} {engine : Engine} {order : Order}

theorem poisoned_releaseBudget (capitalBudget : Mutex CapitalBudget) (victimTx : Hash) :
    (releaseBudget capitalBudget victimTx).poisoned = capitalBudget.poisoned := by
  unfold releaseBudget
  split
  · rfl
  · rfl

theorem poisoned_checkAndReserveBudget (capitalBudget : Mutex CapitalBudget) (mev : MevConfig)
    (request : BudgetReservation) :
    (checkAndReserveBudget capitalBudget mev request).2.poisoned = capitalBudget.poisoned := by
  unfold checkAndReserveBudget
  split
  · rfl
  · rfl

theorem poisoned_settle (order : Order) (mev : MevConfig) (now : Instant) (result : ExecutionResult)
    (submitPath : Option String) (engine : Engine) :
    (order.settle mev now result submitPath engine).capitalBudget.poisoned = engine.capitalBudget.poisoned := by
  rw [Order.settle, Engine.recordResult_capitalBudget]
  exact poisoned_releaseBudget _ _

theorem poisoned_submit (config : Config) (outside : Outside) (order : Order) (engine : Engine) :
    (submit config outside order engine).engine.capitalBudget.poisoned = engine.capitalBudget.poisoned := by
  by_cases can : CanSubmit config outside order engine.executionGuard
  · obtain ⟨last, goes, budget, _⟩ := submit_goes can
    rw [goes, ← budget]
    split
    · unfold submitBundles
      rcases joinSubmits_ends RelayQuote.relay outside.relaySubmits.task (acceptedBy config outside order last)
        (gaveUp config outside order last _ "no relay submission path available") _ _ with ⟨path, run⟩ | ⟨error, run⟩
      · rw [run]
        exact poisoned_settle _ _ _ _ _ _
      · rw [run]
        exact poisoned_settle _ _ _ _ _ _
    · unfold submitDirect Run.after
      dsimp only
      rcases joinSubmits_ends (fun endpoint : RpcHandle => rpcLabel endpoint.name) outside.rpcSubmits.task
        (acceptedBy config outside order last) (allRpcFailed config outside order last _) none _ with
        ⟨path, run⟩ | ⟨error, run⟩
      · rw [run]
        exact poisoned_settle _ _ _ _ _ _
      · rw [run]
        unfold allRpcFailed
        split
        · rfl
        · exact poisoned_settle _ _ _ _ _ _
  · obtain ⟨result, last, stuck, budget⟩ := submit_stuck can
    rw [stuck]
    exact congrArg Mutex.poisoned budget

/-- Whatever the checks before the reservation say, they leave the budget alone. -/
theorem prepareOrder_capitalBudget (config : Config) (opportunity : MevOpportunity) (outside : Outside)
    (engine : Engine) : (prepareOrder config opportunity outside engine).2.capitalBudget = engine.capitalBudget := by
  have kept := (engine.stopLossSnapshot_keeps outside.stopLossAt).1
  unfold prepareOrder
  split
  · rfl
  split
  · rfl
  split
  · rfl
  dsimp only
  split
  · exact kept
  split
  · exact kept
  split
  · exact kept
  split
  · exact kept
  · exact kept

/-- A call does not poison the lock of the budget. -/
theorem poisoned_handle (config : Config) (opportunity : MevOpportunity) (outside : Outside) (engine : Engine) :
    (handle config opportunity outside engine).engine.capitalBudget.poisoned = engine.capitalBudget.poisoned := by
  have prepared := prepareOrder_capitalBudget config opportunity outside engine
  unfold handle
  split
  · rename_i result observed exits
    rw [exits] at prepared
    exact congrArg Mutex.poisoned prepared
  · rename_i order observed exits
    rw [exits] at prepared
    have reserved := poisoned_checkAndReserveBudget observed.capitalBudget config.mev (order.request outside.reserveAt)
    rw [← prepared, ← reserved]
    unfold reserveAndSubmit
    dsimp only
    split
    · exact poisoned_submit config outside order _
    · rfl

/-- The joining loop accepts, and settles the order for the path, or gives up. -/
theorem engine_of_accepted_submit {path : String} (can : CanSubmit config outside order engine.executionGuard)
    (accepted : .accepted path ∈ (submit config outside order engine).log) :
    ∃ last, last.capitalBudget = engine.capitalBudget ∧
      (submit config outside order engine).engine = acceptedBy config outside order last path := by
  obtain ⟨last, goes, budget, _⟩ := submit_goes can
  refine ⟨last, budget, ?_⟩
  rw [goes] at accepted ⊢
  split at accepted
  · rename_i bundles
    rw [if_pos bundles]
    unfold submitBundles at accepted ⊢
    rcases joinSubmits_ends RelayQuote.relay outside.relaySubmits.task (acceptedBy config outside order last)
      (gaveUp config outside order last _ "no relay submission path available") _ _ with ⟨taken, run⟩ | ⟨error, run⟩
    · rw [run] at accepted ⊢
      cases List.mem_singleton.mp accepted
      rfl
    · rw [run] at accepted
      exact absurd accepted (by simp [gaveUp, Run.exit])
  · rename_i direct
    rw [if_neg direct]
    unfold submitDirect Run.after at accepted ⊢
    dsimp only at accepted ⊢
    rcases joinSubmits_ends (fun endpoint : RpcHandle => rpcLabel endpoint.name) outside.rpcSubmits.task
      (acceptedBy config outside order last) (allRpcFailed config outside order last _) none _ with
      ⟨taken, run⟩ | ⟨error, run⟩
    · rw [run] at accepted ⊢
      have taken_eq : path = taken := by
        rcases List.mem_append.mp accepted with sent | joined
        · obtain ⟨endpoint, _, logged⟩ := List.mem_filterMap.mp sent
          split at logged
          · exact absurd logged (by simp)
          · exact absurd logged (by simp)
        · exact EngineEvent.accepted.inj (List.mem_singleton.mp joined)
      rw [taken_eq]
    · rw [run, log_allRpcFailed, List.append_nil] at accepted
      obtain ⟨endpoint, _, logged⟩ := List.mem_filterMap.mp accepted
      split at logged
      · exact absurd logged (by simp)
      · exact absurd logged (by simp)

/-- An accepted call returns without its reservation, whatever the wait has seen. -/
theorem reservation_not_mem_of_accepted {reservation : BudgetReservation} {path : String}
    (healthy : engine.capitalBudget.poisoned = false)
    (reserved : .reserved reservation ∈ (handle config opportunity outside engine).log)
    (accepted : .accepted path ∈ (handle config opportunity outside engine).log) :
    reservation ∉ (handle config opportunity outside engine).engine.capitalBudget.value.reservations := by
  intro member
  by_cases granted : ∃ order, Granted config opportunity outside engine order
  · obtain ⟨order, granted⟩ := granted
    obtain ⟨start, run, budget, contexts⟩ := handle_granted granted
    rw [run] at reserved accepted member
    have request : reservation = order.request outside.reserveAt := by
      rcases List.mem_append.mp reserved with made | later
      · rw [healthy] at made
        simpa using made
      · exact absurd later (reserved_not_mem_submit reservation)
    have submitted : .accepted path ∈ (submit config outside order start).log := by
      rcases List.mem_append.mp accepted with made | later
      · rw [healthy] at made
        exact absurd made (by simp)
      · exact later
    have startHealthy : start.capitalBudget.poisoned = false := by
      rw [budget, poisoned_checkAndReserveBudget, healthy]
    by_cases can : CanSubmit config outside order start.executionGuard
    · obtain ⟨last, kept, ends⟩ := engine_of_accepted_submit can submitted
      have lastHealthy : last.capitalBudget.poisoned = false := by rw [kept, startHealthy]
      have settled : reservation ∈
          (acceptedBy config outside order last path).capitalBudget.value.reservations := ends ▸ member
      exact victimTx_ne_of_mem_settle lastHealthy settled (by rw [request]; rfl)
    · obtain ⟨result, last, stuck, _⟩ := submit_stuck can
      rw [stuck] at submitted
      exact absurd submitted (by simp [Run.exit])
  · rw [handle_refused (not_exists.mp granted)] at reserved
    exact absurd reserved (by simp)

def EngineEvent.reservation : EngineEvent → Option BudgetReservation
  | .reserved reservation => some reservation
  | _ => none

def EngineEvent.submitPath : EngineEvent → Option String
  | .accepted submitPath => some submitPath
  | _ => none

theorem mem_reservations {log : List EngineEvent} {reservation : BudgetReservation} :
    reservation ∈ log.filterMap EngineEvent.reservation ↔ .reserved reservation ∈ log := by
  rw [List.mem_filterMap]
  constructor
  · rintro ⟨event, member, same⟩
    cases event with
    | reserved made =>
      cases Option.some.inj same
      exact member
    | sent endpoint time guard => exact absurd same (by simp [EngineEvent.reservation])
    | accepted submitPath => exact absurd same (by simp [EngineEvent.reservation])
  · intro member
    exact ⟨.reserved reservation, member, rfl⟩

theorem mem_submitPaths {log : List EngineEvent} {submitPath : String} :
    submitPath ∈ log.filterMap EngineEvent.submitPath ↔ .accepted submitPath ∈ log := by
  rw [List.mem_filterMap]
  constructor
  · rintro ⟨event, member, same⟩
    cases event with
    | reserved made => exact absurd same (by simp [EngineEvent.submitPath])
    | sent endpoint time guard => exact absurd same (by simp [EngineEvent.submitPath])
    | accepted taken =>
      cases Option.some.inj same
      exact member
  · intro member
    exact ⟨.accepted submitPath, member, rfl⟩

/-- A transaction that an endpoint or a relay has accepted, after the call that sent it. -/
structure AcceptedTransaction where
  reservation : BudgetReservation
  outcomeKnown : Bool
  releasedAt : Instant

def AcceptedTransaction.expired (mev : MevConfig) (now : Instant) (transaction : AcceptedTransaction) : Bool :=
  mev.capitalWindowSecs < secsSince now transaction.reservation.reservedAt

namespace ObservedCall

/-- What the wait for the path has found out. -/
def outcome (config : FinalityConfig) (call : ObservedCall) (submitPath : String) : Option ExecutionResult :=
  call.opportunity.executionPayload.bind fun payload => (call.polling submitPath).finalization config payload

/-- The accepted transactions of a run of the call. -/
def transactions (config : FinalityConfig) (call : ObservedCall) (run : Run) : List AcceptedTransaction :=
  (run.log.filterMap EngineEvent.reservation).flatMap fun reservation =>
    (run.log.filterMap EngineEvent.submitPath).map fun submitPath =>
      { reservation := reservation
        outcomeKnown := (call.outcome config submitPath).isSome
        releasedAt := call.outside.resultAt }

/-- Every transaction that the call gets accepted shows its receipt to the wait, or its reservation is
older than the window when the wait is over. -/
def OutcomeInTime (config : FinalityConfig) (call : ObservedCall) (engine : Engine) : Prop :=
  ∀ reservation submitPath, .reserved reservation ∈ (call.handle config engine).log →
    .accepted submitPath ∈ (call.handle config engine).log →
    (call.polling submitPath).ShowsReceipt config ∨
      config.mev.capitalWindowSecs < secsSince call.outside.resultAt reservation.reservedAt

end ObservedCall

/-- The engine, and all transactions that were accepted so far. -/
structure Exposure where
  engine : Engine
  accepted : List AcceptedTransaction

namespace Exposure

/-- The capital of the accepted transactions younger than the window of which nobody knows the outcome. -/
def unknownEth (mev : MevConfig) (now : Instant) (state : Exposure) : ℚ :=
  ((state.accepted.filter fun transaction => !transaction.outcomeKnown && !transaction.expired mev now).map
    fun transaction => transaction.reservation.capitalEth).sum

/-- A reservation that is gone has expired or has seen its receipt, and from now on the capital of unknown
outcome keeps to the limit. -/
structure Covers (mev : MevConfig) (state : Exposure) : Prop where
  held : ∀ transaction ∈ state.accepted,
    transaction.reservation ∈ state.engine.capitalBudget.value.reservations ∨
      transaction.expired mev transaction.releasedAt = true ∨ transaction.outcomeKnown = true
  within : ∀ now, (∀ transaction ∈ state.accepted, transaction.releasedAt ≤ now) →
    state.unknownEth mev now ≤ mev.maxWindowExposureEth

/-- One call after the other. -/
def calls (config : FinalityConfig) : Transition.System Exposure ObservedCall := fun state call =>
  let run := call.handle config state.engine
  some { engine := run.engine, accepted := state.accepted ++ call.transactions config run }

/-- The calls up to any of them leave the exposure covered. -/
def AlwaysCovers (config : FinalityConfig) (engine : Engine) (made : List ObservedCall) : Prop :=
  ∀ front state, front <+: made → (calls config).after ⟨engine, []⟩ front = some state → state.Covers config.mev

variable {config : FinalityConfig} {call : ObservedCall} {engine : Engine}

theorem mem_transactions {run : Run} {transaction : AcceptedTransaction} :
    transaction ∈ call.transactions config run ↔ ∃ reservation submitPath,
      .reserved reservation ∈ run.log ∧ .accepted submitPath ∈ run.log ∧
        transaction = ⟨reservation, (call.outcome config submitPath).isSome, call.outside.resultAt⟩ := by
  unfold ObservedCall.transactions
  simp only [List.mem_flatMap, List.mem_map, mem_reservations, mem_submitPaths]
  constructor
  · rintro ⟨reservation, reserved, submitPath, accepted, rfl⟩
    exact ⟨reservation, submitPath, reserved, accepted, rfl⟩
  · rintro ⟨reservation, submitPath, reserved, accepted, rfl⟩
    exact ⟨reservation, reserved, submitPath, accepted, rfl⟩

/-- Only a call with a payload submits, and then the wait knows what the endpoints show. -/
theorem isSome_outcome {submitPath : String} (accepted : .accepted submitPath ∈ (call.handle config engine).log) :
    (call.outcome config submitPath).isSome ↔ (call.polling submitPath).ShowsReceipt config := by
  by_cases granted : ∃ order, Granted config.toConfig call.opportunity (call.reads config) engine order
  · obtain ⟨order, granted⟩ := granted
    obtain ⟨payload, _, _⟩ := prepareOrder_ok granted.prepared
    rw [ObservedCall.outcome, payload]
    exact Polling.isSome_finalization
  · rw [ObservedCall.handle, handle_refused (not_exists.mp granted)] at accepted
    exact absurd accepted (by simp)

/-- What keeps the exposure covered: every accepted transaction has shown its receipt or was too old when
it was released. -/
def Settled (mev : MevConfig) (state : Exposure) : Prop :=
  ∀ transaction ∈ state.accepted,
    transaction.expired mev transaction.releasedAt = true ∨ transaction.outcomeKnown = true

theorem expired_of_le {mev : MevConfig} {transaction : AcceptedTransaction} {now later : Instant} (after : now ≤ later)
    (expired : transaction.expired mev now = true) : transaction.expired mev later = true := by
  have older : secsSince now transaction.reservation.reservedAt ≤ secsSince later transaction.reservation.reservedAt :=
    Nat.div_le_div_right (Nat.sub_le_sub_right after _)
  have passed := of_decide_eq_true expired
  exact decide_eq_true (by omega)

/-- With every transaction settled no capital of unknown outcome is left. -/
theorem unknownEth_eq_zero {mev : MevConfig} {now : Instant} {state : Exposure} (settled : state.Settled mev)
    (past : ∀ transaction ∈ state.accepted, transaction.releasedAt ≤ now) : state.unknownEth mev now = 0 := by
  have none : (state.accepted.filter fun transaction =>
      !transaction.outcomeKnown && !transaction.expired mev now) = [] := by
    refine List.filter_eq_nil_iff.mpr fun transaction member counted => ?_
    rcases settled transaction member with expired | known
    · have later := expired_of_le (past transaction member) expired
      simp [later] at counted
    · simp [known] at counted
  unfold unknownEth
  rw [none]
  rfl

theorem Settled.covers {mev : MevConfig} {state : Exposure} (settled : state.Settled mev)
    (limit : 0 ≤ mev.maxWindowExposureEth) : state.Covers mev where
  held := fun transaction member => .inr (settled transaction member)
  within := fun _ past => (unknownEth_eq_zero settled past).trans_le limit

/-- A call whose outcomes are in time keeps everything settled. -/
theorem Settled.next {state next : Exposure} (settled : state.Settled config.mev)
    (step : calls config state call = some next) (inTime : call.OutcomeInTime config state.engine) :
    next.Settled config.mev := by
  cases Option.some.inj step
  intro transaction member
  rcases List.mem_append.mp member with earlier | made
  · exact settled transaction earlier
  · obtain ⟨reservation, submitPath, reserved, accepted, rfl⟩ := mem_transactions.mp made
    rcases inTime reservation submitPath reserved accepted with shown | expired
    · exact .inr ((isSome_outcome accepted).mpr shown)
    · exact .inl (decide_eq_true expired)

/-- An exposure that is covered after a call has seen the outcomes of the call in time. -/
theorem outcomeInTime_of_covers {state next : Exposure} (healthy : state.engine.capitalBudget.poisoned = false)
    (step : calls config state call = some next) (covers : next.Covers config.mev) :
    call.OutcomeInTime config state.engine := by
  cases Option.some.inj step
  intro reservation submitPath reserved accepted
  have made := (@mem_transactions config call _ _).mpr ⟨reservation, submitPath, reserved, accepted, rfl⟩
  rcases covers.held _ (List.mem_append_right _ made) with kept | expired | known
  · exact absurd kept (reservation_not_mem_of_accepted healthy reserved accepted)
  · exact .inr (of_decide_eq_true expired)
  · exact .inl ((isSome_outcome accepted).mp known)

theorem poisoned_calls {state next : Exposure} (healthy : state.engine.capitalBudget.poisoned = false)
    (step : calls config state call = some next) : next.engine.capitalBudget.poisoned = false := by
  cases Option.some.inj step
  exact (poisoned_handle _ _ _ _).trans healthy

/-- Over every sequence of calls in either mode, the exposure covers the transactions in flight if and only if
the limit is not negative and the wait for every accepted transaction ends with its receipt or outlasts the
window: a wait that times out gives the capital back although the transaction may still be mined. -/
theorem alwaysCovers_iff (config : FinalityConfig) {engine : Engine} (healthy : engine.capitalBudget.poisoned = false)
    (made : List ObservedCall) :
    AlwaysCovers config engine made ↔
      0 ≤ config.mev.maxWindowExposureEth ∧
        (calls config).EveryStep (fun state call _ => call.OutcomeInTime config state.engine) ⟨engine, []⟩ made := by
  constructor
  · intro covers
    refine ⟨(covers [] _ List.nil_prefix rfl).within 0 (by simp), ?_⟩
    intro before call state next front reached step
    have keeps : ∀ earlier made later, earlier.engine.capitalBudget.poisoned = false →
        calls config earlier made = some later → later.engine.capitalBudget.poisoned = false :=
      fun _ _ _ sound step => poisoned_calls sound step
    have sound := Transition.System.invariant keeps healthy reached
    have reachedNext : (calls config).after ⟨engine, []⟩ (before ++ [call]) = some next :=
      Transition.System.after_concat_eq_some.mpr ⟨state, reached, step⟩
    exact outcomeInTime_of_covers sound step (covers _ next front reachedNext)
  · rintro ⟨limit, every⟩ front state inside reached
    have settled : state.Settled config.mev :=
      (every.of_prefix inside).invariant (fun _ _ _ settled step inTime => settled.next step inTime)
        (fun transaction member => absurd member (by simp)) reached
    exact settled.covers limit

/-- The sample opportunity: every endpoint accepts its transaction and knows this receipt of it, or none. -/
def sampleCall (receipt : Option TransactionReceipt) : ObservedCall where
  opportunity := sampleOpportunity
  outside := { sampleOutside .accepted with resultAt := 5 * nanosPerSec }
  polling := fun _ =>
    { preferredEndpointId := 0
      allHandles := [{ id := 0, name := "alchemy-1" }, { id := 1, name := "infura-1" }]
      readCandidates := fun _ => [{ id := 1, name := "infura-1" }]
      reading := fun _ _ => { receipt := .ok receipt, blockNumber := .ok 110, balanceAt := fun _ => .ok 0 } }

def finalityConfig : FinalityConfig := { toConfig := sendingConfig, finalityConfirmations := 2 }

/-- A transaction that was mined in block 101. -/
def sampleReceipt : TransactionReceipt where
  blockNumber := some 101
  gasUsed := some 150000
  effectiveGasPrice := some (30 * 10 ^ 9)
  status := some 1
  gas_fits := by decide

theorem alwaysCovers_sampleReceipt :
    (frozenEngine []).capitalBudget.poisoned = false ∧
      AlwaysCovers finalityConfig (frozenEngine []) [sampleCall (some sampleReceipt)] := by
  have shown : ((sampleCall (some sampleReceipt)).polling "").ShowsReceipt finalityConfig :=
    ⟨0, by decide, { id := 0, name := "alchemy-1" }, by decide, by decide⟩
  refine ⟨rfl, (alwaysCovers_iff finalityConfig rfl _).mpr ⟨by decide +kernel, ?_⟩⟩
  intro before call state next front reached step reservation submitPath reserved accepted
  have same : call = sampleCall (some sampleReceipt) := by
    have member := front.subset (List.mem_append_right before List.mem_cons_self)
    exact List.mem_singleton.mp member
  rw [same]
  exact .inl shown

/-- Every endpoint accepts the transaction and none of them ever shows a receipt: behind the ten rounds the
reservation is gone, five seconds after it was made. -/
theorem timeout_uncovers : ¬ AlwaysCovers finalityConfig (frozenEngine []) [sampleCall none] := by
  intro covers
  have step : calls finalityConfig ⟨frozenEngine [], []⟩ (sampleCall none) = some _ := rfl
  have inTime := outcomeInTime_of_covers rfl step (covers [sampleCall none] _ (List.prefix_refl _) rfl)
  have reserved : EngineEvent.reserved (sampleOrder.request 2) ∈
      ((sampleCall none).handle finalityConfig (frozenEngine [])).log := by
    apply mem_reservations.mp
    decide +kernel
  have accepted : EngineEvent.accepted "rpc://alchemy-1" ∈
      ((sampleCall none).handle finalityConfig (frozenEngine [])).log := by
    apply mem_submitPaths.mp
    decide +kernel
  rcases inTime _ _ reserved accepted with ⟨round, _, handle, _, shown⟩ | expired
  · exact absurd shown (by simp [sampleCall, ReceiptReading.finalReceipt])
  · exact absurd expired (by decide)

end Exposure

end ArbitrageRuntime
