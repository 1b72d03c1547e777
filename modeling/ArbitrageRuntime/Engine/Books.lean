import ArbitrageRuntime.Adaptive.Retuning
import ArbitrageRuntime.Engine.Exposure
import ArbitrageRuntime.Storage.RelayTotals

namespace ArbitrageRuntime

/-- What a call writes into the books of a submit path: the result of a submission that it sees, a call on the
adaptive policy, or a relay outcome for the dashboard. -/
inductive BookEntry
  | observed (submitPath : String) (accepted : Bool)
  | policy (call : Adaptive.PolicyCall)
  | relayOutcome (outcome : Storage.RelayOutcome)

/-- A call with the figures that only its books show. -/
structure BookedCall extends ObservedCall where
  submitLatencyMs : String → ℚ
  finalizationLatencyMs : String → ℚ
  relayPressure : String → ℚ
  inclusionRate : String → ℚ

/-- An outcome in which nothing has happened. -/
def quietOutcome (relay : String) : Storage.RelayOutcome where
  relay := relay
  accepted := 0
  submitFailed := 0
  includedSuccess := 0
  includedRevert := 0
  notIncludedTimeout := 0
  submitLatencyMs := none
  finalizationLatencyMs := none
  score := none
  pressure := none
  acceptRate := none
  inclusionRate := none

namespace BookedCall

/-- A poisoned policy is passed over. -/
def policyEntries (call : BookedCall) (calls : List Adaptive.PolicyCall) : List BookEntry :=
  if call.outside.adaptive.poisoned then [] else calls.map .policy

/-- `observe_realized_pnl` -/
def waitEntries (config : FinalityConfig) (call : BookedCall) (order : Order) (submitPath : String) : List BookEntry :=
  let cluster := order.opportunity.cluster
  let expected := order.payload.expectedProfitWei
  let latencyMs := call.finalizationLatencyMs submitPath
  match (call.polling submitPath).finalization config order.payload with
  | some result =>
    call.policyEntries
      [.recordFinalizationForRelay submitPath expected result.realizedProfit result.success latencyMs,
        .recordContextualOutcome submitPath cluster expected result.realizedProfit
          (if result.success then .includedSuccess else .includedRevert)] ++
    [.relayOutcome { quietOutcome submitPath with
      includedSuccess := result.success.toNat
      includedRevert := (!result.success).toNat
      finalizationLatencyMs := some latencyMs }]
  | none =>
    call.policyEntries
      [.recordReceiptTimeoutForRelay submitPath latencyMs,
        .recordContextualOutcome submitPath cluster expected 0 .acceptedNotIncluded] ++
    [.relayOutcome { quietOutcome submitPath with
      notIncludedTimeout := 1
      finalizationLatencyMs := some latencyMs }]

/-- A direct endpoint that accepts is noted by the policy, and not as a relay outcome. -/
def directAccepted (config : FinalityConfig) (call : BookedCall) (order : Order) (endpoint : RpcHandle) :
    List BookEntry :=
  let submitPath := rpcLabel endpoint.name
  .observed submitPath true ::
    (call.policyEntries [.recordSubmitSuccessForRelay submitPath (call.submitLatencyMs submitPath)] ++
      call.waitEntries config order submitPath)

/-- A direct endpoint that fails leaves no trace in the books. -/
def directFailed (endpoint : RpcHandle) : List BookEntry := [.observed (rpcLabel endpoint.name) false]

/-- The outcome of a bundle that a relay has answered, with the figures of its quote. -/
def quotedOutcome (call : BookedCall) (quote : RelayQuote) : Storage.RelayOutcome :=
  { quietOutcome quote.relay with
    submitLatencyMs := some (call.submitLatencyMs quote.relay)
    score := some quote.score
    pressure := some (call.relayPressure quote.relay)
    acceptRate := some quote.acceptRate
    inclusionRate := some (call.inclusionRate quote.relay) }

def bundleAccepted (config : FinalityConfig) (call : BookedCall) (order : Order) (quote : RelayQuote) :
    List BookEntry :=
  .observed quote.relay true ::
    (call.policyEntries [.recordSubmitSuccessForRelay quote.relay (call.submitLatencyMs quote.relay)] ++
      .relayOutcome { call.quotedOutcome quote with accepted := 1 } :: call.waitEntries config order quote.relay)

def bundleFailed (call : BookedCall) (order : Order) (quote : RelayQuote) : List BookEntry :=
  .observed quote.relay false ::
    (call.policyEntries
      [.recordSubmitFailureForRelay quote.relay (call.submitLatencyMs quote.relay),
        .recordContextualOutcome quote.relay order.opportunity.cluster order.payload.expectedProfitWei 0
          .submitFailed] ++
      [.relayOutcome { call.quotedOutcome quote with submitFailed := 1 }])

/-- The books of the joining loop. -/
def joinEntries {α : Type} (task : α → SubmitTask) (accepted failed : α → List BookEntry) : List α → List BookEntry
  | [] => []
  | x :: rest =>
    match task x with
    | .unsent => joinEntries task accepted failed rest
    | .sent _ .panicked => joinEntries task accepted failed rest
    | .sent _ (.failed _) => failed x ++ joinEntries task accepted failed rest
    | .sent _ .accepted => accepted x

def directEntries (config : FinalityConfig) (call : BookedCall) (order : Order) (paths : List RelayQuote) :
    List BookEntry :=
  joinEntries call.outside.rpcSubmits.task (call.directAccepted config order) directFailed
    (call.outside.rpcSubmits.order
      (directRpcSubmitEndpointsFromRankedPaths config.toConfig call.outside.submitFleet paths))

def bundleEntries (config : FinalityConfig) (call : BookedCall) (order : Order) (paths : List RelayQuote) :
    List BookEntry :=
  let relays := parsedRelays call.outside.parseUrl none (paths.take (max config.mev.relayFanoutCount 1))
  joinEntries call.outside.relaySubmits.task (call.bundleAccepted config order) (call.bundleFailed order)
    (call.outside.relaySubmits.order relays.1)

def submitEntries (config : FinalityConfig) (call : BookedCall) (order : Order) (engine : Engine) : List BookEntry :=
  let retained := engine.retainUnfrozen config.mev call.outside order
    (rankedSubmitPaths config.toConfig call.outside order)
  if retained.1.isEmpty then []
  else
    match signExecutorTransaction config.toConfig call.outside order retained.1.head? with
    | .error _ => []
    | .ok _ =>
      if config.usesBundleRelays then call.bundleEntries config order retained.1
      else call.directEntries config order retained.1

/-- What `handle` writes into the books. -/
def entries (config : FinalityConfig) (call : BookedCall) (engine : Engine) : List BookEntry :=
  match prepareOrder config.toConfig call.opportunity call.outside engine with
  | (.error _, _) => []
  | (.ok order, observed) =>
    let gate := checkAndReserveBudget observed.capitalBudget config.mev (order.request call.outside.reserveAt)
    if gate.1.allowed then call.submitEntries config order { observed with capitalBudget := gate.2 } else []

end BookedCall

namespace BookEntry

def observes (submitPath : String) : BookEntry → Bool
  | .observed path _ => path == submitPath
  | _ => false

/-- An adaptive update for the result of a submission. -/
def updates (submitPath : String) : BookEntry → Bool
  | .policy (.recordSubmitSuccessForRelay relay _) => relay == submitPath
  | .policy (.recordSubmitFailureForRelay relay _) => relay == submitPath
  | _ => false

/-- A relay outcome with `accepted` or `submit_failed` set. -/
def answers (submitPath : String) : BookEntry → Bool
  | .relayOutcome outcome => outcome.relay == submitPath && (0 < outcome.accepted || 0 < outcome.submitFailed)
  | _ => false

def outcome : BookEntry → Option Storage.RelayOutcome
  | .relayOutcome outcome => some outcome
  | _ => none

end BookEntry

namespace BookedCall

variable {config : FinalityConfig} {call : BookedCall} {order : Order} {engine : Engine}

/-- What holds of nothing, of every answer and of appended books holds of the whole loop. -/
theorem joinEntries_of {α : Type} {task : α → SubmitTask} {accepted failed : α → List BookEntry}
    {holds : List BookEntry → Prop} (none : holds [])
    (append : ∀ first second, holds first → holds second → holds (first ++ second))
    (taken : ∀ x, holds (accepted x)) (refused : ∀ x, holds (failed x)) (xs : List α) :
    holds (joinEntries task accepted failed xs) := by
  induction xs with
  | nil => exact none
  | cons x rest ih =>
    unfold joinEntries
    split
    · exact ih
    · exact ih
    · exact append _ _ (refused x) ih
    · exact taken x

theorem entries_cases (config : FinalityConfig) (call : BookedCall) (engine : Engine) :
    call.entries config engine = [] ∨
      (config.usesBundleRelays = true ∧
        ∃ order paths, call.entries config engine = call.bundleEntries config order paths) ∨
      (config.usesBundleRelays = false ∧
        ∃ order paths, call.entries config engine = call.directEntries config order paths) := by
  unfold entries
  split
  · exact .inl rfl
  · rename_i order observed _
    dsimp only
    split
    · unfold submitEntries
      dsimp only
      split
      · exact .inl rfl
      split
      · exact .inl rfl
      split
      · rename_i bundles
        exact .inr (.inl ⟨bundles, order, _, rfl⟩)
      · rename_i direct
        exact .inr (.inr ⟨by simpa using direct, order, _, rfl⟩)
    · exact .inl rfl

theorem countP_policyEntries (call : BookedCall) (calls : List Adaptive.PolicyCall) (counts : BookEntry → Bool) :
    (call.policyEntries calls).countP counts =
      if call.outside.adaptive.poisoned then 0 else calls.countP fun made => counts (.policy made) := by
  unfold policyEntries
  split
  · rfl
  · rw [List.countP_map]
    rfl

theorem outcomes_policyEntries (call : BookedCall) (calls : List Adaptive.PolicyCall) :
    (call.policyEntries calls).filterMap BookEntry.outcome = [] := by
  refine List.filterMap_eq_nil_iff.mpr fun entry member => ?_
  unfold policyEntries at member
  split at member
  · exact absurd member (by simp)
  · obtain ⟨made, _, rfl⟩ := List.mem_map.mp member
    rfl

/-- The wait adds nothing to the books of the submission. -/
theorem waitEntries_silent (config : FinalityConfig) (call : BookedCall) (order : Order) (path submitPath : String) :
    (call.waitEntries config order path).countP (BookEntry.observes submitPath) = 0 ∧
      (call.waitEntries config order path).countP (BookEntry.updates submitPath) = 0 ∧
      (call.waitEntries config order path).countP (BookEntry.answers submitPath) = 0 := by
  unfold waitEntries
  dsimp only
  split
  · simp [List.countP_append, countP_policyEntries, BookEntry.observes, BookEntry.updates, BookEntry.answers,
      quietOutcome]
  · simp [List.countP_append, countP_policyEntries, BookEntry.observes, BookEntry.updates, BookEntry.answers,
      quietOutcome]

/-- The wait ends one transaction of its path. -/
theorem outcomes_waitEntries (config : FinalityConfig) (call : BookedCall) (order : Order) (path : String) :
    ∃ outcome, (call.waitEntries config order path).filterMap BookEntry.outcome = [outcome] ∧
      outcome.relay = path ∧ outcome.ended = 1 := by
  unfold waitEntries
  dsimp only
  split
  · rename_i result _
    rw [List.filterMap_append, outcomes_policyEntries]
    refine ⟨_, rfl, rfl, ?_⟩
    cases result.success
    · rfl
    · rfl
  · rw [List.filterMap_append, outcomes_policyEntries]
    exact ⟨_, rfl, rfl, rfl⟩

theorem observed_not_mem_policyEntries (call : BookedCall) (calls : List Adaptive.PolicyCall) (path : String)
    (accepted : Bool) : .observed path accepted ∉ call.policyEntries calls := by
  unfold policyEntries
  split
  · exact List.not_mem_nil
  · simp

theorem observed_not_mem_waitEntries (config : FinalityConfig) (call : BookedCall) (order : Order)
    (submitPath path : String) (accepted : Bool) :
    .observed path accepted ∉ call.waitEntries config order submitPath := by
  intro inside
  have silent := (call.waitEntries_silent config order submitPath path).1
  exact List.countP_eq_zero.mp silent _ inside (by simp [BookEntry.observes])

/-- The loop that writes the books is the loop that submits. -/
theorem accepted_mem_joinSubmits {α : Type} {label : α → String} {task : α → SubmitTask} {accept : String → Engine}
    {giveUp : Option String → Run} {accepted failed : α → List BookEntry} {path : String}
    (quiet : ∀ lastError, (giveUp lastError).log = [])
    (taken : ∀ x, .observed path true ∈ accepted x ↔ path = label x)
    (refused : ∀ x, .observed path true ∉ failed x) (xs : List α) (lastError : Option String) :
    .accepted path ∈ (joinSubmits label task accept giveUp lastError xs).log ↔
      .observed path true ∈ joinEntries task accepted failed xs := by
  induction xs generalizing lastError with
  | nil =>
    rw [joinSubmits, joinEntries, quiet]
    simp
  | cons x rest ih =>
    cases answer : task x with
    | unsent =>
      simp only [joinSubmits, joinEntries, answer]
      exact ih lastError
    | sent time result =>
      cases result with
      | panicked =>
        simp only [joinSubmits, joinEntries, answer]
        exact ih lastError
      | failed error =>
        simp only [joinSubmits, joinEntries, answer]
        rw [ih, List.mem_append]
        exact (or_iff_right (refused x)).symm
      | accepted =>
        simp only [joinSubmits, joinEntries, answer]
        rw [taken x]
        simp

theorem observed_mem_bundleAccepted (quote : RelayQuote) (path : String) :
    .observed path true ∈ call.bundleAccepted config order quote ↔ path = quote.relay := by
  have updates := call.observed_not_mem_policyEntries
  have waits := call.observed_not_mem_waitEntries config order quote.relay path true
  simp [bundleAccepted, updates, waits]

theorem observed_not_mem_bundleFailed (quote : RelayQuote) (path : String) :
    .observed path true ∉ call.bundleFailed order quote := by
  have updates := call.observed_not_mem_policyEntries
  simp [bundleFailed, updates]

theorem observed_mem_directAccepted (endpoint : RpcHandle) (path : String) :
    .observed path true ∈ call.directAccepted config order endpoint ↔ path = rpcLabel endpoint.name := by
  have updates := call.observed_not_mem_policyEntries
  have waits := call.observed_not_mem_waitEntries config order (rpcLabel endpoint.name) path true
  simp [directAccepted, updates, waits]

theorem accepted_mem_submitBundles (outside : Outside) (same : outside.parseUrl = call.outside.parseUrl)
    (same' : outside.relaySubmits = call.outside.relaySubmits) (paths : List RelayQuote) (path : String) :
    .accepted path ∈ (submitBundles config.toConfig outside order paths engine).log ↔
      .observed path true ∈ call.bundleEntries config order paths := by
  unfold submitBundles bundleEntries
  rw [same, same']
  exact accepted_mem_joinSubmits (fun _ => rfl) (fun quote => observed_mem_bundleAccepted quote path)
    (fun quote => observed_not_mem_bundleFailed quote path) _ _

theorem accepted_mem_submitDirect (outside : Outside) (same : outside.submitFleet = call.outside.submitFleet)
    (same' : outside.rpcSubmits = call.outside.rpcSubmits) (paths : List RelayQuote) (path : String) :
    .accepted path ∈ (submitDirect config.toConfig outside order paths engine).log ↔
      .observed path true ∈ call.directEntries config order paths := by
  unfold submitDirect directEntries Run.after
  dsimp only
  rw [same, same', List.mem_append, ← accepted_mem_joinSubmits (fun lastError => log_allRpcFailed _ lastError)
    (fun endpoint => observed_mem_directAccepted endpoint path) (fun endpoint => by simp [directFailed]) _ none]
  refine or_iff_right fun sent => ?_
  obtain ⟨endpoint, _, logged⟩ := List.mem_filterMap.mp sent
  split at logged
  · exact absurd logged (by simp)
  · exact absurd logged (by simp)

theorem accepted_mem_submit (config : FinalityConfig) (call : BookedCall) (order : Order) (engine : Engine)
    (results : String → ExecutionResult) (path : String) :
    .accepted path ∈ (submit config.toConfig { call.outside with observeRealizedPnl := results } order engine).log ↔
      .observed path true ∈ call.submitEntries config order engine := by
  let outside := { call.outside with observeRealizedPnl := results }
  let kept := engine.retainUnfrozen config.mev call.outside order (rankedSubmitPaths config.toConfig call.outside order)
  -- The results of the wait are not read before the submission.
  change .accepted path ∈ (if kept.1.isEmpty then Run.exit kept.2 (.ok ()) else
      match signExecutorTransaction config.toConfig call.outside order kept.1.head? with
      | .error error => .exit kept.2 (.error error)
      | .ok _ =>
        if config.usesBundleRelays then submitBundles config.toConfig outside order kept.1 kept.2
        else submitDirect config.toConfig outside order kept.1 kept.2).log ↔
    .observed path true ∈ (if kept.1.isEmpty then [] else
      match signExecutorTransaction config.toConfig call.outside order kept.1.head? with
      | .error _ => []
      | .ok _ =>
        if config.usesBundleRelays then call.bundleEntries config order kept.1
        else call.directEntries config order kept.1)
  split
  · simp [Run.exit]
  split
  · simp [Run.exit]
  split
  · exact accepted_mem_submitBundles outside rfl rfl _ path
  · exact accepted_mem_submitDirect outside rfl rfl _ path

/-- The acceptance that ends a call is the acceptance in its books. -/
theorem accepted_mem_log_iff (config : FinalityConfig) (call : BookedCall) (engine : Engine) (path : String) :
    .accepted path ∈ (call.toObservedCall.handle config engine).log ↔
      .observed path true ∈ call.entries config engine := by
  have reads : ∃ results, call.toObservedCall.reads config = { call.outside with observeRealizedPnl := results } := by
    unfold ObservedCall.reads
    split
    · exact ⟨_, rfl⟩
    · exact ⟨_, rfl⟩
  obtain ⟨results, reads⟩ := reads
  unfold ObservedCall.handle handle entries
  rw [reads]
  change .accepted path ∈ (match prepareOrder config.toConfig call.opportunity call.outside engine with
    | (.error result, observed) => Run.exit observed result
    | (.ok order, observed) => reserveAndSubmit config.toConfig { call.outside with observeRealizedPnl := results }
        order observed).log ↔ _
  split
  · simp [Run.exit]
  rename_i order observed _
  unfold reserveAndSubmit
  dsimp only
  split
  · rw [← accepted_mem_submit config call order _ results path]
    unfold Run.after
    split
    · rfl
    · simp
  · simp [Run.exit]

end BookedCall

end ArbitrageRuntime
