import ArbitrageRuntime.Engine.Submission

namespace ArbitrageRuntime

variable {config : Config} {opportunity : MevOpportunity} {outside : Outside} {engine : Engine} {order : Order}

/-- If nobody accepted the transaction, no reservation of the call is left when it returns. -/
def ReleasesOnFailure (run : Run) : Prop :=
  ∀ reservation, .reserved reservation ∈ run.log → (∀ path, .accepted path ∉ run.log) →
    reservation ∉ run.engine.capitalBudget.value.reservations

theorem Engine.recordResult_capitalBudget (engine : Engine) (mev : MevConfig) (now : Instant) (result : ExecutionResult)
    (context : Option ContextFreezeKey) (contextPriorityScore contextToxicityScore : Option ℚ) :
    (engine.recordResult mev now result context contextPriorityScore contextToxicityScore).capitalBudget =
      engine.capitalBudget := by
  unfold Engine.recordResult
  split
  · rfl
  · rfl

/-- Settling an order leaves no reservation of its victim. -/
theorem victimTx_ne_of_mem_settle {mev : MevConfig} {now : Instant} {result : ExecutionResult}
    {submitPath : Option String} {reservation : BudgetReservation} (healthy : engine.capitalBudget.poisoned = false)
    (member : reservation ∈ (order.settle mev now result submitPath engine).capitalBudget.value.reservations) :
    reservation.victimTx ≠ order.opportunity.victimTx := by
  rw [Order.settle, Engine.recordResult_capitalBudget] at member
  exact victimTx_ne_of_mem_releaseBudget healthy member

/-- A run that ends with an acceptance, or without any reservation of the victim. -/
def AcceptedOrReleased (victimTx : Hash) (run : Run) : Prop :=
  (∃ path, .accepted path ∈ run.log) ∨
    ∀ reservation ∈ run.engine.capitalBudget.value.reservations, reservation.victimTx ≠ victimTx

theorem acceptedOrReleased_joinSubmits {α : Type} {label : α → String} {task : α → SubmitTask} {accept : String → Engine}
    {giveUp : Option String → Run} {lastError : Option String} {xs : List α} {victimTx : Hash}
    (released : ∀ error, AcceptedOrReleased victimTx (giveUp error)) :
    AcceptedOrReleased victimTx (joinSubmits label task accept giveUp lastError xs) := by
  rcases joinSubmits_ends label task accept giveUp lastError xs with ⟨path, run⟩ | ⟨error, run⟩
  · exact .inl ⟨path, by simp [run]⟩
  · exact run ▸ released error

theorem acceptedOrReleased_submitBundles (paths : List RelayQuote) (healthy : engine.capitalBudget.poisoned = false) :
    AcceptedOrReleased order.opportunity.victimTx (submitBundles config outside order paths engine) :=
  acceptedOrReleased_joinSubmits fun _ => .inr fun _ member => victimTx_ne_of_mem_settle healthy member

/-- In direct mode the release hangs on a first path, which every submission has. -/
theorem acceptedOrReleased_submitDirect {paths : List RelayQuote} (path : paths ≠ [])
    (healthy : engine.capitalBudget.poisoned = false) :
    AcceptedOrReleased order.opportunity.victimTx (submitDirect config outside order paths engine) := by
  obtain ⟨first, rest, rfl⟩ := List.exists_cons_of_ne_nil path
  have joined : AcceptedOrReleased order.opportunity.victimTx
      (joinSubmits (fun endpoint : RpcHandle => rpcLabel endpoint.name) outside.rpcSubmits.task
        (acceptedBy config outside order engine) (allRpcFailed config outside order engine (some first)) none
        (outside.rpcSubmits.order
          (directRpcSubmitEndpointsFromRankedPaths config outside.submitFleet (first :: rest)))) :=
    acceptedOrReleased_joinSubmits fun _ => .inr fun _ member => victimTx_ne_of_mem_settle healthy member
  rcases joined with ⟨path, logged⟩ | released
  · exact .inl ⟨path, List.mem_append_right _ logged⟩
  · exact .inr released

theorem acceptedOrReleased_submit (can : CanSubmit config outside order engine.executionGuard)
    (healthy : engine.capitalBudget.poisoned = false) :
    AcceptedOrReleased order.opportunity.victimTx (submit config outside order engine) := by
  obtain ⟨last, goes, budget, _⟩ := submit_goes can
  have lastHealthy : last.capitalBudget.poisoned = false := by rw [budget, healthy]
  rw [goes]
  split
  · exact acceptedOrReleased_submitBundles _ lastHealthy
  · exact acceptedOrReleased_submitDirect can.path lastHealthy

/-- Only the reserving step notes a reservation. -/
theorem reserved_not_mem_submit (reservation : BudgetReservation) :
    .reserved reservation ∉ (submit config outside order engine).log := by
  intro reserved
  by_cases can : CanSubmit config outside order engine.executionGuard
  · obtain ⟨last, goes, _, _⟩ := submit_goes can
    rw [goes] at reserved
    split at reserved
    · obtain ⟨path, same⟩ := mem_log_submitBundles reserved
      exact absurd same (by simp)
    · rcases mem_log_submitDirect reserved with ⟨_, _, _, _, _, same⟩ | ⟨path, same⟩
      · exact absurd same (by simp)
      · exact absurd same (by simp)
  · obtain ⟨result, last, stuck, _⟩ := submit_stuck can
    rw [stuck] at reserved
    exact absurd reserved (by simp [Run.exit])

/-- What a healthy budget holds once it has let a request pass. -/
theorem checkAndReserveBudget_granted {capitalBudget : Mutex CapitalBudget} {mev : MevConfig}
    {request : BudgetReservation} (healthy : capitalBudget.poisoned = false)
    (allowed : (checkAndReserveBudget capitalBudget mev request).1.allowed = true) :
    (checkAndReserveBudget capitalBudget mev request).2.poisoned = false ∧
      request ∈ (checkAndReserveBudget capitalBudget mev request).2.value.reservations := by
  rw [checkAndReserveBudget_healthy healthy] at allowed ⊢
  exact ⟨healthy, CapitalBudget.mem_checkAndReserve allowed⟩

/-- A granted call that cannot submit returns with its reservation still in the budget. -/
theorem leaks_of_stuck (granted : Granted config opportunity outside engine order)
    (healthy : engine.capitalBudget.poisoned = false)
    (stuck : ¬ CanSubmit config outside order engine.executionGuard) :
    ¬ ReleasesOnFailure (handle config opportunity outside engine) := by
  intro releases
  obtain ⟨start, run, budget, contexts⟩ := handle_granted granted
  obtain ⟨result, last, ended, kept⟩ := submit_stuck fun can => stuck (can.congr contexts)
  obtain ⟨_, pushed⟩ := checkAndReserveBudget_granted healthy granted.allowed
  have final : handle config opportunity outside engine =
      { result := result, engine := last, log := [.reserved (order.request outside.reserveAt)] } := by
    rw [run, ended, healthy]
    rfl
  rw [final] at releases
  refine releases (order.request outside.reserveAt) List.mem_cons_self (by simp) ?_
  rw [kept, budget]
  exact pushed

/-- The reservation of a granted call does not outlive a failed submission if and only if some ranked path
is open and the wallet signs: the exits before the submission forget the release. -/
theorem releasesOnFailure_iff (config : Config) (opportunity : MevOpportunity) (outside : Outside) (engine : Engine) :
    ReleasesOnFailure (handle config opportunity outside engine) ↔
      ∀ order, Granted config opportunity outside engine order → engine.capitalBudget.poisoned = false →
        CanSubmit config outside order engine.executionGuard := by
  constructor
  · intro releases order granted healthy
    by_contra stuck
    exact leaks_of_stuck granted healthy stuck releases
  · intro can reservation reserved unaccepted member
    by_cases granted : ∃ order, Granted config opportunity outside engine order
    · obtain ⟨order, granted⟩ := granted
      obtain ⟨start, run, budget, contexts⟩ := handle_granted granted
      rw [run] at reserved unaccepted member
      rcases List.mem_append.mp reserved with made | later
      · split at made
        · exact absurd made (by simp)
        · rename_i sound
          have healthy : engine.capitalBudget.poisoned = false := by simpa using sound
          have request : reservation = order.request outside.reserveAt := by simpa using made
          obtain ⟨startHealthy, _⟩ := checkAndReserveBudget_granted healthy granted.allowed
          rw [← budget] at startHealthy
          have goes := (can order granted healthy).congr fun time key => (contexts time key).symm
          rcases acceptedOrReleased_submit goes startHealthy with ⟨path, accepted⟩ | released
          · exact unaccepted path (List.mem_append_right _ accepted)
          · exact released reservation member (by rw [request]; rfl)
      · exact reserved_not_mem_submit reservation later
    · rw [handle_refused (not_exists.mp granted)] at reserved
      exact absurd reserved (by simp)

/-- Both endpoints are frozen for the pair and the router: the call returns and its reservation stays. -/
theorem frozenPaths_leak_reservation : ¬ ReleasesOnFailure (handle sendingConfig sampleOpportunity
    (sampleOutside .accepted) (frozenEngine ["rpc://alchemy-1", "rpc://infura-1"])) := by
  refine leaks_of_stuck (granted_sample .accepted _) rfl fun can => can.path ?_
  decide +kernel

end ArbitrageRuntime
