import ArbitrageRuntime.Engine.Submission

namespace ArbitrageRuntime

variable {config : Config} {opportunity : MevOpportunity} {outside : Outside} {engine : Engine} {order : Order}

/-- Every transaction that the call sends directly goes to an endpoint whose context is not frozen when it
is sent. -/
def RespectsContextStopLoss (config : Config) (opportunity : MevOpportunity) (outside : Outside) (engine : Engine) :
    Prop :=
  ∀ payload, opportunity.executionPayload = some payload → ∀ endpoint time guard,
    .sent endpoint time guard ∈ (handle config opportunity outside engine).log →
      ¬ ContextFrozen guard time
        { pair := payload.pair, router := opportunity.router, submitPath := rpcLabel endpoint.name }

/-- The endpoints that the fleet offers when the call submits directly are not frozen, those at least that
get as far as sending. -/
def OffersUnfrozen (config : Config) (opportunity : MevOpportunity) (outside : Outside) (engine : Engine) : Prop :=
  ∀ order, Granted config opportunity outside engine order → CanSubmit config outside order engine.executionGuard →
    config.usesBundleRelays = false →
    ∀ endpoint ∈ outside.submitFleet.sendCandidates (max config.mev.rpcFanoutCount 1), ∀ time result,
      outside.rpcSubmits.task endpoint = .sent time result →
      ¬ ContextFrozen engine.executionGuard time (order.freezeKey (rpcLabel endpoint.name))

/-- Every candidate of the fleet gets the transaction, whichever paths are left. -/
theorem sent_mem_log_submitDirect {paths : List RelayQuote} {endpoint : RpcHandle} {time : Instant}
    {guard : Mutex ExecutionGuard} :
    .sent endpoint time guard ∈ (submitDirect config outside order paths engine).log ↔
      endpoint ∈ outside.submitFleet.sendCandidates (max config.mev.rpcFanoutCount 1) ∧
        (∃ result, outside.rpcSubmits.task endpoint = .sent time result) ∧ guard = engine.executionGuard := by
  have offered := (directRpcSubmitEndpointsFromRankedPaths_perm config outside.submitFleet paths).mem_iff
    (a := endpoint)
  rw [← offered]
  constructor
  · intro member
    rcases mem_log_submitDirect member with ⟨other, inside, sentAt, result, task, same⟩ | ⟨path, same⟩
    · cases same
      exact ⟨inside, ⟨result, task⟩, rfl⟩
    · exact absurd same (by simp)
  · rintro ⟨inside, ⟨result, task⟩, rfl⟩
    exact List.mem_append_left _ (List.mem_filterMap.mpr ⟨endpoint, inside, by simp [task]⟩)

/-- Whatever a call sends directly goes to an endpoint that the fleet offers at that point of the call. -/
theorem sent_spec {endpoint : RpcHandle} {time : Instant} {guard : Mutex ExecutionGuard}
    (sent : .sent endpoint time guard ∈ (handle config opportunity outside engine).log) :
    ∃ order, Granted config opportunity outside engine order ∧ CanSubmit config outside order engine.executionGuard ∧
      config.usesBundleRelays = false ∧
      endpoint ∈ outside.submitFleet.sendCandidates (max config.mev.rpcFanoutCount 1) ∧
      ∃ result, outside.rpcSubmits.task endpoint = .sent time result ∧
        ∀ key, ContextFrozen guard time key → ContextFrozen engine.executionGuard time key := by
  by_cases granted : ∃ order, Granted config opportunity outside engine order
  · obtain ⟨order, granted⟩ := granted
    obtain ⟨start, run, _, contexts⟩ := handle_granted granted
    simp only [run, Run.after, List.mem_append] at sent
    rcases sent with reserved | submitted
    · split at reserved
      · exact absurd reserved (by simp)
      · exact absurd reserved (by simp)
    by_cases can : CanSubmit config outside order start.executionGuard
    · obtain ⟨last, goes, _, after⟩ := submit_goes can
      rw [goes] at submitted
      split at submitted
      · obtain ⟨path, same⟩ := mem_log_submitBundles submitted
        exact absurd same (by simp)
      · rename_i direct
        obtain ⟨member, ⟨result, task⟩, rfl⟩ := sent_mem_log_submitDirect.mp submitted
        have past := outside.sent_after_checks endpoint time result task
        refine ⟨order, granted, can.congr contexts, by simpa using direct, member, result, task, fun key frozen => ?_⟩
        exact (contexts time key).mp ((after time past key).mp frozen)
    · obtain ⟨result, last, stuck, _⟩ := submit_stuck can
      rw [stuck] at submitted
      exact absurd submitted (by simp [Run.exit])
  · have silent := handle_refused (not_exists.mp granted)
    rw [silent] at sent
    exact absurd sent (by simp)

/-- A call that gets to direct submission sends to every endpoint that the fleet offers. -/
theorem sent_of_offered (granted : Granted config opportunity outside engine order)
    (can : CanSubmit config outside order engine.executionGuard) (direct : config.usesBundleRelays = false)
    {endpoint : RpcHandle} (member : endpoint ∈ outside.submitFleet.sendCandidates (max config.mev.rpcFanoutCount 1))
    {time : Instant} {result : SubmitResult} (task : outside.rpcSubmits.task endpoint = .sent time result) :
    ∃ guard, .sent endpoint time guard ∈ (handle config opportunity outside engine).log ∧
      ∀ key, ContextFrozen engine.executionGuard time key → ContextFrozen guard time key := by
  obtain ⟨start, run, _, contexts⟩ := handle_granted granted
  obtain ⟨last, goes, _, after⟩ := submit_goes (can.congr fun time key => (contexts time key).symm)
  have past := outside.sent_after_checks endpoint time result task
  refine ⟨last.executionGuard, ?_, fun key frozen => (after time past key).mpr ((contexts time key).mpr frozen)⟩
  simp only [run, Run.after, goes, direct, Bool.false_eq_true, if_false]
  exact List.mem_append_right _ (sent_mem_log_submitDirect.mpr ⟨member, ⟨result, task⟩, rfl⟩)

/-- The contextual stop-loss is respected on direct submission if and only if the fleet offers no frozen
endpoint: the filter on the ranked paths keeps no endpoint away. -/
theorem respectsContextStopLoss_iff (config : Config) (opportunity : MevOpportunity) (outside : Outside)
    (engine : Engine) :
    RespectsContextStopLoss config opportunity outside engine ↔ OffersUnfrozen config opportunity outside engine := by
  constructor
  · intro respects order granted can direct endpoint member time result task frozen
    obtain ⟨payload, same, _⟩ := prepareOrder_ok granted.prepared
    obtain ⟨guard, sent, still⟩ := sent_of_offered granted can direct member task
    have unfrozen := respects order.payload payload endpoint time guard sent
    rw [← same] at unfrozen
    exact unfrozen (still _ frozen)
  · intro offers payload present endpoint time guard sent frozen
    obtain ⟨order, granted, can, direct, member, result, task, before⟩ := sent_spec sent
    obtain ⟨found, same, _⟩ := prepareOrder_ok granted.prepared
    cases Option.some.inj (present.symm.trans found)
    have unfrozen := offers order granted can direct endpoint member time result task
    rw [← same] at frozen
    exact unfrozen (before _ frozen)

/-- One of two endpoints is frozen for the pair and the router, and the transaction is sent to it all the
same. -/
theorem frozenEndpoint_receives_transaction : ¬ RespectsContextStopLoss sendingConfig sampleOpportunity
    (sampleOutside .accepted) (frozenEngine ["rpc://alchemy-1"]) := by
  intro respects
  have can : CanSubmit sendingConfig (sampleOutside .accepted) sampleOrder
      (frozenEngine ["rpc://alchemy-1"]).executionGuard := ⟨by decide +kernel, [1], rfl⟩
  have member : { id := 0, name := "alchemy-1" } ∈
      (sampleOutside .accepted).submitFleet.sendCandidates (max sendingConfig.mev.rpcFanoutCount 1) := by
    change _ ∈ sampleFleet.sendCandidates 2
    rw [sampleFleet_sendCandidates]
    exact List.mem_cons_self
  obtain ⟨guard, sent, still⟩ := sent_of_offered (granted_sample .accepted ["rpc://alchemy-1"]) can rfl member rfl
  exact respects samplePayload rfl _ 9 guard sent (still _ (by decide +kernel))

end ArbitrageRuntime
