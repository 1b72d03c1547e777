import ArbitrageRuntime.Adaptive.Rebuilt
import ArbitrageRuntime.Lib.Blend

namespace ArbitrageRuntime.Adaptive

open Blend

theorem ewma_eq_blend (current sample alpha : ℚ) : ewma current sample alpha = blend alpha current sample := by
  simp only [ewma, blend, smul_eq_mul]
  ring

theorem ewmaFast_unit : ewmaFast ∈ Set.Icc (0 : ℚ) 1 := by norm_num [ewmaFast]

theorem ewmaSlow_unit : ewmaSlow ∈ Set.Icc (0 : ℚ) 1 := by norm_num [ewmaSlow]

/-- The values that a capture may have. -/
abbrev Captures : Set ℚ := Set.Icc 0 1.25

theorem captureRatio_mem (expectedProfitWei : Nat) (realizedProfitEth : ℚ) :
    captureRatio expectedProfitWei realizedProfitEth ∈ Captures := by
  unfold captureRatio
  split
  · exact clamp_mem (by norm_num) _
  · exact ⟨le_rfl, by norm_num⟩

theorem ewma_capture {current alpha : ℚ} (unit : alpha ∈ Set.Icc (0 : ℚ) 1) (inside : current ∈ Captures)
    (expectedProfitWei : Nat) (realizedProfitEth : ℚ) :
    ewma current (captureRatio expectedProfitWei realizedProfitEth) alpha ∈ Captures := by
  rw [ewma_eq_blend]
  exact blend_mem (convex_Icc _ _) unit inside (captureRatio_mem _ _)

/-- Two rates of exclusive events move towards two others. -/
theorem ewma_pair {a b a' b' : ℚ} (inside : ![a, b] ∈ shares ℚ (Fin 2)) (sample : ![a', b'] ∈ shares ℚ (Fin 2)) :
    ![ewma a a' ewmaFast, ewma b b' ewmaFast] ∈ shares ℚ (Fin 2) := by
  rw [ewma_eq_blend, ewma_eq_blend, ← blend_pair]
  exact blend_mem convex_shares ewmaFast_unit inside sample

theorem ewma_triple {a b c a' b' c' : ℚ} (inside : ![a, b, c] ∈ shares ℚ (Fin 3))
    (sample : ![a', b', c'] ∈ shares ℚ (Fin 3)) :
    ![ewma a a' ewmaFast, ewma b b' ewmaFast, ewma c c' ewmaFast] ∈ shares ℚ (Fin 3) := by
  rw [ewma_eq_blend, ewma_eq_blend, ewma_eq_blend, ← blend_triple]
  exact blend_mem convex_shares ewmaFast_unit inside sample

/-- What does not change moves towards itself. -/
theorem ewma_self (current alpha : ℚ) : ewma current current alpha = current := by
  unfold ewma
  ring

/-- An acceptance says nothing on the inclusion, but lowers the two rates of failed inclusions. -/
theorem ewma_accepted {a b c : ℚ} (inside : ![a, b, c] ∈ shares ℚ (Fin 3)) :
    ![a, ewma b 0 ewmaFast, ewma c 0 ewmaFast] ∈ shares ℚ (Fin 3) := by
  obtain ⟨aNonneg, bNonneg, cNonneg, sum⟩ := triple_mem_shares.mp inside
  have sample : ![a, 0, 0] ∈ shares ℚ (Fin 3) :=
    triple_mem_shares.mpr ⟨aNonneg, le_rfl, le_rfl, by linarith⟩
  have moved := ewma_triple inside sample
  rwa [ewma_self] at moved

theorem rates_pair (happened : Bool) :
    ![AdaptivePolicy.rate happened, AdaptivePolicy.rate !happened] ∈ shares ℚ (Fin 2) := by
  cases happened <;> exact pair_mem_shares.mpr (by norm_num [AdaptivePolicy.rate])

theorem rates_triple (happened : Bool) : ![AdaptivePolicy.rate happened, 0, AdaptivePolicy.rate !happened] ∈
    shares ℚ (Fin 3) := by
  cases happened <;> exact triple_mem_shares.mpr (by norm_num [AdaptivePolicy.rate])

structure RelayStats.Meaningful (stats : RelayStats) : Prop where
  submissions : ![stats.relayAcceptRateEwma, stats.relayRejectRateEwma] ∈ shares ℚ (Fin 2)
  outcomes : ![stats.inclusionSuccessRateEwma, stats.acceptedNotIncludedRateEwma, stats.includedRevertRateEwma] ∈
    shares ℚ (Fin 3)
  capture : stats.realizedCaptureEwma ∈ Captures

structure RelayContextStats.Meaningful (stats : RelayContextStats) : Prop where
  outcomes : ![stats.inclusionSuccessRateEwma, stats.acceptedNotIncludedRateEwma, stats.includedRevertRateEwma] ∈
    shares ℚ (Fin 3)
  capture : stats.realizedCaptureEwma ∈ Captures

theorem RelayStats.default_meaningful : RelayStats.default.Meaningful where
  submissions := pair_mem_shares.mpr (by norm_num [RelayStats.default])
  outcomes := triple_mem_shares.mpr (by norm_num [RelayStats.default])
  capture := by norm_num [RelayStats.default]

theorem RelayContextStats.default_meaningful : RelayContextStats.default.Meaningful where
  outcomes := triple_mem_shares.mpr (by norm_num [RelayContextStats.default])
  capture := by norm_num [RelayContextStats.default]

/-- The rates of one kind are shares of a whole, those of the policy itself as those of every relay and context. -/
structure PolicyStatistics.Meaningful (statistics : PolicyStatistics) : Prop where
  submissions : ![statistics.relayAcceptRateEwma, statistics.relayRejectRateEwma] ∈ shares ℚ (Fin 2)
  outcomes : ![statistics.inclusionSuccessRateEwma, statistics.acceptedNotIncludedRateEwma,
    statistics.includedRevertRateEwma] ∈ shares ℚ (Fin 3)
  successes : ![statistics.successRateEwma, statistics.failureRateEwma] ∈ shares ℚ (Fin 2)
  timeouts : statistics.timeoutRateEwma ∈ Set.Icc (0 : ℚ) 1
  capture : statistics.realizedCaptureEwma ∈ Captures
  relays : ∀ relay stats, statistics.relayStats relay = some stats → stats.Meaningful
  contexts : ∀ key stats, statistics.relayContextStats key = some stats → stats.Meaningful

theorem chainPreset_biases (network : String) :
    ![(chainAdaptivePreset network).successBias, (chainAdaptivePreset network).failureBias] ∈ shares ℚ (Fin 2) := by
  unfold chainAdaptivePreset
  split
  · exact pair_mem_shares.mpr (by norm_num)
  · split
    · exact pair_mem_shares.mpr (by norm_num)
    · exact pair_mem_shares.mpr (by norm_num)

theorem PolicyStatistics.initial_meaningful (network : String) : (PolicyStatistics.initial network).Meaningful where
  submissions := pair_mem_shares.mpr (by norm_num [PolicyStatistics.initial])
  outcomes := triple_mem_shares.mpr (by norm_num [PolicyStatistics.initial])
  successes := chainPreset_biases network
  timeouts := by norm_num [PolicyStatistics.initial]
  capture := by norm_num [PolicyStatistics.initial]
  relays := by simp [PolicyStatistics.initial]
  contexts := by simp [PolicyStatistics.initial]

namespace AdaptivePolicy

variable {policy : AdaptivePolicy}

theorem recordSubmitSuccess_meaningful (inv : policy.Meaningful) (latencyMs : ℚ) :
    (policy.recordSubmitSuccess latencyMs).Meaningful where
  submissions := ewma_pair inv.submissions (pair_mem_shares.mpr (by norm_num))
  outcomes := ewma_accepted inv.outcomes
  successes := inv.successes
  timeouts := inv.timeouts
  capture := inv.capture
  relays := inv.relays
  contexts := inv.contexts

theorem recordSubmitFailure_meaningful (inv : policy.Meaningful) (latencyMs : ℚ) :
    (policy.recordSubmitFailure latencyMs).Meaningful where
  submissions := ewma_pair inv.submissions (pair_mem_shares.mpr (by norm_num))
  outcomes := inv.outcomes
  successes := ewma_pair inv.successes (pair_mem_shares.mpr (by norm_num))
  timeouts := inv.timeouts
  capture := inv.capture
  relays := inv.relays
  contexts := inv.contexts

theorem recordFinalization_meaningful (inv : policy.Meaningful) (expectedProfitWei : Nat) (realizedProfitEth : ℚ)
    (success : Bool) (latencyMs : ℚ) :
    (policy.recordFinalization expectedProfitWei realizedProfitEth success latencyMs).Meaningful where
  submissions := inv.submissions
  outcomes := ewma_triple inv.outcomes (rates_triple success)
  successes := ewma_pair inv.successes (rates_pair success)
  timeouts := by
    show ewma policy.timeoutRateEwma 0 ewmaFast ∈ _
    rw [ewma_eq_blend]
    exact blend_mem (convex_Icc _ _) ewmaFast_unit inv.timeouts (by norm_num)
  capture := ewma_capture ewmaSlow_unit inv.capture _ _
  relays := inv.relays
  contexts := inv.contexts

theorem recordReceiptTimeout_meaningful (inv : policy.Meaningful) (latencyMs : ℚ) :
    (policy.recordReceiptTimeout latencyMs).Meaningful where
  submissions := inv.submissions
  outcomes := ewma_triple inv.outcomes (triple_mem_shares.mpr (by norm_num))
  successes := ewma_pair inv.successes (pair_mem_shares.mpr (by norm_num))
  timeouts := by
    show ewma policy.timeoutRateEwma 1 ewmaFast ∈ _
    rw [ewma_eq_blend]
    exact blend_mem (convex_Icc _ _) ewmaFast_unit inv.timeouts (by norm_num)
  capture := inv.capture
  relays := inv.relays
  contexts := inv.contexts

theorem updateRelay_meaningful (inv : policy.Meaningful) (relay : String) {change : RelayStats → RelayStats}
    (keeps : ∀ stats, stats.Meaningful → (change stats).Meaningful) : (policy.updateRelay relay change).Meaningful where
  submissions := inv.submissions
  outcomes := inv.outcomes
  successes := inv.successes
  timeouts := inv.timeouts
  capture := inv.capture
  relays := by
    intro other stats found
    change Function.update policy.relayStats relay _ other = some stats at found
    by_cases same : other = relay
    · subst same
      rw [Function.update_self] at found
      rw [← Option.some.inj found]
      apply keeps
      cases known : policy.relayStats other with
      | none => exact RelayStats.default_meaningful
      | some stats => exact inv.relays other stats known
    · rw [Function.update_of_ne same] at found
      exact inv.relays other stats found
  contexts := inv.contexts

theorem recordContextualOutcome_meaningful (inv : policy.Meaningful) (relay : String) (cluster : ClusterKey)
    (expectedProfitWei : Nat) (realizedProfitEth : ℚ) (outcome : ContextualOutcomeKind) :
    (policy.recordContextualOutcome relay cluster expectedProfitWei realizedProfitEth outcome).Meaningful where
  submissions := inv.submissions
  outcomes := inv.outcomes
  successes := inv.successes
  timeouts := inv.timeouts
  capture := inv.capture
  relays := inv.relays
  contexts := by
    intro key stats found
    have before : ((policy.relayContextStats (relay, cluster)).getD .default).Meaningful := by
      cases known : policy.relayContextStats (relay, cluster) with
      | none => exact RelayContextStats.default_meaningful
      | some stats => exact inv.contexts (relay, cluster) stats known
    by_cases same : key = (relay, cluster)
    · subst same
      change Function.update policy.relayContextStats (relay, cluster) _ (relay, cluster) = some stats at found
      rw [Function.update_self] at found
      rw [← Option.some.inj found]
      constructor
      · cases outcome <;> exact ewma_triple before.outcomes (triple_mem_shares.mpr (by norm_num))
      · exact ewma_capture ewmaFast_unit before.capture _ _
    · change Function.update policy.relayContextStats (relay, cluster) _ key = some stats at found
      rw [Function.update_of_ne same] at found
      exact inv.contexts key stats found

theorem recordSubmitSuccessForRelay_meaningful (inv : policy.Meaningful) (relay : String) (latencyMs : ℚ) :
    (policy.recordSubmitSuccessForRelay relay latencyMs).Meaningful := by
  refine recordSubmitSuccess_meaningful (updateRelay_meaningful inv relay fun stats before => ?_) latencyMs
  exact ⟨ewma_pair before.submissions (pair_mem_shares.mpr (by norm_num)), ewma_accepted before.outcomes,
    before.capture⟩

theorem recordSubmitFailureForRelay_meaningful (inv : policy.Meaningful) (relay : String) (latencyMs : ℚ) :
    (policy.recordSubmitFailureForRelay relay latencyMs).Meaningful := by
  refine recordSubmitFailure_meaningful (updateRelay_meaningful inv relay fun stats before => ?_) latencyMs
  exact ⟨ewma_pair before.submissions (pair_mem_shares.mpr (by norm_num)), before.outcomes, before.capture⟩

theorem recordFinalizationForRelay_meaningful (inv : policy.Meaningful) (relay : String) (expectedProfitWei : Nat)
    (realizedProfitEth : ℚ) (success : Bool) (latencyMs : ℚ) :
    (policy.recordFinalizationForRelay relay expectedProfitWei realizedProfitEth success latencyMs).Meaningful := by
  refine recordFinalization_meaningful (updateRelay_meaningful inv relay fun stats before => ?_) _ _ _ _
  exact ⟨before.submissions, ewma_triple before.outcomes (rates_triple success),
    ewma_capture ewmaSlow_unit before.capture _ _⟩

theorem recordReceiptTimeoutForRelay_meaningful (inv : policy.Meaningful) (relay : String) (latencyMs : ℚ) :
    (policy.recordReceiptTimeoutForRelay relay latencyMs).Meaningful := by
  refine recordReceiptTimeout_meaningful (updateRelay_meaningful inv relay fun stats before => ?_) latencyMs
  exact ⟨before.submissions, ewma_triple before.outcomes (triple_mem_shares.mpr (by norm_num)), before.capture⟩

/-- No quote changes more than the flows. -/
theorem prune_meaningful (inv : policy.Meaningful) (now : Instant) : (policy.prune now).Meaningful :=
  ⟨inv.submissions, inv.outcomes, inv.successes, inv.timeouts, inv.capture, inv.relays, inv.contexts⟩

variable (curves : Curves)

theorem perform_meaningful (inv : policy.Meaningful) (call : PolicyCall) :
    (policy.perform curves call).1.Meaningful := by
  cases call with
  | applyHistoricalProfiles profiles =>
    exact ⟨inv.submissions, inv.outcomes, inv.successes, inv.timeouts, inv.capture, inv.relays, inv.contexts⟩
  | observeLookupLatency latencyMs =>
    exact ⟨inv.submissions, inv.outcomes, inv.successes, inv.timeouts, inv.capture, inv.relays, inv.contexts⟩
  | observeCandidateFlow now key notionalWei gasPriceWei =>
    exact ⟨inv.submissions, inv.outcomes, inv.successes, inv.timeouts, inv.capture, inv.relays, inv.contexts⟩
  | preflightScore now input => exact prune_meaningful inv now
  | quote now input => exact prune_meaningful inv now
  | quoteForRelays times input relays =>
    have pruned : ∀ (later : AdaptivePolicy) (now : Instant), later.Meaningful → (later.prune now).Meaningful :=
      fun _ now before => prune_meaningful before now
    exact quoteForRelays_policy pruned relays inv
  | recordSubmitSuccess latencyMs => exact recordSubmitSuccess_meaningful inv latencyMs
  | recordSubmitSuccessForRelay relay latencyMs => exact recordSubmitSuccessForRelay_meaningful inv relay latencyMs
  | recordSubmitFailure latencyMs => exact recordSubmitFailure_meaningful inv latencyMs
  | recordSubmitFailureForRelay relay latencyMs => exact recordSubmitFailureForRelay_meaningful inv relay latencyMs
  | recordFinalization expected realized success latencyMs =>
    exact recordFinalization_meaningful inv expected realized success latencyMs
  | recordFinalizationForRelay relay expected realized success latencyMs =>
    exact recordFinalizationForRelay_meaningful inv relay expected realized success latencyMs
  | recordContextualOutcome relay cluster expected realized outcome =>
    exact recordContextualOutcome_meaningful inv relay cluster expected realized outcome
  | recordReceiptTimeout latencyMs => exact recordReceiptTimeout_meaningful inv latencyMs
  | recordReceiptTimeoutForRelay relay latencyMs => exact recordReceiptTimeoutForRelay_meaningful inv relay latencyMs

/-- The policy after a sequence of calls. -/
def afterCalls (policy : AdaptivePolicy) (calls : List PolicyCall) : AdaptivePolicy :=
  calls.foldl (fun policy call => (policy.perform curves call).1) policy

theorem afterCalls_meaningful (inv : policy.Meaningful) (calls : List PolicyCall) :
    (policy.afterCalls curves calls).Meaningful := by
  induction calls generalizing policy with
  | nil => exact inv
  | cons call calls ih => exact ih (perform_meaningful curves inv call)

end AdaptivePolicy

def PolicyStatistics.rates (statistics : PolicyStatistics) : List ℚ :=
  [statistics.relayAcceptRateEwma, statistics.relayRejectRateEwma, statistics.inclusionSuccessRateEwma,
    statistics.acceptedNotIncludedRateEwma, statistics.includedRevertRateEwma, statistics.successRateEwma,
    statistics.failureRateEwma, statistics.timeoutRateEwma]

def RelayStats.rates (stats : RelayStats) : List ℚ :=
  [stats.relayAcceptRateEwma, stats.relayRejectRateEwma, stats.inclusionSuccessRateEwma,
    stats.acceptedNotIncludedRateEwma, stats.includedRevertRateEwma]

def RelayContextStats.rates (stats : RelayContextStats) : List ℚ :=
  [stats.inclusionSuccessRateEwma, stats.acceptedNotIncludedRateEwma, stats.includedRevertRateEwma]

theorem PolicyStatistics.Meaningful.rates_mem {statistics : PolicyStatistics} (inv : statistics.Meaningful) :
    ∀ rate ∈ statistics.rates, rate ∈ Set.Icc (0 : ℚ) 1 := by
  simp only [PolicyStatistics.rates, List.forall_mem_cons, List.not_mem_nil, false_implies, implies_true, and_true]
  exact ⟨share_mem inv.submissions 0, share_mem inv.submissions 1, share_mem inv.outcomes 0, share_mem inv.outcomes 1,
    share_mem inv.outcomes 2, share_mem inv.successes 0, share_mem inv.successes 1, inv.timeouts⟩

theorem RelayStats.Meaningful.rates_mem {stats : RelayStats} (inv : stats.Meaningful) :
    ∀ rate ∈ stats.rates, rate ∈ Set.Icc (0 : ℚ) 1 := by
  simp only [RelayStats.rates, List.forall_mem_cons, List.not_mem_nil, false_implies, implies_true, and_true]
  exact ⟨share_mem inv.submissions 0, share_mem inv.submissions 1, share_mem inv.outcomes 0, share_mem inv.outcomes 1,
    share_mem inv.outcomes 2⟩

theorem RelayContextStats.Meaningful.rates_mem {stats : RelayContextStats} (inv : stats.Meaningful) :
    ∀ rate ∈ stats.rates, rate ∈ Set.Icc (0 : ℚ) 1 := by
  simp only [RelayContextStats.rates, List.forall_mem_cons, List.not_mem_nil, false_implies, implies_true, and_true]
  exact ⟨share_mem inv.outcomes 0, share_mem inv.outcomes 1, share_mem inv.outcomes 2⟩

/-- After any sequence of calls to a new policy, the statistics are what the scores take them for. -/
theorem statistics_stay_meaningful (curves : Curves) (config : PricedConfig) (calls : List PolicyCall) :
    let policy := (AdaptivePolicy.new config).afterCalls curves calls
    ((∀ rate ∈ policy.rates, rate ∈ Set.Icc (0 : ℚ) 1) ∧ policy.realizedCaptureEwma ∈ Set.Icc (0 : ℚ) 1.25) ∧
    (∀ relay stats, policy.relayStats relay = some stats →
      (∀ rate ∈ stats.rates, rate ∈ Set.Icc (0 : ℚ) 1) ∧ stats.realizedCaptureEwma ∈ Set.Icc (0 : ℚ) 1.25 ∧
      stats.relayAcceptRateEwma + stats.relayRejectRateEwma ≤ 1 ∧
      stats.inclusionSuccessRateEwma + stats.acceptedNotIncludedRateEwma + stats.includedRevertRateEwma ≤ 1) ∧
    ∀ relay cluster stats, policy.relayContextStats (relay, cluster) = some stats →
      (∀ rate ∈ stats.rates, rate ∈ Set.Icc (0 : ℚ) 1) ∧ stats.realizedCaptureEwma ∈ Set.Icc (0 : ℚ) 1.25 ∧
      stats.inclusionSuccessRateEwma + stats.acceptedNotIncludedRateEwma + stats.includedRevertRateEwma ≤ 1 := by
  intro policy
  have inv : policy.Meaningful :=
    AdaptivePolicy.afterCalls_meaningful curves (PolicyStatistics.initial_meaningful config.network) calls
  refine ⟨⟨inv.rates_mem, inv.capture⟩, ?_, ?_⟩
  · intro relay stats found
    have own := inv.relays relay stats found
    exact ⟨own.rates_mem, own.capture, (pair_mem_shares.mp own.submissions).2.2,
      (triple_mem_shares.mp own.outcomes).2.2.2⟩
  · intro relay cluster stats found
    have own := inv.contexts (relay, cluster) stats found
    exact ⟨own.rates_mem, own.capture, (triple_mem_shares.mp own.outcomes).2.2.2⟩

end ArbitrageRuntime.Adaptive
