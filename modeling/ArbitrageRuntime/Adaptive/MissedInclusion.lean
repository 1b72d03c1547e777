import ArbitrageRuntime.Adaptive.Rates

namespace ArbitrageRuntime.Adaptive

open Blend

/-- What a call tells of one bundle of a relay. -/
inductive BundleEvent
  | accepted
  | missed
  | included (success : Bool)
  deriving DecidableEq

/-- The rates of bundles that were accepted in vain. -/
structure FailureRates where
  acceptedNotIncluded : ℚ
  includedRevert : ℚ

def FailureRates.after (rates : FailureRates) : BundleEvent → FailureRates
  | .accepted => ⟨ewma rates.acceptedNotIncluded 0 ewmaFast, ewma rates.includedRevert 0 ewmaFast⟩
  | .missed => ⟨ewma rates.acceptedNotIncluded 1 ewmaFast, ewma rates.includedRevert 0 ewmaFast⟩
  | .included success =>
    ⟨ewma rates.acceptedNotIncluded 0 ewmaFast, ewma rates.includedRevert (AdaptivePolicy.rate !success) ewmaFast⟩

def RelayStats.failureRates (stats : RelayStats) : FailureRates :=
  ⟨stats.acceptedNotIncludedRateEwma, stats.includedRevertRateEwma⟩

def PolicyCall.bundleEvent (relay : String) : PolicyCall → Option BundleEvent
  | .recordSubmitSuccessForRelay name _ => if name = relay then some .accepted else none
  | .recordReceiptTimeoutForRelay name _ => if name = relay then some .missed else none
  | .recordFinalizationForRelay name _ _ success _ => if name = relay then some (.included success) else none
  | _ => none

namespace AdaptivePolicy

variable (policy : AdaptivePolicy) (relay : String)

/-- The record of a relay, which starts from the defaults. -/
def relayRecord : RelayStats := (policy.relayStats relay).getD .default

def failureRates : FailureRates := (policy.relayRecord relay).failureRates

variable {policy relay}

/-- A call that writes the record of one relay leaves those of the others. -/
theorem failureRates_of_update {next : AdaptivePolicy} {name : String} {stats : RelayStats} (event : Option BundleEvent)
    (written : next.relayStats = Function.update policy.relayStats name (some stats))
    (effect : stats.failureRates = (event.map (policy.failureRates name).after).getD (policy.failureRates name)) :
    next.failureRates relay =
      ((if name = relay then event else none).map (policy.failureRates relay).after).getD
        (policy.failureRates relay) := by
  unfold failureRates relayRecord at *
  rw [written]
  by_cases same : name = relay
  · subst same
    rw [if_pos rfl, Function.update_self]
    exact effect
  · rw [if_neg same, Function.update_of_ne (Ne.symm same)]
    rfl

/-- All that a call does to the failure rates of a relay. -/
theorem failureRates_perform (curves : Curves) (call : PolicyCall) :
    (policy.perform curves call).1.failureRates relay =
      ((call.bundleEvent relay).map (policy.failureRates relay).after).getD (policy.failureRates relay) := by
  cases call with
  | recordSubmitSuccessForRelay name latencyMs => exact failureRates_of_update (some .accepted) rfl rfl
  | recordReceiptTimeoutForRelay name latencyMs => exact failureRates_of_update (some .missed) rfl rfl
  | recordFinalizationForRelay name expected realized success latencyMs =>
    exact failureRates_of_update (some (.included success)) rfl rfl
  | recordSubmitFailureForRelay name latencyMs =>
    have kept : (policy.recordSubmitFailureForRelay name latencyMs).failureRates relay = _ :=
      failureRates_of_update none rfl rfl
    rwa [ite_self] at kept
  | quoteForRelays times input relays =>
    have pruned : ∀ (later : AdaptivePolicy) (now : Instant), later.failureRates relay = policy.failureRates relay →
        (later.prune now).failureRates relay = policy.failureRates relay := fun _ _ same => same
    exact quoteForRelays_policy pruned relays rfl
  | _ => rfl

theorem failureRates_accepted (latencyMs : ℚ) :
    (policy.recordSubmitSuccessForRelay relay latencyMs).failureRates relay =
      (policy.failureRates relay).after .accepted := by
  have kept : (policy.recordSubmitSuccessForRelay relay latencyMs).failureRates relay = _ :=
    failureRates_of_update (some .accepted) rfl rfl
  rwa [if_pos rfl] at kept

theorem failureRates_missed (latencyMs : ℚ) : (policy.recordReceiptTimeoutForRelay relay latencyMs).failureRates relay =
    (policy.failureRates relay).after .missed := by
  have kept : (policy.recordReceiptTimeoutForRelay relay latencyMs).failureRates relay = _ :=
    failureRates_of_update (some .missed) rfl rfl
  rwa [if_pos rfl] at kept

theorem failureRates_included (expected : Nat) (realized : ℚ) (success : Bool) (latencyMs : ℚ) :
    (policy.recordFinalizationForRelay relay expected realized success latencyMs).failureRates relay =
      (policy.failureRates relay).after (.included success) := by
  have kept : (policy.recordFinalizationForRelay relay expected realized success latencyMs).failureRates relay = _ :=
    failureRates_of_update (some (.included success)) rfl rfl
  rwa [if_pos rfl] at kept

end AdaptivePolicy

/-- An acceptance and then a failure do not lower a rate of at most five ninths. -/
theorem le_ewma_ewma_iff (mean : ℚ) : mean ≤ ewma (ewma mean 0 ewmaFast) 1 ewmaFast ↔ mean ≤ 5 / 9 := by
  have positive : (0 : ℚ) < ewmaFast := by norm_num [ewmaFast]
  rw [ewma_eq_blend, ewma_eq_blend, le_blend_blend_iff positive]
  norm_num [ewmaFast]
  constructor
  · intro small
    linarith
  · intro small
    linarith

namespace AdaptivePolicy

variable (policy : AdaptivePolicy) (relay : String) (submitMs finalizeMs : ℚ)

theorem le_missed_iff :
    (policy.relayRecord relay).acceptedNotIncludedRateEwma ≤ (((policy.recordSubmitSuccessForRelay relay
        submitMs).recordReceiptTimeoutForRelay relay finalizeMs).relayRecord relay).acceptedNotIncludedRateEwma ↔
      (policy.relayRecord relay).acceptedNotIncludedRateEwma ≤ 5 / 9 := by
  have rates := @failureRates_missed (policy.recordSubmitSuccessForRelay relay submitMs) relay finalizeMs
  rw [failureRates_accepted] at rates
  rw [← le_ewma_ewma_iff]
  exact Iff.of_eq (congrArg _ (congrArg FailureRates.acceptedNotIncluded rates))

theorem le_reverted_iff (expectedProfitWei : Nat) (realizedProfitEth : ℚ) :
    (policy.relayRecord relay).includedRevertRateEwma ≤ (((policy.recordSubmitSuccessForRelay relay
        submitMs).recordFinalizationForRelay relay expectedProfitWei realizedProfitEth false finalizeMs).relayRecord
          relay).includedRevertRateEwma ↔
      (policy.relayRecord relay).includedRevertRateEwma ≤ 5 / 9 := by
  have rates := @failureRates_included (policy.recordSubmitSuccessForRelay relay submitMs) relay expectedProfitWei
    realizedProfitEth false finalizeMs
  rw [failureRates_accepted] at rates
  rw [← le_ewma_ewma_iff]
  exact Iff.of_eq (congrArg _ (congrArg FailureRates.includedRevert rates))

end AdaptivePolicy

/-- Every outcome of a bundle of the relay comes next after an acceptance, so that no two bundles are out at once:
`handle` waits for `observe_realized_pnl` behind each acceptance, and the run loop waits for `handle`. An
acceptance may stay without an outcome. -/
def InTurn (relay : String) : Bool → List PolicyCall → Prop
  | _, [] => True
  | out, call :: calls =>
    match call.bundleEvent relay with
    | none => InTurn relay out calls
    | some event => if event = .accepted then InTurn relay true calls else out = true ∧ InTurn relay false calls

/-- No failure rate is above a bound. -/
structure FailureRates.Within (rates : FailureRates) (bound : ℚ) : Prop where
  missed : rates.acceptedNotIncluded ≤ bound
  reverted : rates.includedRevert ≤ bound

/-- How high the failure rates get while bundles go out one by one. -/
def turnBound (out : Bool) : ℚ := if out then 4 / 9 else 5 / 9

theorem FailureRates.Within.accepted {rates : FailureRates} {out : Bool} (within : rates.Within (turnBound out)) :
    (rates.after .accepted).Within (turnBound true) := by
  have step (rate : ℚ) (le : rate ≤ turnBound out) : ewma rate 0 ewmaFast ≤ turnBound true := by
    cases out <;> norm_num [turnBound, ewma, ewmaFast] at le ⊢ <;> linarith
  exact ⟨step _ within.missed, step _ within.reverted⟩

theorem FailureRates.Within.ended {rates : FailureRates} (within : rates.Within (turnBound true)) {event : BundleEvent}
    (ends : event ≠ .accepted) : (rates.after event).Within (turnBound false) := by
  have step (rate sample : ℚ) (le : rate ≤ turnBound true) (unit : sample ≤ 1) :
      ewma rate sample ewmaFast ≤ turnBound false := by
    norm_num [turnBound, ewma, ewmaFast] at le ⊢
    linarith
  cases event with
  | accepted => exact absurd rfl ends
  | missed => exact ⟨step _ _ within.missed le_rfl, step _ _ within.reverted zero_le_one⟩
  | included success =>
    refine ⟨step _ _ within.missed zero_le_one, step _ _ within.reverted ?_⟩
    cases success <;> norm_num [AdaptivePolicy.rate]

theorem within_of_inTurn {curves : Curves} {relay : String} {policy : AdaptivePolicy} {out : Bool}
    {calls : List PolicyCall} (inTurn : InTurn relay out calls)
    (within : (policy.failureRates relay).Within (turnBound out)) :
    ((policy.afterCalls curves calls).failureRates relay).Within (5 / 9) := by
  induction calls generalizing policy out with
  | nil =>
    cases out with
    | false => exact within
    | true => exact ⟨within.missed.trans (by norm_num [turnBound]), within.reverted.trans (by norm_num [turnBound])⟩
  | cons call calls ih =>
    have effect : (policy.perform curves call).1.failureRates relay = _ :=
      AdaptivePolicy.failureRates_perform curves call
    unfold InTurn at inTurn
    cases told : call.bundleEvent relay with
    | none =>
      rw [told] at inTurn effect
      exact ih inTurn (by rwa [effect])
    | some event =>
      rw [told] at inTurn effect
      by_cases accepts : event = .accepted
      · subst accepts
        exact ih inTurn (by rw [effect]; exact within.accepted)
      · obtain ⟨outstanding, rest⟩ := (if_neg accepts).mp inTurn
        subst outstanding
        exact ih rest (by rw [effect]; exact within.ended accepts)

/-- In every state that a policy reaches, a bundle that is accepted and then missed, or reverted, does not lower the
rate of these: the bundles of a relay go out one by one. -/
theorem missedInclusion_counts_in_turn (curves : Curves) (config : PricedConfig) {calls : List PolicyCall}
    {relay : String} (inTurn : InTurn relay false calls) (submitMs finalizeMs : ℚ) (expectedProfitWei : Nat)
    (realizedProfitEth : ℚ) :
    let policy := (AdaptivePolicy.new config).afterCalls curves calls
    let accepted := policy.recordSubmitSuccessForRelay relay submitMs
    let timedOut := accepted.recordReceiptTimeoutForRelay relay finalizeMs
    let reverted := accepted.recordFinalizationForRelay relay expectedProfitWei realizedProfitEth false finalizeMs
    (policy.relayRecord relay).acceptedNotIncludedRateEwma ≤ (timedOut.relayRecord relay).acceptedNotIncludedRateEwma ∧
    (policy.relayRecord relay).includedRevertRateEwma ≤ (reverted.relayRecord relay).includedRevertRateEwma := by
  intro policy accepted timedOut reverted
  have fresh : ((AdaptivePolicy.new config).failureRates relay).Within (turnBound false) :=
    ⟨show (0.14 : ℚ) ≤ 5 / 9 by norm_num, show (0.08 : ℚ) ≤ 5 / 9 by norm_num⟩
  have within : (policy.failureRates relay).Within (5 / 9) := within_of_inTurn inTurn fresh
  exact ⟨(policy.le_missed_iff relay submitMs finalizeMs).mpr within.missed,
    (policy.le_reverted_iff relay submitMs finalizeMs expectedProfitWei realizedProfitEth).mpr within.reverted⟩

/-- Four failures in a row, and a fifth. -/
theorem missedInclusion_counts_after_four :
    let submit := PolicyCall.recordSubmitSuccessForRelay "relay" 100
    let miss := PolicyCall.recordReceiptTimeoutForRelay "relay" 6000
    let revert := PolicyCall.recordFinalizationForRelay "relay" (10 ^ 15) 0 false 6000
    let policy := (AdaptivePolicy.new samplePriced).afterCalls sampleCurves
      [submit, miss, submit, revert, submit, miss, submit, revert]
    (policy.relayRecord "relay").acceptedNotIncludedRateEwma ≤ (((policy.recordSubmitSuccessForRelay "relay"
        100).recordReceiptTimeoutForRelay "relay" 6000).relayRecord "relay").acceptedNotIncludedRateEwma ∧
    (policy.relayRecord "relay").includedRevertRateEwma ≤ (((policy.recordSubmitSuccessForRelay "relay"
        100).recordFinalizationForRelay "relay" (10 ^ 15) 0 false 6000).relayRecord "relay").includedRevertRateEwma := by
  intro submit miss revert policy
  have inTurn : InTurn "relay" false [submit, miss, submit, revert, submit, miss, submit, revert] := by
    simp [InTurn, PolicyCall.bundleEvent, submit, miss, revert]
  exact missedInclusion_counts_in_turn sampleCurves samplePriced inTurn 100 6000 (10 ^ 15) 0

end ArbitrageRuntime.Adaptive
