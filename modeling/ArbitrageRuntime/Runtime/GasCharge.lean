import ArbitrageRuntime.Adaptive.Rebuilt
import ArbitrageRuntime.Builder.ProfitUnits
import ArbitrageRuntime.Runtime.LiveStages

namespace ArbitrageRuntime

namespace Adaptive

namespace AdaptiveQuote

/-- The expected value with the penalties put back. -/
def beforePenalties (quote : AdaptiveQuote) : ℚ :=
  quote.evRealUsd + quote.competitionPenaltyUsd + quote.riskPenaltyUsd + quote.pathPenaltyUsd

/-- A profit counts with its probability, a cost counts in full. -/
structure Accounts (profitUsd costUsd : ℚ) (quote : AdaptiveQuote) : Prop where
  value : quote.beforePenalties = quote.pPositive * profitUsd - costUsd
  chance : 0 < quote.pPositive

/-- One profit can stand in for another only where both are worth the same. -/
theorem Accounts.other_profit_iff {profitUsd costUsd : ℚ} {quote : AdaptiveQuote}
    (accounts : quote.Accounts profitUsd costUsd) (otherUsd : ℚ) :
    quote.beforePenalties = quote.pPositive * otherUsd - costUsd ↔ profitUsd = otherUsd := by
  rw [accounts.value, sub_left_inj]
  exact mul_right_inj' accounts.chance.ne'

end AdaptiveQuote

namespace AdaptivePolicy

variable (policy : AdaptivePolicy) (curves : Curves) (now : Instant) (input : AdaptiveQuoteInput)

/-- What native wei are worth to the policy. -/
def usd (wei : Nat) : ℚ := weiToEth wei * policy.ethUsdPrice

theorem usd_add (left right : Nat) : policy.usd (left + right) = policy.usd left + policy.usd right := by
  unfold usd weiToEth
  push_cast
  ring

theorem usd_eq_zero_iff (wei : Nat) : policy.usd wei = 0 ↔ wei = 0 ∨ policy.ethUsdPrice = 0 := by
  unfold usd weiToEth
  rw [mul_eq_zero, div_eq_zero_iff, Nat.cast_eq_zero]
  have unit : (weiPerEth : ℚ) ≠ 0 := by norm_num [weiPerEth]
  simp only [unit, or_false]

theorem adaptiveQuote_chance : 0 < (policy.adaptiveQuote curves now input).pPositive := by
  have least : (0.04 : ℚ) ≤ (policy.adaptiveQuote curves now input).pPositive := by
    simp only [adaptiveQuote]
    split
    · exact le_max_left _ _
    · exact le_max_left _ _
  exact lt_of_lt_of_le (by norm_num) least

theorem adaptiveQuote_accounts : (policy.adaptiveQuote curves now input).Accounts (policy.usd input.expectedProfitWei)
    (policy.usd input.executionCostWei) where
  value := by
    have real : (policy.adaptiveQuote curves now input).evRealUsd =
        (policy.adaptiveQuote curves now input).pPositive * policy.usd input.expectedProfitWei -
          policy.usd input.executionCostWei - (policy.adaptiveQuote curves now input).competitionPenaltyUsd -
          (policy.adaptiveQuote curves now input).riskPenaltyUsd -
          (policy.adaptiveQuote curves now input).pathPenaltyUsd := rfl
    unfold AdaptiveQuote.beforePenalties
    rw [real]
    ring
  chance := policy.adaptiveQuote_chance curves now input

/-- The relays of a quote do not change what it makes of profit and cost. -/
theorem quoteForRelays_accounts (times : Nat → Instant) (relays : List String) :
    (policy.quoteForRelays curves times input relays).2.Accounts (policy.usd input.expectedProfitWei)
      (policy.usd input.executionCostWei) := by
  have pruned : ∀ (later : AdaptivePolicy) (now : Instant), later.ethUsdPrice = policy.ethUsdPrice →
      (later.prune now).ethUsdPrice = policy.ethUsdPrice := fun _ _ same => same
  refine quoteForRelays_quote pruned (fun later now override relay same => ?_) relays rfl
  have accounts := later.adaptiveQuote_accounts curves now { input with relayPressureOverride := override }
  have worth : ∀ wei, later.usd wei = policy.usd wei := fun wei => congrArg (weiToEth wei * ·) same
  rw [worth, worth] at accounts
  exact ⟨accounts.value, accounts.chance⟩

end AdaptivePolicy

end Adaptive

/-- The gross profit of the chosen size, as the telemetry sample of the payload has it. -/
def ExecutionPayload.grossProfitWei (payload : ExecutionPayload) : Nat :=
  (payload.edgeMetadata.map fun metadata => metadata.grossEdgeWei.toNat).getD 0

/-- Outside research mode the profit that a payload promises has paid for its gas. -/
theorem grossProfit_of_built {config : PricedConfig} {request : FeeExtractionBuildInput} {payload : ExecutionPayload}
    (live : payloadShadowResearchMode config.toConfig = false)
    (built : buildFeeExtractionV2 config.toConfig request = .ok payload ∨
      buildFeeExtractionV3 config.toConfig request = .ok payload) :
    payload.grossProfitWei = payload.expectedProfitWei + safetyGasCostWei config payload request.gasPriceWei := by
  have booked : ∀ gross net, simulatedProfitWei config.toConfig gross net = net := by
    intro gross net
    rw [simulatedProfitWei, live, if_neg Bool.false_ne_true]
  rcases built with v2 | v3
  · obtain ⟨prepared, selected, repaymentNative, minProfitWei, executor, bps, _, _, sized, _, _, _, _, rfl⟩ :=
      buildFeeExtractionV2_spec v2
    obtain ⟨_, _, _, _, _, _, _, _, net, left⟩ := V2SizingInput.candidate_spec sized
    have standard : config.mev.opportunityMode ≠ .scavenger := fun scavenger =>
      Bool.false_ne_true (live.symm.trans (payloadShadowResearchMode_of_scavenger scavenger))
    have charged : selected.netProfitWei =
        selected.grossProfitWei - gasCost config.toConfig request.gasPriceWei (gasEstimateV2 config.toConfig) := by
      rw [net]
      exact if_neg (by simpa [V2Prepared.sizing] using standard)
    change selected.grossProfitWei = simulatedProfitWei config.toConfig selected.grossProfitWei selected.netProfitWei +
      gasCost config.toConfig request.gasPriceWei (gasEstimateV2 config.toConfig)
    rw [booked]
    omega
  · obtain ⟨prepared, selected, repaymentNative, minProfitWei, executor, bps, _, _, sized, _, _, left, _, rfl⟩ :=
      buildFeeExtractionV3_spec v3
    obtain ⟨_, _, _, _, charged⟩ := normalizedV3Candidate_spec sized
    have positive := (left live).1
    change selected.grossProfitNativeWei =
      simulatedProfitWei config.toConfig selected.grossProfitNativeWei selected.netProfitNativeWei +
        gasCost config.toConfig request.gasPriceWei (gasEstimateV3 config.toConfig)
    rw [booked]
    omega

/-- What the evaluation of a payload tells the policy, with what it knows from elsewhere. -/
def evaluationInput (config : PricedConfig) (payload : ExecutionPayload) (gasPrice : Nat)
    (known : Adaptive.AdaptiveQuoteInput) : Adaptive.AdaptiveQuoteInput :=
  { known with
    pair := payload.pair
    expectedProfitWei := payload.expectedProfitWei
    executionCostWei := safetyGasCostWei config payload gasPrice
    gasPriceWei := gasPrice
    priceImpactBps := payload.priceImpactBps }

section

variable {config : PricedConfig} {request : FeeExtractionBuildInput} {payload : ExecutionPayload}
  (live : payloadShadowResearchMode config.toConfig = false)
  (built : buildFeeExtractionV2 config.toConfig request = .ok payload ∨
    buildFeeExtractionV3 config.toConfig request = .ok payload)

include live built in
/-- The policy charges the gas that the builder has charged already. -/
theorem usd_gross_of_built (policy : Adaptive.AdaptivePolicy) :
    policy.usd payload.expectedProfitWei = policy.usd payload.grossProfitWei ↔
      safetyGasCostWei config payload request.gasPriceWei = 0 ∨ policy.ethUsdPrice = 0 := by
  rw [grossProfit_of_built live built, policy.usd_add, ← policy.usd_eq_zero_iff]
  constructor
  · intro same
    linarith
  · intro free
    rw [free, add_zero]

include live built in
/-- The candidate that goes on from the live stages has paid for its gas twice. -/
theorem standardCandidate_charges_twice {stages : LiveStages} {readings : LiveReadings} {state : LiveState}
    {candidate : LookupDecodedCandidate} {chosen : PendingExecutionCandidate}
    (configured : stages.config.toPricedConfig = config) (priced : candidate.gasPrice = request.gasPriceWei)
    (accepted : (stages.standardCandidate readings state candidate payload).1 = some chosen) :
    ∃ (policy : Adaptive.AdaptivePolicy) (quote : Adaptive.AdaptiveQuote), state.adaptive.lock = some policy ∧
      chosen.evRealUsd = quote.evRealUsd ∧ chosen.pPositive = quote.pPositive ∧
      quote.beforePenalties = quote.pPositive *
        (policy.usd payload.grossProfitWei - policy.usd (safetyGasCostWei config payload request.gasPriceWei)) -
          policy.usd (safetyGasCostWei config payload request.gasPriceWei) := by
  subst configured
  have net : ∀ policy : Adaptive.AdaptivePolicy, policy.usd payload.expectedProfitWei =
      policy.usd payload.grossProfitWei -
        policy.usd (safetyGasCostWei stages.config.toPricedConfig payload request.gasPriceWei) := by
    intro policy
    rw [grossProfit_of_built live built, policy.usd_add, add_sub_cancel_right]
  unfold LiveStages.standardCandidate at accepted
  dsimp only at accepted
  split at accepted
  · simp at accepted
  · split at accepted
    · simp at accepted
    · split at accepted
      · simp at accepted
      · rename_i policy unlocked
        split at accepted
        · simp at accepted
        · cases Option.some.inj accepted
          refine ⟨policy, _, unlocked, rfl, rfl, ?_⟩
          rw [← net, ← priced]
          exact (policy.quoteForRelays_accounts _ _ _ _).value

end

/-- The builder takes the gas off the profit that it promises, and the policy takes it off once more. -/
theorem gas_charged_once_iff (config : PricedConfig) (request : FeeExtractionBuildInput) (payload : ExecutionPayload)
    (live : payloadShadowResearchMode config.toConfig = false)
    (built : buildFeeExtractionV2 config.toConfig request = .ok payload ∨
      buildFeeExtractionV3 config.toConfig request = .ok payload)
    (policy : Adaptive.AdaptivePolicy) (curves : Adaptive.Curves) (now : Instant)
    (known : Adaptive.AdaptiveQuoteInput) :
    let quote := (policy.quote curves now (evaluationInput config payload request.gasPriceWei known)).2
    quote.evRealUsd + quote.competitionPenaltyUsd + quote.riskPenaltyUsd + quote.pathPenaltyUsd =
        quote.pPositive * (weiToEth payload.grossProfitWei * policy.ethUsdPrice) -
          weiToEth (safetyGasCostWei config payload request.gasPriceWei) * policy.ethUsdPrice ↔
      safetyGasCostWei config payload request.gasPriceWei = 0 ∨ policy.ethUsdPrice = 0 := by
  intro quote
  have accounts : quote.Accounts (policy.usd payload.expectedProfitWei)
      (policy.usd (safetyGasCostWei config payload request.gasPriceWei)) :=
    (policy.prune now).adaptiveQuote_accounts curves now (evaluationInput config payload request.gasPriceWei known)
  exact (accounts.other_profit_iff _).trans (usd_gross_of_built live built policy)

/-- A conservative engine that sends, with ether at 3000 dollars. -/
def livePriced : PricedConfig where
  toConfig := liveConfig 18 1
  ethUsdPrice := 3000

theorem secondPairInput_builds_live : ∃ payload,
    buildFeeExtractionV2 livePriced.toConfig secondPairInput = .ok payload ∧
    decide (safetyGasCostWei livePriced payload secondPairInput.gasPriceWei ≠ 0) = true :=
  Collect.exists_of_holdsOf (by decide +kernel)

theorem gas_charged_once_sample : ∃ payload,
    buildFeeExtractionV2 livePriced.toConfig secondPairInput = .ok payload ∧
      let policy := Adaptive.AdaptivePolicy.new livePriced
      let quote := (policy.quote Adaptive.sampleCurves 0
        (evaluationInput livePriced payload secondPairInput.gasPriceWei (Adaptive.plainInput 0))).2
      (quote.evRealUsd + quote.competitionPenaltyUsd + quote.riskPenaltyUsd + quote.pathPenaltyUsd =
          quote.pPositive * (weiToEth payload.grossProfitWei * policy.ethUsdPrice) -
            weiToEth (safetyGasCostWei livePriced payload secondPairInput.gasPriceWei) * policy.ethUsdPrice ↔
        safetyGasCostWei livePriced payload secondPairInput.gasPriceWei = 0 ∨ policy.ethUsdPrice = 0) := by
  obtain ⟨payload, built, _⟩ := secondPairInput_builds_live
  exact ⟨payload, built, gas_charged_once_iff livePriced secondPairInput payload (by decide) (.inl built) _ _ _ _⟩

/-- At one gwei a payload of the second pair is charged for its gas twice. -/
theorem gas_charged_twice : ∃ payload,
    buildFeeExtractionV2 livePriced.toConfig secondPairInput = .ok payload ∧
      payloadShadowResearchMode livePriced.toConfig = false ∧
      let policy := Adaptive.AdaptivePolicy.new livePriced
      let quote := (policy.quote Adaptive.sampleCurves 0
        (evaluationInput livePriced payload secondPairInput.gasPriceWei (Adaptive.plainInput 0))).2
      quote.evRealUsd + quote.competitionPenaltyUsd + quote.riskPenaltyUsd + quote.pathPenaltyUsd ≠
        quote.pPositive * (weiToEth payload.grossProfitWei * policy.ethUsdPrice) -
          weiToEth (safetyGasCostWei livePriced payload secondPairInput.gasPriceWei) * policy.ethUsdPrice := by
  obtain ⟨payload, built, charged⟩ := secondPairInput_builds_live
  have live : payloadShadowResearchMode livePriced.toConfig = false := by decide
  refine ⟨payload, built, live, fun once => ?_⟩
  have accounts := ((Adaptive.AdaptivePolicy.new livePriced).prune 0).adaptiveQuote_accounts Adaptive.sampleCurves 0
    (evaluationInput livePriced payload secondPairInput.gasPriceWei (Adaptive.plainInput 0))
  have same := (accounts.other_profit_iff _).mp once
  rcases (usd_gross_of_built live (.inl built) (Adaptive.AdaptivePolicy.new livePriced)).mp same with free | worthless
  · exact of_decide_eq_true charged free
  · exact absurd worthless (by decide +kernel)

end ArbitrageRuntime
