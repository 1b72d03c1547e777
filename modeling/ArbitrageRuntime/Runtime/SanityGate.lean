import ArbitrageRuntime.Builder.BuildV2
import ArbitrageRuntime.Builder.BuildV3

namespace ArbitrageRuntime

def scavengerQualityPriceImpactCapBps (config : Config) : Nat :=
  max 600 (min (u64Mul config.mev.effectiveMaxPriceImpactBps 15) 4000)

def passesScavengerSanityGate (config : Config) (payload : ExecutionPayload) (lookupLatencyMs : Nat) :
    Except String Unit :=
  if payload.tx.isEmpty ∨ payload.calldata.bytes.isEmpty then .error "scavenger_empty_payload"
  else if payload.targetContract = 0 then .error "scavenger_missing_target"
  else if payload.capitalCommittedWei = 0 then .error "scavenger_zero_capital"
  else if payload.expectedProfitWei = 0 then .error "scavenger_no_positive_gross_edge"
  else if config.mev.maxGasPerTx < payload.gasLimit then .error "scavenger_gas_limit_above_cap"
  else if scavengerQualityPriceImpactCapBps config < payload.priceImpactBps then
    .error "scavenger_price_impact_above_cap"
  else if max (u64Mul config.mev.effectiveMaxPendingAgeMs 3) 1 < lookupLatencyMs then
    .error "scavenger_lookup_stale"
  else .ok ()

/-- The conditions of the gate apart from the signed transaction. -/
structure GateReady (config : Config) (payload : ExecutionPayload) : Prop where
  calldata : payload.calldata.bytes ≠ []
  capital : payload.capitalCommittedWei ≠ 0
  profit : payload.expectedProfitWei ≠ 0
  gas : payload.gasLimit ≤ config.mev.maxGasPerTx
  impact : payload.priceImpactBps ≤ scavengerQualityPriceImpactCapBps config

theorem gasEstimateWith_le (config : Config) (overheadGas floorGas : Nat) :
    gasEstimateWith config overheadGas floorGas ≤ config.mev.maxGasPerTx :=
  Nat.min_le_left _ _

theorem gasEstimateV3_le (config : Config) : gasEstimateV3 config ≤ config.mev.maxGasPerTx := by
  unfold gasEstimateV3
  split
  · exact gasEstimateWith_le config _ _
  · exact gasEstimateWith_le config _ _

/-- The builder's impact cap is the tighter of the two clamps. -/
theorem effectivePayloadPriceImpactCapBps_le_quality {config : Config}
    (scavenger : config.mev.opportunityMode = .scavenger) :
    effectivePayloadPriceImpactCapBps config ≤ scavengerQualityPriceImpactCapBps config := by
  have grows : u64Mul config.mev.effectiveMaxPriceImpactBps 12 ≤ u64Mul config.mev.effectiveMaxPriceImpactBps 15 :=
    Saturating.mul_mono le_rfl (by omega)
  rw [effectivePayloadPriceImpactCapBps, if_pos scavenger, scavengerQualityPriceImpactCapBps]
  omega

theorem encodeStartV2FlashSwap_bytes_ne_nil (pair borrowToken : Address) (borrowAmount minProfit : Nat)
    (profitToken profitRecipient : Address) (steps : List EncodedSwapStep) :
    (encodeStartV2FlashSwap pair borrowToken borrowAmount minProfit profitToken profitRecipient steps).bytes ≠ [] := by
  simp [Calldata.bytes, encodeStartV2FlashSwap, startV2FlashSwapSelector]

theorem encodeStartV3FlashSwap_bytes_ne_nil (pool borrowToken : Address) (borrowAmount feeTier minProfit : Nat)
    (profitToken profitRecipient : Address) (steps : List EncodedV3SwapStep) :
    (encodeStartV3FlashSwap pool borrowToken borrowAmount feeTier minProfit profitToken profitRecipient
      steps).bytes ≠ [] := by
  simp [Calldata.bytes, encodeStartV3FlashSwap, startV3FlashSwapSelector]

theorem gateReady_of_buildFeeExtractionV2 {config : Config} {input : FeeExtractionBuildInput}
    {payload : ExecutionPayload} (scavenger : config.mev.opportunityMode = .scavenger)
    (built : buildFeeExtractionV2 config input = .ok payload) : payload.tx = [] ∧ GateReady config payload := by
  obtain ⟨prepared, selected, repaymentNative, minProfitWei, executor, bps, _, run, pushed, positive, _, _, _, rfl⟩ :=
    buildFeeExtractionV2_spec built
  obtain ⟨_, _, _, sized, _⟩ := V2SizingInput.candidate_spec pushed
  obtain ⟨_, result, _, _, impactEq, impact, _, _⟩ := prepareV2_eq_ok.mp run
  have shadow := payloadShadowResearchMode_of_scavenger scavenger
  refine ⟨rfl, encodeStartV2FlashSwap_bytes_ne_nil _ _ _ _ _ _ _, sized, ?_, gasEstimateWith_le config _ _, ?_⟩
  · simp only [payloadV2, simulatedProfitWei, if_pos shadow]
    exact positive shadow
  · have cap := effectivePayloadPriceImpactCapBps_le_quality scavenger
    simp only [payloadV2, impactEq]
    exact impact.trans cap

theorem gateReady_of_buildFeeExtractionV3 {config : Config} {input : FeeExtractionBuildInput}
    {payload : ExecutionPayload} (scavenger : config.mev.opportunityMode = .scavenger)
    (built : buildFeeExtractionV3 config input = .ok payload) : payload.tx = [] ∧ GateReady config payload := by
  obtain ⟨prepared, selected, repaymentNative, minProfitWei, executor, bps, _, run, sized, positive, _, _, _, rfl⟩ :=
    buildFeeExtractionV3_spec built
  obtain ⟨_, nonzero, _⟩ := normalizedV3Candidate_spec sized
  obtain ⟨_, result, _, _, _, impactEq, _, impact, _⟩ := prepareV3_eq_ok.mp run
  have shadow := payloadShadowResearchMode_of_scavenger scavenger
  refine ⟨rfl, encodeStartV3FlashSwap_bytes_ne_nil _ _ _ _ _ _ _ _, nonzero, ?_, gasEstimateV3_le config, ?_⟩
  · simp only [payloadV3, simulatedProfitWei, if_pos shadow]
    exact positive
  · have cap := effectivePayloadPriceImpactCapBps_le_quality scavenger
    simp only [payloadV3, impactEq]
    exact impact.trans cap

theorem GateReady.passes_signed {config : Config} {payload : ExecutionPayload} (ready : GateReady config payload)
    {signed : Bytes} (nonempty : signed ≠ []) (target : payload.targetContract ≠ 0) {lookupLatencyMs : Nat}
    (fresh : lookupLatencyMs ≤ u64Mul config.mev.effectiveMaxPendingAgeMs 3) :
    passesScavengerSanityGate config { payload with tx := signed } lookupLatencyMs = .ok () := by
  have stale : ¬ max (u64Mul config.mev.effectiveMaxPendingAgeMs 3) 1 < lookupLatencyMs := by omega
  simp only [passesScavengerSanityGate, List.isEmpty_iff, nonempty, ready.calldata, target, ready.capital,
    ready.profit, not_lt.mpr ready.gas, not_lt.mpr ready.impact, stale, or_self, if_false]

/-- No payload of either builder passes the gate, because the builders leave the signed transaction
empty and signing comes later. Every other condition of the gate follows from the build. -/
theorem passesScavengerSanityGate_refuses_built {config : Config} {input : FeeExtractionBuildInput}
    {payload : ExecutionPayload} (scavenger : config.mev.opportunityMode = .scavenger)
    (built : buildFeeExtractionV2 config input = .ok payload ∨ buildFeeExtractionV3 config input = .ok payload) :
    (∀ lookupLatencyMs,
      passesScavengerSanityGate config payload lookupLatencyMs = .error "scavenger_empty_payload") ∧
    ∀ signed lookupLatencyMs, signed ≠ [] → payload.targetContract ≠ 0 →
      lookupLatencyMs ≤ u64Mul config.mev.effectiveMaxPendingAgeMs 3 →
      passesScavengerSanityGate config { payload with tx := signed } lookupLatencyMs = .ok () := by
  have outcome : payload.tx = [] ∧ GateReady config payload := by
    rcases built with v2 | v3
    · exact gateReady_of_buildFeeExtractionV2 scavenger v2
    · exact gateReady_of_buildFeeExtractionV3 scavenger v3
  obtain ⟨unsigned, ready⟩ := outcome
  constructor
  · intro lookupLatencyMs
    simp [passesScavengerSanityGate, unsigned]
  · intro signed lookupLatencyMs nonempty target fresh
    exact ready.passes_signed nonempty target fresh

theorem passesScavengerSanityGate_refuses_secondPair :
    ∃ payload, buildFeeExtractionV2 testConfig secondPairInput = .ok payload ∧
      passesScavengerSanityGate testConfig payload 0 = .error "scavenger_empty_payload" := by
  obtain ⟨payload, built, _⟩ := secondPairInput_builds
  exact ⟨payload, built, (passesScavengerSanityGate_refuses_built rfl (.inl built)).1 0⟩

/-- An accepted build with an executor configured and no lookup latency, which the gate refuses. -/
theorem gate_refuses_accepted_build :
    ¬ ∀ config input payload lookupLatencyMs, config.mev.opportunityMode = .scavenger →
      (buildFeeExtractionV2 config input = .ok payload ∨ buildFeeExtractionV3 config input = .ok payload) →
      payload.targetContract ≠ 0 → lookupLatencyMs ≤ 3 * config.mev.effectiveMaxPendingAgeMs →
      passesScavengerSanityGate config payload lookupLatencyMs = .ok () := by
  intro claim
  obtain ⟨payload, built, target⟩ := secondPairInput_builds
  have unsigned := (gateReady_of_buildFeeExtractionV2 rfl built).1
  have passes := claim testConfig secondPairInput payload 0 rfl (.inl built) (of_decide_eq_true target) (Nat.zero_le _)
  simp [passesScavengerSanityGate, unsigned] at passes

end ArbitrageRuntime
