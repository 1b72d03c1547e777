import ArbitrageRuntime.Adaptive.Rebuilt
import ArbitrageRuntime.Lib.Cascade
import ArbitrageRuntime.Runtime.EvGates

namespace ArbitrageRuntime

namespace ScavengerSettings

variable (settings : ScavengerSettings)

def gasFractionBps : Nat := max 1 (min (settings.minGasFractionBps.getD 100) 10000)

/-- The part of the floor that is configured in dollars. -/
def usdFloorWei (config : PricedConfig) : Nat :=
  (toU256Rounded (max (settings.minEconomicEdgeUsd.getD 0.0005) 0 / max config.ethUsdPrice 0.000001 * weiPerEth)).getD 0

/-- A payload needs no profit at all. -/
def AsksNothing (config : PricedConfig) (gasCostWei : Nat) : Prop :=
  (settings.requireNetPositive.getD true = true → gasCostWei = 0) ∧
    u256Mul gasCostWei settings.gasFractionBps < 10000 ∧ settings.usdFloorWei config = 0

variable {settings}

theorem floorWei_eq_zero_iff {config : PricedConfig} {gasCostWei : Nat} :
    settings.floorWei config gasCostWei = 0 ↔
      u256Mul gasCostWei settings.gasFractionBps < 10000 ∧ settings.usdFloorWei config = 0 := by
  have parts : settings.floorWei config gasCostWei =
      max (u256Mul gasCostWei settings.gasFractionBps / 10000) (settings.usdFloorWei config) := rfl
  rw [parts]
  omega

theorem requiredEdgeWei_eq_zero_iff {config : PricedConfig} {gasCostWei : Nat} :
    settings.requiredEdgeWei config gasCostWei = 0 ↔ settings.AsksNothing config gasCostWei := by
  unfold requiredEdgeWei AsksNothing
  rw [← floorWei_eq_zero_iff]
  split
  · rename_i net
    have sum : u256Add gasCostWei (settings.floorWei config gasCostWei) = 0 ↔
        gasCostWei = 0 ∧ settings.floorWei config gasCostWei = 0 := by
      unfold u256Add Saturating.add u256Max
      omega
    rw [sum]
    exact ⟨fun ⟨gas, floor⟩ => ⟨fun _ => gas, floor⟩, fun ⟨gas, floor⟩ => ⟨gas net, floor⟩⟩
  · rename_i gross
    exact ⟨fun floor => ⟨fun net => absurd net gross, floor⟩, fun ⟨_, floor⟩ => floor⟩

end ScavengerSettings

section

variable {config : PricedConfig} {settings : ScavengerSettings} {payload : ExecutionPayload} {signal : SwapSignal}
  {gasPrice executionCostWei : Nat}

theorem economicEdge_pass_iff :
    (scavengerEconomicEdgeDiagnostic config settings payload gasPrice).pass = true ↔
      settings.requiredEdgeWei config (u256Mul gasPrice payload.gasLimit) ≤ payload.expectedProfitWei := by
  simp only [scavengerEconomicEdgeDiagnostic, decide_eq_true_eq]

/-- The passing reason also needs a profit, which the verdict itself does not ask for. -/
theorem economicEdge_reason_iff :
    (scavengerEconomicEdgeDiagnostic config settings payload gasPrice).reason = "ev_gate_pass" ↔
      payload.expectedProfitWei ≠ 0 ∧
        (scavengerEconomicEdgeDiagnostic config settings payload gasPrice).pass = true := by
  have chain : (scavengerEconomicEdgeDiagnostic config settings payload gasPrice).reason =
      Cascade.firstMatch [(fun payload : ExecutionPayload => payload.expectedProfitWei = 0, "ev_zero_expected_profit"),
        (fun _ => (scavengerEconomicEdgeDiagnostic config settings payload gasPrice).pass = false,
          "ev_scavenger_edge_below_floor")] "ev_gate_pass" payload := by
    simp only [Cascade.firstMatch, decide_eq_true_eq]
    rfl
  rw [chain, Cascade.firstMatch_eq_otherwise_iff (by simp)]
  simp

theorem economicEdge_reason_ne_warQuote :
    (scavengerEconomicEdgeDiagnostic config settings payload gasPrice).reason ≠ "scavenger_quote_pass" := by
  simp only [scavengerEconomicEdgeDiagnostic]
  split
  · decide
  · split <;> decide

theorem warQuote_pass_iff {economic : GateDiagnostic} :
    (scavengerWarQuoteDiagnostic config payload signal gasPrice economic).pass = true ↔
      economic.pass = true ∧ poolStateValid signal payload.poolStateBefore = true ∧
        safetyGasCostWei config payload gasPrice < payload.expectedProfitWei ∧
        u256Add (safetyGasCostWei config payload gasPrice) (economic.minProfitWei - economic.executionCostWei) ≤
          payload.expectedProfitWei ∧
        config.mev.effectiveMinRoiBps ≤ roiBps payload.expectedProfitWei (safetyGasCostWei config payload gasPrice) ∧
        payload.priceImpactBps ≤ scavengerQualityPriceImpactCapBps config.toConfig := by
  simp only [scavengerWarQuoteDiagnostic, decide_eq_true_eq]

theorem warQuote_reason_iff {economic : GateDiagnostic} (other : economic.reason ≠ "scavenger_quote_pass") :
    (scavengerWarQuoteDiagnostic config payload signal gasPrice economic).reason = "scavenger_quote_pass" ↔
      (scavengerWarQuoteDiagnostic config payload signal gasPrice economic).pass = true := by
  have chain : (scavengerWarQuoteDiagnostic config payload signal gasPrice economic).reason =
      Cascade.firstMatch [(fun _ : ExecutionPayload => economic.pass = false, economic.reason),
        (fun payload => poolStateValid signal payload.poolStateBefore = false, "scavenger_quote_invalid_pool_state"),
        (fun payload => payload.expectedProfitWei ≤ safetyGasCostWei config payload gasPrice,
          "scavenger_quote_net_after_gas_not_positive"),
        (fun payload => payload.expectedProfitWei < u256Add (safetyGasCostWei config payload gasPrice)
          (economic.minProfitWei - economic.executionCostWei), "scavenger_quote_edge_below_safety_floor"),
        (fun payload => roiBps payload.expectedProfitWei (safetyGasCostWei config payload gasPrice) <
          config.mev.effectiveMinRoiBps, "scavenger_quote_roi_below_min"),
        (fun payload => scavengerQualityPriceImpactCapBps config.toConfig < payload.priceImpactBps,
          "scavenger_quote_price_impact_above_cap")] "scavenger_quote_pass" payload := by
    simp only [Cascade.firstMatch, decide_eq_true_eq]
    rfl
  rw [chain, Cascade.firstMatch_eq_otherwise_iff (by simp [other]), warQuote_pass_iff]
  simp

theorem quality_reason_iff :
    (qualityGateDiagnostic config payload executionCostWei).reason = "quality_gate_pass" ↔
      (qualityGateDiagnostic config payload executionCostWei).pass = true := by
  unfold qualityGateDiagnostic
  split
  · have chain : (scavengerQualityDiagnostic config payload executionCostWei).reason =
        Cascade.firstMatch [
          (fun payload : ExecutionPayload => payload.expectedProfitWei = 0, "quality_zero_expected_profit"),
          (fun payload => scavengerQualityPriceImpactCapBps config.toConfig < payload.priceImpactBps,
            "quality_price_impact_above_cap")] "quality_gate_pass" payload := by
      simp only [Cascade.firstMatch, decide_eq_true_eq]
      rfl
    rw [chain, Cascade.firstMatch_eq_otherwise_iff (by simp)]
    simp [scavengerQualityDiagnostic]
  · have chain : (standardQualityDiagnostic config payload executionCostWei).reason =
        Cascade.firstMatch [(fun payload : ExecutionPayload =>
            roiBps payload.expectedProfitWei executionCostWei < config.mev.effectiveMinRoiBps, "quality_roi_below_min"),
          (fun payload => 100 < qualityImpactScore config payload, "quality_impact_score_above_cap")]
          "quality_gate_pass" payload := by
      simp only [Cascade.firstMatch, decide_eq_true_eq]
      rfl
    rw [chain, Cascade.firstMatch_eq_otherwise_iff (by simp)]
    simp [standardQualityDiagnostic]

theorem predicate_eq_pass_iff :
    scavengerPayloadHasEconomicEdge config settings payload gasPrice =
        (scavengerEconomicEdgeDiagnostic config settings payload gasPrice).pass ↔
      (payload.expectedProfitWei = 0 → ¬ settings.AsksNothing config (u256Mul gasPrice payload.gasLimit)) := by
  rw [← ScavengerSettings.requiredEdgeWei_eq_zero_iff]
  unfold scavengerPayloadHasEconomicEdge scavengerEconomicEdgeDiagnostic
  by_cases zero : payload.expectedProfitWei = 0
  · simp [zero, eq_comm]
  · simp [zero]

/-- The predicate and the verdicts agree with each other and with their reasons exactly when there is a profit, or some
is asked for. -/
theorem gateVerdicts_agree_iff (config : PricedConfig) (settings : ScavengerSettings) (payload : ExecutionPayload)
    (signal : SwapSignal) (gasPrice executionCostWei : Nat) :
    let economic := scavengerEconomicEdgeDiagnostic config settings payload gasPrice
    let warQuote := scavengerWarQuoteDiagnostic config payload signal gasPrice economic
    let quality := qualityGateDiagnostic config payload executionCostWei
    (scavengerPayloadHasEconomicEdge config settings payload gasPrice = economic.pass ∧
      (economic.reason = "ev_gate_pass" ↔ economic.pass = true) ∧
      (warQuote.reason = "scavenger_quote_pass" ↔ warQuote.pass = true) ∧
      (quality.reason = "quality_gate_pass" ↔ quality.pass = true)) ↔
      (payload.expectedProfitWei = 0 → ¬ settings.AsksNothing config (u256Mul gasPrice payload.gasLimit)) := by
  intro economic warQuote quality
  have war : warQuote.reason = "scavenger_quote_pass" ↔ warQuote.pass = true :=
    warQuote_reason_iff economicEdge_reason_ne_warQuote
  have good : quality.reason = "quality_gate_pass" ↔ quality.pass = true := quality_reason_iff
  rw [← predicate_eq_pass_iff]
  constructor
  · rintro ⟨same, -, -, -⟩
    exact same
  · intro same
    refine ⟨same, economicEdge_reason_iff.trans ⟨And.right, fun pass => ⟨?_, pass⟩⟩, war, good⟩
    intro zero
    have none : scavengerPayloadHasEconomicEdge config settings payload gasPrice = false := if_pos zero
    exact absurd (none.symm.trans (same.trans pass)) (by simp)

end

/-- A configuration in Scavenger mode, with the native asset at 3000 dollars. -/
def scavengerPriced : PricedConfig := { toConfig := testConfig, ethUsdPrice := 3000 }

/-- A swap of token 2 for token 3. -/
def gateSignal : SwapSignal where
  selector := .swapExactTokensForTokens
  amountIn := 10 ^ 18
  amountOutMin := some 1
  notionalWei := 10 ^ 18
  path := [2, 3]
  router := 40
  kind := .v2
  decodeConfidence := 1
  decodeSource := "abi"

def gatePayload (expectedProfitWei priceImpactBps : Nat) : ExecutionPayload where
  tx := []
  calldata := ⟨startV2FlashSwapSelector, []⟩
  targetContract := 22
  value := 0
  pair := 1
  ammKind := .uniswapV2
  capitalCommittedWei := 10 ^ 17
  expectedProfitWei := expectedProfitWei
  gasLimit := 200000
  priceImpactBps := priceImpactBps
  profitToken := 1
  profitRecipient := 12
  contextPriorityScore := 1 / 2
  contextToxicityScore := 1 / 2
  edgeMetadata := none
  poolStateBefore := .uniswapV2
    { pair := 1, token0 := 2, token1 := 3, reserve0 := 10 ^ 21, reserve1 := 10 ^ 21, feeBps := 30 }

/-- With no edge in dollars and free gas, a payload without profit passes with the reason of a refusal. -/
theorem profitless_payload_passes :
    let settings : ScavengerSettings := ⟨none, some 0, none⟩
    let payload := gatePayload 0 0
    let economic := scavengerEconomicEdgeDiagnostic scavengerPriced settings payload 0
    scavengerPayloadHasEconomicEdge scavengerPriced settings payload 0 = false ∧ economic.pass = true ∧
      economic.reason = "ev_zero_expected_profit" := by
  decide +kernel

section

variable {config : PricedConfig} {settings : ScavengerSettings} {payload : ExecutionPayload} {gasPrice : Nat}

/-- The profits that reach the floor once it has lost the gas, but not the whole of it. -/
structure InFloorGap (safetyGas gas floor profit : Nat) : Prop where
  overFloor : floor ≤ profit
  overGas : safetyGas < profit
  reached : safetyGas + (floor - gas) ≤ profit
  missed : profit < safetyGas + floor

/-- What the war quote asks for beside the profit over the gas. -/
structure OtherwiseAdmitted (config : PricedConfig) (payload : ExecutionPayload) (signal : SwapSignal)
    (gasPrice : Nat) : Prop where
  pool : poolStateValid signal payload.poolStateBefore = true
  roi : config.mev.effectiveMinRoiBps ≤ roiBps payload.expectedProfitWei (safetyGasCostWei config payload gasPrice)
  impact : payload.priceImpactBps ≤ scavengerQualityPriceImpactCapBps config.toConfig

/-- The floor that the second gate finds in the verdict of the first. -/
theorem reconstructed_floor (fits : u256Mul gasPrice payload.gasLimit +
    settings.floorWei config (u256Mul gasPrice payload.gasLimit) ≤ u256Max) :
    let economic := scavengerEconomicEdgeDiagnostic config settings payload gasPrice
    let floor := settings.floorWei config (u256Mul gasPrice payload.gasLimit)
    economic.minProfitWei - economic.executionCostWei =
      if settings.requireNetPositive.getD true then floor else floor - u256Mul gasPrice payload.gasLimit := by
  intro economic floor
  show settings.requiredEdgeWei config (u256Mul gasPrice payload.gasLimit) - u256Mul gasPrice payload.gasLimit = _
  unfold ScavengerSettings.requiredEdgeWei
  split
  · rw [u256Add, Saturating.add_eq fits]
    exact Nat.add_sub_cancel_left ..
  · rfl

/-- A passing war quote covers the gas with its margin and the whole floor, unless the mode that nets out the gas is off
and the profit falls into the gap. -/
theorem warQuote_covers_floor_iff (signal : SwapSignal)
    (fits : u256Mul gasPrice payload.gasLimit + settings.floorWei config (u256Mul gasPrice payload.gasLimit) ≤ u256Max)
    (fitsSafety : safetyGasCostWei config payload gasPrice +
      settings.floorWei config (u256Mul gasPrice payload.gasLimit) ≤ u256Max) :
    let economic := scavengerEconomicEdgeDiagnostic config settings payload gasPrice
    let floor := settings.floorWei config (u256Mul gasPrice payload.gasLimit)
    ((scavengerWarQuoteDiagnostic config payload signal gasPrice economic).pass = true →
      safetyGasCostWei config payload gasPrice + floor ≤ payload.expectedProfitWei) ↔
      (settings.requireNetPositive.getD true = true ∨
        ¬ InFloorGap (safetyGasCostWei config payload gasPrice) (u256Mul gasPrice payload.gasLimit) floor
          payload.expectedProfitWei ∨
        ¬ OtherwiseAdmitted config payload signal gasPrice) := by
  intro economic floor
  have rest : economic.minProfitWei - economic.executionCostWei =
    if settings.requireNetPositive.getD true then floor else floor - u256Mul gasPrice payload.gasLimit :=
    reconstructed_floor fits
  by_cases net : settings.requireNetPositive.getD true = true
  · refine ⟨fun _ => Or.inl net, fun _ passes => ?_⟩
    obtain ⟨-, -, -, reached, -, -⟩ := warQuote_pass_iff.mp passes
    rwa [rest, if_pos net, u256Add, Saturating.add_eq fitsSafety] at reached
  · have required : settings.requiredEdgeWei config (u256Mul gasPrice payload.gasLimit) = floor := if_neg net
    have sum : u256Add (safetyGasCostWei config payload gasPrice) (floor - u256Mul gasPrice payload.gasLimit) =
        safetyGasCostWei config payload gasPrice + (floor - u256Mul gasPrice payload.gasLimit) :=
      Saturating.add_eq (by omega)
    rw [warQuote_pass_iff, economicEdge_pass_iff, required, rest, if_neg net, sum]
    constructor
    · intro keeps
      by_contra fails
      simp only [not_or, not_not] at fails
      obtain ⟨-, gap, admitted⟩ := fails
      have covered := keeps ⟨gap.overFloor, admitted.pool, gap.overGas, gap.reached, admitted.roi, admitted.impact⟩
      exact absurd gap.missed (not_lt.mpr covered)
    · rintro (isNet | noGap | refused) ⟨overFloor, pool, overGas, reached, roi, impact⟩
      · exact absurd isNet net
      · by_contra missed
        exact noGap ⟨overFloor, overGas, reached, not_le.mp missed⟩
      · exact absurd ⟨pool, roi, impact⟩ refused

end

/-- The settings that ask for an edge as great as the gas, whether or not the gas is netted out. -/
def fullFloor (requireNetPositive : Bool) : ScavengerSettings := ⟨some 10000, some 0, some requireNetPositive⟩

theorem warQuote_covers_floor_sample :
    let economic :=
      scavengerEconomicEdgeDiagnostic scavengerPriced (fullFloor true) (gatePayload (5 * 10 ^ 14) 0) (10 ^ 9)
    (scavengerWarQuoteDiagnostic scavengerPriced (gatePayload (5 * 10 ^ 14) 0) gateSignal (10 ^ 9) economic).pass =
        true ∧
      safetyGasCostWei scavengerPriced (gatePayload (5 * 10 ^ 14) 0) (10 ^ 9) +
        (fullFloor true).floorWei scavengerPriced (u256Mul (10 ^ 9) 200000) ≤ 5 * 10 ^ 14 := by
  intro economic
  have passes : (scavengerWarQuoteDiagnostic scavengerPriced (gatePayload (5 * 10 ^ 14) 0) gateSignal (10 ^ 9)
    economic).pass = true := by decide +kernel
  exact ⟨passes, (warQuote_covers_floor_iff gateSignal (by decide +kernel) (by decide +kernel)).mpr (Or.inl rfl) passes⟩

/-- A gas price of one gwei makes the gas 0.0002 and, with its margin, 0.00022. Where the gas is not netted out, a floor
of 0.0002 drops out of the second gate, and a profit of 0.0003 passes. -/
theorem warQuote_loses_floor :
    let settings := fullFloor false
    let payload := gatePayload (3 * 10 ^ 14) 0
    let economic := scavengerEconomicEdgeDiagnostic scavengerPriced settings payload (10 ^ 9)
    (scavengerWarQuoteDiagnostic scavengerPriced payload gateSignal (10 ^ 9) economic).pass = true ∧
      payload.expectedProfitWei < safetyGasCostWei scavengerPriced payload (10 ^ 9) +
        settings.floorWei scavengerPriced (u256Mul (10 ^ 9) payload.gasLimit) := by
  decide +kernel

/-- The price impact that the mode allows. -/
def qualityImpactCapBps (config : PricedConfig) : Nat :=
  if config.mev.opportunityMode = .scavenger then scavengerQualityPriceImpactCapBps config.toConfig
  else config.mev.effectiveMaxPriceImpactBps

/-- The score is cut off at the very number that it is compared with. -/
theorem qualityImpactScore_le (config : PricedConfig) (payload : ExecutionPayload) :
    qualityImpactScore config payload ≤ 100 := by
  have cut := (Adaptive.clamp_mem (by norm_num : (0 : ℚ) ≤ 100)
    ((payload.priceImpactBps : ℚ) / max config.mev.effectiveMaxPriceImpactBps 1 * 100)).2
  have floor := Int.floor_le
    (clamp 0 100 ((payload.priceImpactBps : ℚ) / max config.mev.effectiveMaxPriceImpactBps 1 * 100))
  have whole :
      ⌊clamp 0 100 ((payload.priceImpactBps : ℚ) / max config.mev.effectiveMaxPriceImpactBps 1 * 100)⌋ ≤ 100 := by
    exact_mod_cast floor.trans cut
  exact Int.toNat_le.mpr whole

theorem standardQuality_pass_iff {config : PricedConfig} {payload : ExecutionPayload} {executionCostWei : Nat} :
    (standardQualityDiagnostic config payload executionCostWei).pass = true ↔
      config.mev.effectiveMinRoiBps ≤ roiBps payload.expectedProfitWei executionCostWei := by
  simp only [standardQualityDiagnostic, decide_eq_true_eq, qualityImpactScore_le, and_true]

/-- A passing payload stays under the price impact of the mode in Scavenger mode, and elsewhere only if it does so
anyway or is refused for its return. -/
theorem qualityGate_caps_impact_iff (config : PricedConfig) (payload : ExecutionPayload) (executionCostWei : Nat) :
    (passesQualityGate config payload executionCostWei = true → payload.priceImpactBps ≤ qualityImpactCapBps config) ↔
      (config.mev.opportunityMode = .scavenger ∨ payload.priceImpactBps ≤ config.mev.effectiveMaxPriceImpactBps ∨
        roiBps payload.expectedProfitWei executionCostWei < config.mev.effectiveMinRoiBps) := by
  unfold passesQualityGate qualityGateDiagnostic qualityImpactCapBps
  by_cases scavenger : config.mev.opportunityMode = .scavenger
  · rw [if_pos scavenger, if_pos scavenger]
    refine ⟨fun _ => Or.inl scavenger, fun _ passes => ?_⟩
    simp only [scavengerQualityDiagnostic, decide_eq_true_eq] at passes
    exact passes.2
  · rw [if_neg scavenger, if_neg scavenger, standardQuality_pass_iff]
    constructor
    · intro capped
      refine Or.inr ?_
      by_cases roi : config.mev.effectiveMinRoiBps ≤ roiBps payload.expectedProfitWei executionCostWei
      · exact Or.inl (capped roi)
      · exact Or.inr (not_le.mp roi)
    · rintro (isScavenger | small | poor) roi
      · exact absurd isScavenger scavenger
      · exact small
      · exact absurd roi (not_le.mpr poor)

/-- Under a cap of 250 points a payload of 10000 points passes. -/
theorem qualityGate_passes_full_impact :
    passesQualityGate Adaptive.samplePriced (gatePayload (10 ^ 15) 10000) (10 ^ 14) = true ∧
      qualityImpactCapBps Adaptive.samplePriced = 250 ∧ (gatePayload (10 ^ 15) 10000).priceImpactBps = 10000 := by
  decide +kernel

end ArbitrageRuntime
