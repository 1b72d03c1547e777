import ArbitrageRuntime.Builder.Market
import ArbitrageRuntime.Executor.Callback

namespace ArbitrageRuntime

/-- What the builder asks of a profit: the minimum in wei, or a single wei in research mode. -/
def profitThresholdWei (config : Config) (minProfitWei : Nat) : Nat :=
  if payloadShadowResearchMode config then 1 else minProfitWei

/-- One base unit of the profit token less than the minimum is worth less than what the builder asks. -/
def UnitsAgree (config : Config) (profitToken : Address) : Prop :=
  ∀ token minProfitWei, tokenMetadata config profitToken = some token →
    effectivePayloadMinProfitWei config = .ok minProfitWei →
    ((minProfitWei : ℚ) - 1) * token.weiPerUnit < profitThresholdWei config minProfitWei

/-- An execution that earns what the payload simulated, in base units of the profit token, passes the
executor's check against the minimum in the payload's calldata. -/
def MeetsMinProfit (payload : ExecutionPayload) : Prop :=
  ∃ metadata minProfit, payload.edgeMetadata = some metadata ∧
    payload.calldata.args[3]? = some (.uint minProfit) ∧
    (Executor.checkMinProfit (metadata.amountOutWei - metadata.repaymentWei) minProfit :
      Executor.Exec Executor.PlainData Unit) = .done ()

theorem checkMinProfit_eq_done {netProfit minProfit : Nat} :
    (Executor.checkMinProfit netProfit minProfit : Executor.Exec Executor.PlainData Unit) = .done () ↔
      minProfit ≤ netProfit := by
  unfold Executor.checkMinProfit Interaction.Prog.refuse
  split
  · rename_i below
    exact ⟨fun passes => absurd passes (by simp), fun enough => absurd below (not_lt.mpr enough)⟩
  · rename_i enough
    exact ⟨fun _ => not_lt.mp enough, fun _ => rfl⟩

/-- The builder's own threshold on the native worth of the profit. -/
theorem profit_reaches_threshold {config : Config} {input : FeeExtractionBuildInput} {payload : ExecutionPayload}
    (built : buildFeeExtractionV2 config input = .ok payload) :
    ∃ token minProfitWei metadata, tokenMetadata config input.tokenIn = some token ∧
      effectivePayloadMinProfitWei config = .ok minProfitWei ∧ payload.edgeMetadata = some metadata ∧
      payload.calldata.args[3]? = some (.uint minProfitWei) ∧ 0 < token.weiPerUnit ∧
      (profitThresholdWei config minProfitWei : ℚ) ≤
        (metadata.amountOutWei - metadata.repaymentWei : Nat) * token.weiPerUnit := by
  obtain ⟨prepared, selected, repaymentNative, minProfitWei, executor, bps, _, _, pushed, _, minimum, live, _, rfl⟩ :=
    buildFeeExtractionV2_spec built
  obtain ⟨repayment, _, _, _, _, _, repaid, valued, net, netNonzero⟩ := V2SizingInput.candidate_spec pushed
  obtain ⟨token, known⟩ : ∃ token, tokenMetadata config input.tokenIn = some token := by
    obtain ⟨native, converted, _⟩ := Option.bind_eq_some_iff.mp valued
    obtain ⟨token, known, _⟩ := Option.bind_eq_some_iff.mp converted
    exact ⟨token, known⟩
  have booked : prepared.repaymentWei selected = repayment := by
    change v2RepaymentAmountInProfitToken prepared.borrowReserve prepared.profitReserve selected.amountIn =
      some repayment at repaid
    rw [V2Prepared.repaymentWei, repaid, Option.getD_some]
  have netLe : selected.netProfitWei ≤ selected.grossProfitWei := by
    rw [net, V2SizingInput.netOf]
    split <;> omega
  change tokenAmountToNativeWei config input.tokenIn (selected.amountOut - repayment) = _ at valued
  rw [tokenAmountToNativeWei_eq known] at valued
  obtain ⟨_, _, worth, _⟩ := Rounding.floorWithin_eq_some valued
  have one : (1 : ℚ) ≤ selected.grossProfitWei := by
    exact_mod_cast (by omega : 1 ≤ selected.grossProfitWei)
  have unitPositive : 0 < token.weiPerUnit := by
    by_contra worthless
    have product : ((selected.amountOut - repayment : Nat) : ℚ) * token.weiPerUnit ≤ 0 :=
      mul_nonpos_of_nonneg_of_nonpos (Nat.cast_nonneg _) (not_lt.mp worthless)
    linarith
  refine ⟨token, minProfitWei, _, known, minimum, rfl, rfl, unitPositive, ?_⟩
  have asked : profitThresholdWei config minProfitWei ≤ selected.grossProfitWei := by
    unfold profitThresholdWei
    split
    · omega
    · rename_i notShadow
      exact (live (by simpa using notShadow)).trans netLe
  have reaches : (profitThresholdWei config minProfitWei : ℚ) ≤ selected.grossProfitWei := by exact_mod_cast asked
  change _ ≤ ((selected.amountOut - prepared.repaymentWei selected : Nat) : ℚ) * token.weiPerUnit
  rw [booked]
  exact reaches.trans worth

theorem meetsMinProfit_of_unitsAgree {config : Config} {input : FeeExtractionBuildInput} {payload : ExecutionPayload}
    (agree : UnitsAgree config input.tokenIn) (built : buildFeeExtractionV2 config input = .ok payload) :
    MeetsMinProfit payload := by
  obtain ⟨token, minProfitWei, metadata, known, minimum, sampled, argument, unitPositive, worth⟩ :=
    profit_reaches_threshold built
  refine ⟨metadata, minProfitWei, sampled, argument, checkMinProfit_eq_done.mpr ?_⟩
  by_contra below
  have fewer : ((metadata.amountOutWei - metadata.repaymentWei : Nat) : ℚ) ≤ (minProfitWei : ℚ) - 1 := by
    have natural : metadata.amountOutWei - metadata.repaymentWei + 1 ≤ minProfitWei := by omega
    have cast : ((metadata.amountOutWei - metadata.repaymentWei : Nat) : ℚ) + 1 ≤ minProfitWei := by
      exact_mod_cast natural
    linarith
  have scaled := mul_le_mul_of_nonneg_right fewer unitPositive.le
  exact absurd (agree token minProfitWei known minimum) (not_lt.mpr (worth.trans scaled))

section Disagreement

variable {config : Config} (market : OrdinaryMarket config) {borrowToken : Address}
  (distinct : market.profitToken.address ≠ borrowToken) (capitalWei : Nat)

/-- Every size is repaid with one profit token and sold for the minimum, read as base units. -/
def shortScenario : Scenario where
  profitToken := market.profitToken.address
  borrowToken := borrowToken
  distinct := distinct
  lot := 1
  depth := 500 * (market.minProfitWei + 1)
  payout := market.minProfitWei + 1
  capital := capitalWei
  lotPositive := by omega
  depthPositive := by omega
  payoutPositive := by omega
  bounded := by
    have modest := market.modest
    omega
  shallow := by
    have modest := market.modest
    omega

theorem shortScenario_repayment {borrowed : Nat} (within : borrowed ≤ 375 * (market.minProfitWei + 1)) :
    (shortScenario market distinct capitalWei).repayment borrowed = 1 := by
  have quotient : 10001 * 1 * borrowed * 1000 /
      ((10000 * (500 * (market.minProfitWei + 1)) - borrowed) * 997) = 0 := Nat.div_eq_of_lt (by omega)
  simp only [Scenario.repayment, shortScenario, quotient]

theorem shortScenario_sale {borrowed : Nat} (enough : market.minProfitWei ≤ borrowed) :
    (shortScenario market distinct capitalWei).sale borrowed = market.minProfitWei := by
  have product : borrowed * (market.minProfitWei + 1) =
      market.minProfitWei * (1 + borrowed) + (borrowed - market.minProfitWei) := by
    obtain ⟨rest, rfl⟩ := Nat.exists_eq_add_of_le enough
    rw [Nat.add_sub_cancel_left]
    ring
  change borrowed * (market.minProfitWei + 1) / (1 + borrowed) = market.minProfitWei
  rw [product, Nat.add_comm, Nat.add_mul_div_right _ _ (by omega), Nat.div_eq_of_lt (by omega), Nat.zero_add]

theorem shortScenario_sells {borrowed : Nat} (least : 2 ≤ market.minProfitWei)
    (enough : market.minProfitWei ≤ borrowed) (within : borrowed ≤ 375 * (market.minProfitWei + 1)) :
    (shortScenario market distinct capitalWei).Sells borrowed := by
  have modest := market.modest
  have worthless : 10001 * 1 * borrowed / (10000 * (500 * (market.minProfitWei + 1))) = 0 :=
    Nat.div_eq_of_lt (by omega)
  refine ⟨by omega, ?_, ?_, ?_, ?_, ?_⟩
  · change borrowed < 10000 * (500 * (market.minProfitWei + 1))
    omega
  · calc borrowed * (market.minProfitWei + 1) < 2 ^ 90 * 2 ^ 90 := Nat.mul_lt_mul'' (by omega) (by omega)
      _ ≤ 2 ^ 240 := by norm_num
  · change 1 * borrowed < 2 ^ 230
    omega
  · rw [shortScenario_repayment market distinct capitalWei within, shortScenario_sale market distinct capitalWei enough]
    omega
  · change 10001 * 1 * borrowed / (10000 * (500 * (market.minProfitWei + 1))) ≤ _
    rw [worthless]
    exact Nat.zero_le _

/-- What the ratio of the pool makes of one profit token. -/
def shortCap (minProfitWei : Nat) : Nat := 5000000 * (minProfitWei + 1) / 10001

theorem shortScenario_capped (unlisted : tokenMetadata config borrowToken = none)
    (converts : nativeWeiToTokenAmount config market.profitToken.address capitalWei = some 1) :
    v2BorrowCapFromNative config borrowToken market.profitToken.address capitalWei
      (10000 * (500 * (market.minProfitWei + 1))) (10001 * 1) = some (shortCap market.minProfitWei) := by
  have modest := market.modest
  have top : u256Max = 2 ^ 256 - 1 := rfl
  have unconverted : nativeWeiToTokenAmount config borrowToken capitalWei = none := by
    simp only [nativeWeiToTokenAmount, unlisted, Option.bind_eq_bind, Option.bind_none]
  have reserves : ¬ (10000 * (500 * (market.minProfitWei + 1)) = 0 ∨ 10001 * 1 = 0) := by omega
  have exact : u256Mul 1 (10000 * (500 * (market.minProfitWei + 1))) = 5000000 * (market.minProfitWei + 1) := by
    rw [u256Mul, Saturating.mul_eq (by omega)]
    omega
  simp only [v2BorrowCapFromNative, unconverted, if_neg reserves, converts, Option.bind_eq_bind, Option.bind_some,
    exact]
  rfl

theorem shortCap_sizes {bps : Nat} (tried : bps ∈ sizingFractions config) :
    market.minProfitWei ≤ Scenario.sizeAt (shortCap market.minProfitWei) bps ∧
      Scenario.sizeAt (shortCap market.minProfitWei) bps ≤ 375 * (market.minProfitWei + 1) := by
  have modest := market.modest
  have small : shortCap market.minProfitWei < 2 ^ 200 := by
    unfold shortCap
    omega
  have bounds := Scenario.sizeAt_bounds small tried
  unfold shortCap at bounds ⊢
  omega

theorem shortScenario_trades (least : 2 ≤ market.minProfitWei) (unlisted : tokenMetadata config borrowToken = none)
    (converts : nativeWeiToTokenAmount config market.profitToken.address capitalWei = some 1) :
    (shortScenario market distinct capitalWei).Trades market (shortCap market.minProfitWei) where
  token := rfl
  capped := shortScenario_capped market capitalWei unlisted converts
  capPositive := by
    unfold shortCap
    omega
  payoutSmall := by
    have modest := market.modest
    change market.minProfitWei + 1 < 2 ^ 150
    omega
  sells bps tried _ :=
    shortScenario_sells market distinct capitalWei least (shortCap_sizes market tried).1 (shortCap_sizes market tried).2
  last := by
    have sizes := shortCap_sizes market (largestFraction_mem config)
    omega

/-- The units can only disagree over a minimum of two base units or more. -/
theorem least_of_reached (reached : (profitThresholdWei config market.minProfitWei : ℚ) ≤
    ((market.minProfitWei : ℚ) - 1) * market.profitToken.weiPerUnit) : 2 ≤ market.minProfitWei := by
  have unitPositive : 0 < market.profitToken.weiPerUnit := zero_lt_one.trans_le market.wholeWei
  have positive : 1 ≤ market.minProfitWei := by
    by_contra none
    have zero : market.minProfitWei = 0 := by omega
    have negative : ((0 : ℚ) - 1) * market.profitToken.weiPerUnit < 0 := by linarith
    rw [zero, Nat.cast_zero] at reached
    exact absurd (reached.trans_lt negative) (not_lt.mpr (Nat.cast_nonneg _))
  have asked : 1 ≤ profitThresholdWei config market.minProfitWei := by
    unfold profitThresholdWei
    split
    · exact le_rfl
    · exact positive
  by_contra below
  have one : market.minProfitWei = 1 := by omega
  have askedCast : (1 : ℚ) ≤ profitThresholdWei config market.minProfitWei := by exact_mod_cast asked
  have nothing : ((market.minProfitWei : ℚ) - 1) * market.profitToken.weiPerUnit = 0 := by
    rw [one, Nat.cast_one, sub_self, zero_mul]
  linarith

theorem worth_of_reached (reached : (profitThresholdWei config market.minProfitWei : ℚ) ≤
      ((market.minProfitWei : ℚ) - 1) * market.profitToken.weiPerUnit)
    (live : payloadShadowResearchMode config = false) :
    market.minProfitWei ≤ market.worth (market.minProfitWei - 1) := by
  have least := least_of_reached market reached
  have bounds := (market.worth_bounds (market.minProfitWei - 1)).2
  have threshold : profitThresholdWei config market.minProfitWei = market.minProfitWei := by
    simp [profitThresholdWei, live]
  rw [Nat.cast_sub (by omega), Nat.cast_one] at bounds
  rw [threshold] at reached
  have strict : (market.minProfitWei : ℚ) < market.worth (market.minProfitWei - 1) + 1 := by linarith
  exact Nat.le_of_lt_succ (by exact_mod_cast strict)

include market distinct in
/-- Where the units disagree, some build is accepted with a profit one base unit below the minimum that
it puts in its calldata. -/
theorem disagrees_of_threshold (unlisted : tokenMetadata config borrowToken = none) (least : 2 ≤ market.minProfitWei)
    (worth : payloadShadowResearchMode config = false → market.minProfitWei ≤ market.worth (market.minProfitWei - 1)) :
    ∃ input payload, input.tokenIn = market.profitToken.address ∧ buildFeeExtractionV2 config input = .ok payload ∧
      ¬ MeetsMinProfit payload := by
  obtain ⟨capitalWei, converts⟩ := market.convert_unit
  have trades := shortScenario_trades market distinct capitalWei least unlisted converts
  set s := shortScenario market distinct capitalWei with scenario
  set cap := shortCap market.minProfitWei with capDef
  have profit : ∀ bps ∈ sizingFractions config, s.sale (Scenario.sizeAt cap bps) = market.minProfitWei ∧
      s.repayment (Scenario.sizeAt cap bps) = 1 := fun bps tried =>
    ⟨shortScenario_sale market distinct capitalWei (shortCap_sizes market tried).1,
      shortScenario_repayment market distinct capitalWei (shortCap_sizes market tried).2⟩
  obtain ⟨bps, tried, nonzero, repaymentNative, built⟩ := trades.build_some (by
    intro bps tried _ live
    rw [(profit bps tried).1, (profit bps tried).2]
    exact worth live)
  refine ⟨s.input, _, rfl, built, ?_⟩
  rintro ⟨metadata, minProfit, sampled, argument, passes⟩
  cases Option.some.inj sampled
  cases Option.some.inj argument
  have enough := checkMinProfit_eq_done.mp passes
  change market.minProfitWei ≤
    s.sale (Scenario.sizeAt cap bps) - (s.prepared cap).repaymentWei (s.candidateAt market cap bps) at enough
  rw [trades.booked tried nonzero, (profit bps tried).1, (profit bps tried).2] at enough
  omega

end Disagreement

/-- The minimum means the same to builder and executor wherever the units agree. In a market that can
trade, with a token to borrow that is not monitored, nothing less is enough. -/
theorem minProfit_units_agree (config : Config) (profitToken : Address) :
    (UnitsAgree config profitToken → ∀ input payload, input.tokenIn = profitToken →
      buildFeeExtractionV2 config input = .ok payload → MeetsMinProfit payload) ∧
    ∀ market : OrdinaryMarket config, market.profitToken.address = profitToken →
      ∀ borrowToken, tokenMetadata config borrowToken = none →
      (∀ input payload, input.tokenIn = profitToken → buildFeeExtractionV2 config input = .ok payload →
        MeetsMinProfit payload) →
      UnitsAgree config profitToken := by
  constructor
  · rintro agree input payload rfl built
    exact meetsMinProfit_of_unitsAgree agree built
  · rintro market rfl borrowToken unlisted meets token minProfitWei known minimum
    cases Option.some.inj (market.known.symm.trans known)
    cases Except.ok.inj (market.minimum.symm.trans minimum)
    by_contra disagree
    have distinct : market.profitToken.address ≠ borrowToken := by
      intro same
      rw [← same, market.known] at unlisted
      exact absurd unlisted (by simp)
    have reached : (profitThresholdWei config market.minProfitWei : ℚ) ≤
        ((market.minProfitWei : ℚ) - 1) * market.profitToken.weiPerUnit := not_lt.mp disagree
    obtain ⟨input, payload, token, built, misses⟩ := disagrees_of_threshold market distinct unlisted
      (least_of_reached market reached) (worth_of_reached market reached)
    exact misses (meets input payload token built)

/-- The tests' configuration outside research mode, with a profit token of the given scale and price. -/
def liveConfig (decimals : Nat) (priceEth : ℚ) : Config :=
  { testConfig with
    allowSend := true
    monitoredTokens := [{ address := 1, decimals := decimals, priceEth := priceEth },
      { address := 2, decimals := 18, priceEth := 1 }]
    mev := { testConfig.mev with opportunityModeLock := some .conservative } }

theorem minProfit_units_agree_parity : ∃ payload,
    buildFeeExtractionV2 (liveConfig 18 1) secondPairInput = .ok payload ∧ MeetsMinProfit payload := by
  have accepted : ∃ payload, buildFeeExtractionV2 (liveConfig 18 1) secondPairInput = .ok payload ∧ true = true :=
    Collect.exists_of_holdsOf (by decide +kernel)
  obtain ⟨payload, built, _⟩ := accepted
  have agree : UnitsAgree (liveConfig 18 1) 1 := by
    intro token minProfitWei known minimum
    have listed : tokenMetadata (liveConfig 18 1) 1 = some ⟨1, 18, 1⟩ := rfl
    cases Option.some.inj (known.symm.trans listed)
    have parity : (MonitoredTokenConfig.mk 1 18 1).weiPerUnit = 1 := by decide +kernel
    have threshold : profitThresholdWei (liveConfig 18 1) minProfitWei = minProfitWei := rfl
    rw [parity, threshold]
    linarith
  exact ⟨payload, built, (minProfit_units_agree (liveConfig 18 1) 1).1 agree secondPairInput payload rfl built⟩

/-- A victim on a pair of a dollar token with six decimals, in which the profit is taken. -/
def stableProfitInput : FeeExtractionBuildInput :=
  { secondPairInput with
    victimAmountIn := 10 ^ 9
    stateBefore := .uniswapV2
      { pair := 30, token0 := 1, token1 := 2, reserve0 := 2500 * 10 ^ 9, reserve1 := 10 ^ 21, feeBps := 30 }
    v2SwapPools :=
      [{ pair := 31, token0 := 1, token1 := 2, reserve0 := 3000 * 10 ^ 9, reserve1 := 10 ^ 21, feeBps := 30 }] }

/-- The profit a payload was built for, and the minimum its calldata asks for. -/
def profitAndMinimum (payload : ExecutionPayload) : Option (Nat × Nat) :=
  match payload.edgeMetadata, payload.calldata.args[3]? with
  | some metadata, some (Abi.Token.uint minProfit) => some (metadata.amountOutWei - metadata.repaymentWei, minProfit)
  | _, _ => none

/-- A profit of 36 dollars is built, and the calldata asks for a hundred million of them. -/
theorem stableProfit_misses_minimum :
    ¬ ∀ config input payload, buildFeeExtractionV2 config input = .ok payload → MeetsMinProfit payload := by
  intro claim
  have accepted : ∃ payload, buildFeeExtractionV2 (liveConfig 6 (1 / 2500)) stableProfitInput = .ok payload ∧
      decide (profitAndMinimum payload = some (36079655, 10 ^ 14)) = true := Collect.exists_of_holdsOf (by decide +kernel)
  obtain ⟨payload, built, amounts⟩ := accepted
  obtain ⟨metadata, minProfit, sampled, argument, passes⟩ := claim _ _ payload built
  have sample := of_decide_eq_true amounts
  rw [profitAndMinimum, sampled, argument] at sample
  obtain ⟨earned, minimum⟩ := Prod.mk.inj (Option.some.inj sample)
  have enough := checkMinProfit_eq_done.mp passes
  rw [earned, minimum] at enough
  exact absurd enough (by decide)

end ArbitrageRuntime
