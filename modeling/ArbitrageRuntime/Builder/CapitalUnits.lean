import ArbitrageRuntime.Builder.Market
import ArbitrageRuntime.Builder.BuildV3

namespace ArbitrageRuntime

/-- The capital converts to base units of the borrow token, and the largest fraction of them that
sizing tries counts no more units than the capital counts wei. -/
def CapitalFits (config : Config) (borrowToken : Address) (capitalWei : Nat) : Prop :=
  ∃ cap, nativeWeiToTokenAmount config borrowToken capitalWei = some cap ∧
    u256Mul cap (largestFraction config) / 10000 ≤ capitalWei

/-- A base unit worth at least the largest fraction of one wei is enough. -/
theorem capitalFits_of_weiPerUnit {config : Config} {metadata : MonitoredTokenConfig} {borrowToken : Address}
    {capitalWei cap : Nat} (known : tokenMetadata config borrowToken = some metadata) (priced : 0 < metadata.priceEth)
    (converts : nativeWeiToTokenAmount config borrowToken capitalWei = some cap)
    (heavy : (largestFraction config : ℚ) ≤ 10000 * metadata.weiPerUnit) : CapitalFits config borrowToken capitalWei := by
  refine ⟨cap, converts, ?_⟩
  rw [nativeWeiToTokenAmount_eq known priced] at converts
  obtain ⟨_, _, lower, _⟩ := Rounding.floorWithin_eq_some converts
  have unitPositive : 0 < metadata.weiPerUnit := by
    unfold MonitoredTokenConfig.weiPerUnit weiPerEth
    positivity
  have converted : (cap : ℚ) * metadata.weiPerUnit ≤ capitalWei := (le_div_iff₀ unitPositive).mp lower
  have scaled : (cap * largestFraction config : ℚ) ≤ 10000 * capitalWei := by
    calc (cap * largestFraction config : ℚ) ≤ cap * (10000 * metadata.weiPerUnit) :=
          mul_le_mul_of_nonneg_left heavy (Nat.cast_nonneg cap)
      _ = 10000 * (cap * metadata.weiPerUnit) := by ring
      _ ≤ 10000 * capitalWei := mul_le_mul_of_nonneg_left converted (by norm_num)
  have natural : cap * largestFraction config ≤ 10000 * capitalWei := by exact_mod_cast scaled
  have exact := Saturating.mul_le_exact u256Max cap (largestFraction config)
  unfold u256Mul
  omega

theorem sized_le_capital {config : Config} {capitalWei cap bps : Nat}
    (fits : u256Mul cap (largestFraction config) / 10000 ≤ capitalWei) (tried : bps ∈ sizingFractions config) :
    u256Mul cap bps / 10000 ≤ capitalWei := by
  have order : u256Mul cap bps ≤ u256Mul cap (largestFraction config) :=
    Saturating.mul_mono le_rfl (sizingFractions_le tried)
  exact (Nat.div_le_div_right order).trans fits

theorem capitalCommitted_le_of_fits {config : Config} {input : FeeExtractionBuildInput} {payload : ExecutionPayload}
    (fits : CapitalFits config input.tokenOut input.capitalAvailableWei)
    (built : buildFeeExtractionV2 config input = .ok payload ∨ buildFeeExtractionV3 config input = .ok payload) :
    payload.capitalCommittedWei ≤ input.capitalAvailableWei := by
  obtain ⟨cap, converts, fits⟩ := fits
  rcases built with v2 | v3
  · obtain ⟨prepared, selected, _, _, _, bps, tried, run, pushed, _, _, _, _, rfl⟩ := buildFeeExtractionV2_spec v2
    obtain ⟨_, sized, _⟩ := V2SizingInput.candidate_spec pushed
    obtain ⟨_, _, _, _, _, _, _, capped⟩ := prepareV2_eq_ok.mp run
    simp only [v2BorrowCapFromNative, converts] at capped
    change selected.amountIn ≤ _
    rw [sized]
    change u256Mul prepared.capitalCapToken bps / 10000 ≤ _
    rw [← Option.some.inj capped]
    exact sized_le_capital fits tried
  · obtain ⟨prepared, selected, _, _, _, bps, tried, run, sized, _, _, _, _, rfl⟩ := buildFeeExtractionV3_spec v3
    obtain ⟨amount, _⟩ := normalizedV3Candidate_spec sized
    obtain ⟨_, _, _, _, _, _, _, _, capped⟩ := prepareV3_eq_ok.mp run
    change selected.candidate.amountIn ≤ _
    rw [amount, ← Option.some.inj (converts.symm.trans capped)]
    exact sized_le_capital fits tried

section Overcommitment

variable {config : Config} (market : OrdinaryMarket config) {borrowToken : Address}
  (distinct : market.profitToken.address ≠ borrowToken) (capitalWei : Nat) {cap : Nat}

/-- The lending pair is so deep that every size is repaid with a single profit token. -/
def deepScenario (capPositive : 0 < cap) (small : cap < 2 ^ 140) : Scenario where
  profitToken := market.profitToken.address
  borrowToken := borrowToken
  distinct := distinct
  lot := 1
  depth := cap * 2 ^ 20
  payout := 2 * (market.minProfitWei + 2)
  capital := capitalWei
  lotPositive := by omega
  depthPositive := by omega
  payoutPositive := by omega
  bounded := by omega
  shallow := by omega

theorem deepScenario_repayment (capPositive : 0 < cap) (small : cap < 2 ^ 140) {borrowed : Nat}
    (within : borrowed ≤ cap) :
    (deepScenario market distinct capitalWei capPositive small).repayment borrowed = 1 := by
  have quotient : 10001 * 1 * borrowed * 1000 / ((10000 * (cap * 2 ^ 20) - borrowed) * 997) = 0 :=
    Nat.div_eq_of_lt (by omega)
  simp only [Scenario.repayment, deepScenario, quotient]

theorem deepScenario_sells (capPositive : 0 < cap) (small : cap < 2 ^ 140) {borrowed : Nat}
    (positive : 0 < borrowed) (within : borrowed ≤ cap) :
    (deepScenario market distinct capitalWei capPositive small).Sells borrowed := by
  have modest := market.modest
  have paid : market.minProfitWei + 2 ≤
      (deepScenario market distinct capitalWei capPositive small).sale borrowed :=
    Scenario.half_payout_le_sale _ rfl positive
  have worthless : 10001 * 1 * borrowed / (10000 * (cap * 2 ^ 20)) = 0 := Nat.div_eq_of_lt (by omega)
  refine ⟨positive, ?_, ?_, ?_, ?_, ?_⟩
  · change borrowed < 10000 * (cap * 2 ^ 20)
    omega
  · calc borrowed * (2 * (market.minProfitWei + 2)) < 2 ^ 140 * 2 ^ 90 :=
          Nat.mul_lt_mul'' (by omega) (by omega)
      _ ≤ 2 ^ 240 := by norm_num
  · change 1 * borrowed < 2 ^ 230
    omega
  · rw [deepScenario_repayment market distinct capitalWei capPositive small within]
    omega
  · change 10001 * 1 * borrowed / (10000 * (cap * 2 ^ 20)) ≤ _
    rw [worthless]
    exact Nat.zero_le _

theorem sizeAt_le_cap (small : cap < 2 ^ 140) {bps : Nat} (tried : bps ∈ sizingFractions config) :
    Scenario.sizeAt cap bps ≤ cap := by
  have bounds := Scenario.sizeAt_bounds (show cap < 2 ^ 200 by omega) tried
  omega

theorem deepScenario_trades (capPositive : 0 < cap) (small : cap < 2 ^ 140)
    (converts : nativeWeiToTokenAmount config borrowToken capitalWei = some cap)
    (last : u256Mul cap (largestFraction config) / 10000 ≠ 0) :
    (deepScenario market distinct capitalWei capPositive small).Trades market cap where
  token := rfl
  capped := by simp only [v2BorrowCapFromNative, deepScenario, converts]
  capPositive := by omega
  payoutSmall := by
    have modest := market.modest
    change 2 * (market.minProfitWei + 2) < 2 ^ 150
    omega
  sells bps tried nonzero :=
    deepScenario_sells market distinct capitalWei capPositive small (Nat.pos_of_ne_zero nonzero)
      (sizeAt_le_cap small tried)
  last := last

include market distinct in
/-- When the conversion succeeds but overshoots, the largest fraction is selected and is too large. -/
theorem overcommits_of_conversion (capPositive : 0 < cap) (small : cap < 2 ^ 140)
    (converts : nativeWeiToTokenAmount config borrowToken capitalWei = some cap)
    (above : capitalWei < u256Mul cap (largestFraction config) / 10000) :
    ∃ input payload, input.tokenOut = borrowToken ∧ input.capitalAvailableWei = capitalWei ∧
      buildFeeExtractionV2 config input = .ok payload ∧ capitalWei < payload.capitalCommittedWei := by
  have trades := deepScenario_trades market distinct capitalWei capPositive small converts (by omega)
  set s := deepScenario market distinct capitalWei capPositive small with scenario
  have repaid : ∀ bps ∈ sizingFractions config, s.repayment (Scenario.sizeAt cap bps) = 1 := fun bps tried =>
    deepScenario_repayment market distinct capitalWei capPositive small (sizeAt_le_cap small tried)
  have lastRepaid := repaid _ (largestFraction_mem config)
  have paid : market.minProfitWei + 2 ≤ s.sale (Scenario.sizeAt cap (largestFraction config)) :=
    Scenario.half_payout_le_sale s rfl (Nat.pos_of_ne_zero trades.last)
  have worth := market.le_worth (s.sale (Scenario.sizeAt cap (largestFraction config)) - 1)
  obtain ⟨repaymentNative, built⟩ := trades.build_last
    (fun bps tried => (repaid bps tried).trans lastRepaid.symm) (by rw [lastRepaid]; omega)
  exact ⟨s.input, _, rfl, rfl, built, above⟩

/-- The lending pair holds so many borrowed tokens for each profit token that every fraction of the
capital, taken at the pool's ratio, counts more units than the capital counts wei. -/
def ratioScenario (capitalPositive : 0 < capitalWei) (small : capitalWei < 2 ^ 70) : Scenario where
  profitToken := market.profitToken.address
  borrowToken := borrowToken
  distinct := distinct
  lot := capitalWei
  depth := 500 * (capitalWei * (capitalWei + 1))
  payout := 2 * (market.minProfitWei + capitalWei + 2)
  capital := capitalWei
  lotPositive := capitalPositive
  depthPositive := Nat.mul_pos (by omega) (Nat.mul_pos capitalPositive (by omega))
  payoutPositive := by omega
  bounded := by
    have square : capitalWei * (capitalWei + 1) < 2 ^ 70 * 2 ^ 71 := Nat.mul_lt_mul'' small (by omega)
    have cube : capitalWei * (500 * (capitalWei * (capitalWei + 1))) < 2 ^ 70 * 2 ^ 150 :=
      Nat.mul_lt_mul'' small (by omega)
    omega
  shallow := by
    have square : capitalWei * (capitalWei + 1) < 2 ^ 70 * 2 ^ 71 := Nat.mul_lt_mul'' small (by omega)
    omega

theorem ratioScenario_sells (capitalPositive : 0 < capitalWei) (small : capitalWei < 2 ^ 70) {borrowed : Nat}
    (positive : 0 < borrowed) (within : borrowed ≤ 375 * (capitalWei * (capitalWei + 1))) :
    (ratioScenario market distinct capitalWei capitalPositive small).Sells borrowed ∧
      (ratioScenario market distinct capitalWei capitalPositive small).repayment borrowed ≤ capitalWei + 1 ∧
      market.minProfitWei + capitalWei + 2 ≤
        (ratioScenario market distinct capitalWei capitalPositive small).sale borrowed := by
  have modest := market.modest
  have square : capitalWei * (capitalWei + 1) < 2 ^ 70 * 2 ^ 71 := Nat.mul_lt_mul'' small (by omega)
  have paid : market.minProfitWei + capitalWei + 2 ≤
      (ratioScenario market distinct capitalWei capitalPositive small).sale borrowed :=
    Scenario.half_payout_le_sale _ rfl positive
  have repaid : (ratioScenario market distinct capitalWei capitalPositive small).repayment borrowed ≤
      capitalWei + 1 := by
    refine Nat.succ_le_succ (Nat.div_le_of_le_mul ?_)
    have linear : 10001000 * borrowed ≤ (10000 * (500 * (capitalWei * (capitalWei + 1))) - borrowed) * 997 := by omega
    calc 10001 * capitalWei * borrowed * 1000 = 10001000 * borrowed * capitalWei := by ring
      _ ≤ (10000 * (500 * (capitalWei * (capitalWei + 1))) - borrowed) * 997 * capitalWei :=
          Nat.mul_le_mul_right capitalWei linear
  have ideal : 10001 * capitalWei * borrowed / (10000 * (500 * (capitalWei * (capitalWei + 1)))) ≤ capitalWei := by
    refine Nat.div_le_of_le_mul ?_
    have linear : 10001 * borrowed ≤ 10000 * (500 * (capitalWei * (capitalWei + 1))) := by omega
    calc 10001 * capitalWei * borrowed = 10001 * borrowed * capitalWei := by ring
      _ ≤ 10000 * (500 * (capitalWei * (capitalWei + 1))) * capitalWei := Nat.mul_le_mul_right capitalWei linear
  refine ⟨⟨positive, ?_, ?_, ?_, by omega, ideal.trans (by omega)⟩, repaid, paid⟩
  · change borrowed < 10000 * (500 * (capitalWei * (capitalWei + 1)))
    omega
  · calc borrowed * (2 * (market.minProfitWei + capitalWei + 2)) < 2 ^ 150 * 2 ^ 90 :=
          Nat.mul_lt_mul'' (by omega) (by omega)
      _ = 2 ^ 240 := by norm_num
  · calc capitalWei * borrowed < 2 ^ 70 * 2 ^ 150 := Nat.mul_lt_mul'' small (by omega)
      _ ≤ 2 ^ 230 := by norm_num

/-- What the ratio of the pool makes of so many profit tokens. -/
def ratioCap (capitalWei units : Nat) : Nat := units * (5000000 * (capitalWei + 1)) / 10001

theorem ratioCap_bounds {units : Nat} (positive : 0 < units) (le : units ≤ capitalWei) :
    499 * (capitalWei + 1) ≤ ratioCap capitalWei units ∧
      ratioCap capitalWei units ≤ 500 * (capitalWei * (capitalWei + 1)) := by
  have one : 5000000 * (capitalWei + 1) ≤ units * (5000000 * (capitalWei + 1)) := Nat.le_mul_of_pos_left _ positive
  have all : units * (5000000 * (capitalWei + 1)) ≤ capitalWei * (5000000 * (capitalWei + 1)) :=
    Nat.mul_le_mul_right _ le
  have product : capitalWei * (5000000 * (capitalWei + 1)) = 5000000 * (capitalWei * (capitalWei + 1)) := by ring
  unfold ratioCap
  omega

/-- When the borrow token does not convert, the cap comes from the pool's ratio. -/
theorem ratioScenario_capped (capitalPositive : 0 < capitalWei) (small : capitalWei < 2 ^ 70) {units : Nat}
    (le : units ≤ capitalWei) (unpriced : nativeWeiToTokenAmount config borrowToken capitalWei = none)
    (converts : nativeWeiToTokenAmount config market.profitToken.address capitalWei = some units) :
    v2BorrowCapFromNative config borrowToken market.profitToken.address capitalWei
      (10000 * (500 * (capitalWei * (capitalWei + 1)))) (10001 * capitalWei) = some (ratioCap capitalWei units) := by
  have top : u256Max = 2 ^ 256 - 1 := rfl
  have square : capitalWei * (capitalWei + 1) < 2 ^ 70 * 2 ^ 71 := Nat.mul_lt_mul'' small (by omega)
  have reserves : ¬ (10000 * (500 * (capitalWei * (capitalWei + 1))) = 0 ∨ 10001 * capitalWei = 0) := by
    have product : 0 < capitalWei * (capitalWei + 1) := Nat.mul_pos capitalPositive (by omega)
    omega
  have product : units * (10000 * (500 * (capitalWei * (capitalWei + 1)))) =
      units * (5000000 * (capitalWei + 1)) * capitalWei := by ring
  have bounded : units * (10000 * (500 * (capitalWei * (capitalWei + 1)))) < 2 ^ 71 * 2 ^ 170 :=
    Nat.mul_lt_mul'' (by omega) (by omega)
  have quotient : u256Mul units (10000 * (500 * (capitalWei * (capitalWei + 1)))) / (10001 * capitalWei) =
      ratioCap capitalWei units := by
    rw [u256Mul, Saturating.mul_eq (by omega), product]
    exact Nat.mul_div_mul_right _ _ capitalPositive
  simp only [v2BorrowCapFromNative, unpriced, if_neg reserves, converts, Option.bind_eq_bind, Option.bind_some,
    quotient]

theorem ratioCap_sizes (small : capitalWei < 2 ^ 70) {units bps : Nat} (positive : 0 < units) (le : units ≤ capitalWei)
    (tried : bps ∈ sizingFractions config) :
    capitalWei < Scenario.sizeAt (ratioCap capitalWei units) bps ∧
      Scenario.sizeAt (ratioCap capitalWei units) bps ≤ 375 * (capitalWei * (capitalWei + 1)) := by
  have square : capitalWei * (capitalWei + 1) < 2 ^ 70 * 2 ^ 71 := Nat.mul_lt_mul'' small (by omega)
  have capBounds := ratioCap_bounds capitalWei positive le
  have bounds := Scenario.sizeAt_bounds (show ratioCap capitalWei units < 2 ^ 200 by omega) tried
  omega

theorem ratioScenario_trades (capitalPositive : 0 < capitalWei) (small : capitalWei < 2 ^ 70) {units : Nat}
    (positive : 0 < units) (le : units ≤ capitalWei)
    (unpriced : nativeWeiToTokenAmount config borrowToken capitalWei = none)
    (converts : nativeWeiToTokenAmount config market.profitToken.address capitalWei = some units) :
    (ratioScenario market distinct capitalWei capitalPositive small).Trades market (ratioCap capitalWei units) where
  token := rfl
  capped := ratioScenario_capped market capitalWei capitalPositive small le unpriced converts
  capPositive := by
    have bounds := ratioCap_bounds capitalWei positive le
    omega
  payoutSmall := by
    have modest := market.modest
    change 2 * (market.minProfitWei + capitalWei + 2) < 2 ^ 150
    omega
  sells bps tried nonzero :=
    (ratioScenario_sells market distinct capitalWei capitalPositive small (Nat.pos_of_ne_zero nonzero)
      (ratioCap_sizes capitalWei small positive le tried).2).1
  last := by
    have sizes := ratioCap_sizes capitalWei small positive le (largestFraction_mem config)
    omega

include market distinct in
/-- There every fraction that can be selected is too large. -/
theorem overcommits_of_ratio (small : capitalWei < 2 ^ 70) (heavy : market.profitToken.weiPerUnit ≤ capitalWei)
    (unpriced : nativeWeiToTokenAmount config borrowToken capitalWei = none) :
    ∃ input payload, input.tokenOut = borrowToken ∧ input.capitalAvailableWei = capitalWei ∧
      buildFeeExtractionV2 config input = .ok payload ∧ capitalWei < payload.capitalCommittedWei := by
  have capitalPositive : 0 < capitalWei := by
    have one : (1 : ℚ) ≤ capitalWei := market.wholeWei.trans heavy
    exact_mod_cast one
  obtain ⟨units, converts, positive, le⟩ := market.convert_capital heavy small
  have trades := ratioScenario_trades market distinct capitalWei capitalPositive small positive le unpriced converts
  obtain ⟨bps, tried, _, repaymentNative, built⟩ := trades.build_some (by
    intro bps tried nonzero _
    obtain ⟨_, repaid, paid⟩ := ratioScenario_sells market distinct capitalWei capitalPositive small
      (Nat.pos_of_ne_zero nonzero) (ratioCap_sizes capitalWei small positive le tried).2
    refine le_trans ?_ (market.le_worth _)
    omega)
  exact ⟨_, _, rfl, rfl, built, (ratioCap_sizes capitalWei small positive le tried).1⟩

end Overcommitment

/-- The committed capital stays within the available capital wherever the capital fits in units of
the borrow token, whatever the rest of the input is. In a market that can trade, nothing less is
enough: some other input with the same borrow token and capital commits more. -/
theorem capitalCommitted_le_available (config : Config) (borrowToken : Address) (capitalWei : Nat) :
    (CapitalFits config borrowToken capitalWei → ∀ input payload, input.tokenOut = borrowToken →
      input.capitalAvailableWei = capitalWei →
      (buildFeeExtractionV2 config input = .ok payload ∨ buildFeeExtractionV3 config input = .ok payload) →
      payload.capitalCommittedWei ≤ capitalWei) ∧
    ∀ market : OrdinaryMarket config, market.profitToken.address ≠ borrowToken →
      market.profitToken.weiPerUnit ≤ capitalWei → capitalWei < 2 ^ 70 →
      (∀ cap, nativeWeiToTokenAmount config borrowToken capitalWei = some cap → cap < 2 ^ 140) →
      (∀ input payload, input.tokenOut = borrowToken → input.capitalAvailableWei = capitalWei →
        buildFeeExtractionV2 config input = .ok payload → payload.capitalCommittedWei ≤ capitalWei) →
      CapitalFits config borrowToken capitalWei := by
  constructor
  · rintro fits input payload rfl rfl built
    exact capitalCommitted_le_of_fits fits built
  · intro market distinct heavy small capSmall within
    by_contra overflow
    have violated : ∃ input payload, input.tokenOut = borrowToken ∧ input.capitalAvailableWei = capitalWei ∧
        buildFeeExtractionV2 config input = .ok payload ∧ capitalWei < payload.capitalCommittedWei := by
      cases converts : nativeWeiToTokenAmount config borrowToken capitalWei with
      | none => exact overcommits_of_ratio market distinct capitalWei small heavy converts
      | some cap =>
        have above : capitalWei < u256Mul cap (largestFraction config) / 10000 := by
          by_contra fits
          exact overflow ⟨cap, converts, not_lt.mp fits⟩
        have capPositive : 0 < cap := by
          rcases Nat.eq_zero_or_pos cap with zero | positive
          · simp [zero, u256Mul, Saturating.mul] at above
          · exact positive
        exact overcommits_of_conversion market distinct capitalWei capPositive (capSmall cap converts) converts above
    obtain ⟨input, payload, token, capital, built, more⟩ := violated
    exact absurd (within input payload token capital built) (not_le.mpr more)

/-- The tests' configuration with a second monitored token of the given price. -/
def twoTokenConfig (priceEth : ℚ) : Config :=
  { testConfig with
    monitoredTokens :=
      [{ address := 1, decimals := 18, priceEth := 1 }, { address := 2, decimals := 18, priceEth := priceEth }] }

theorem capitalCommitted_le_available_parity :
    ∃ payload, buildFeeExtractionV2 (twoTokenConfig 1) secondPairInput = .ok payload ∧
      payload.capitalCommittedWei ≤ 10 ^ 17 := by
  have accepted : ∃ payload, buildFeeExtractionV2 (twoTokenConfig 1) secondPairInput = .ok payload ∧ true = true :=
    Collect.exists_of_holdsOf (by decide +kernel)
  obtain ⟨payload, built, _⟩ := accepted
  have converts : nativeWeiToTokenAmount (twoTokenConfig 1) 2 (10 ^ 17) = some (10 ^ 17) := by decide +kernel
  have heavy : (largestFraction (twoTokenConfig 1) : ℚ) ≤
      10000 * (MonitoredTokenConfig.mk 2 18 1).weiPerUnit := by decide +kernel
  have fits : CapitalFits (twoTokenConfig 1) 2 (10 ^ 17) := capitalFits_of_weiPerUnit rfl (by norm_num) converts heavy
  exact ⟨payload, built,
    (capitalCommitted_le_available (twoTokenConfig 1) 2 (10 ^ 17)).1 fits secondPairInput payload rfl rfl (.inl built)⟩

/-- A victim on a pair of wrapped native against a token worth a 2500th of it. -/
def stableBorrowInput : FeeExtractionBuildInput :=
  { secondPairInput with
    stateBefore := .uniswapV2
      { pair := 30, token0 := 1, token1 := 2, reserve0 := 10 ^ 21, reserve1 := 2500 * 10 ^ 21, feeBps := 30 }
    v2SwapPools :=
      [{ pair := 31, token0 := 1, token1 := 2, reserve0 := 2 * 10 ^ 21, reserve1 := 2500 * 10 ^ 21, feeBps := 30 }] }

/-- A tenth of the native asset is available, and the payload commits 37.5 units of the borrow token
as if they were native. -/
theorem capitalCommitted_exceeds_available :
    ¬ ∀ config input payload, (buildFeeExtractionV2 config input = .ok payload ∨
        buildFeeExtractionV3 config input = .ok payload) →
      payload.capitalCommittedWei ≤ input.capitalAvailableWei := by
  intro claim
  have committed : ∃ payload, buildFeeExtractionV2 (twoTokenConfig (1 / 2500)) stableBorrowInput = .ok payload ∧
      decide (payload.capitalCommittedWei = 375 * 10 ^ 17) = true := Collect.exists_of_holdsOf (by decide +kernel)
  obtain ⟨payload, built, amount⟩ := committed
  have bound := claim (twoTokenConfig (1 / 2500)) stableBorrowInput payload (.inl built)
  rw [of_decide_eq_true amount] at bound
  exact absurd bound (by decide)

end ArbitrageRuntime
