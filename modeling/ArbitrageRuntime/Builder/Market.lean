import ArbitrageRuntime.Builder.Scenario

namespace ArbitrageRuntime

/-- A configuration that can trade: an executor is deployed, and one base unit of some monitored
token is worth at least one wei. The bounds keep every amount of the scenarios inside its word. -/
structure OrdinaryMarket (config : Config) where
  executor : Address
  configured : config.mev.mevExecutor = some executor
  minProfitWei : Nat
  minimum : effectivePayloadMinProfitWei config = .ok minProfitWei
  modest : minProfitWei < 2 ^ 80
  profitToken : MonitoredTokenConfig
  known : tokenMetadata config profitToken.address = some profitToken
  wholeWei : 1 ≤ profitToken.weiPerUnit
  light : profitToken.weiPerUnit < 2 ^ 70

namespace OrdinaryMarket

variable {config : Config} (market : OrdinaryMarket config)

/-- The native worth of an amount of the profit token. -/
def worth (amount : Nat) : Nat := ⌊(amount : ℚ) * market.profitToken.weiPerUnit⌋.toNat

theorem worth_bounds (amount : Nat) :
    (market.worth amount : ℚ) ≤ amount * market.profitToken.weiPerUnit ∧
      amount * market.profitToken.weiPerUnit < market.worth amount + 1 := by
  have unitPositive : 0 ≤ market.profitToken.weiPerUnit := zero_le_one.trans market.wholeWei
  have nonneg : 0 ≤ ⌊(amount : ℚ) * market.profitToken.weiPerUnit⌋ :=
    Int.floor_nonneg.mpr (mul_nonneg (Nat.cast_nonneg amount) unitPositive)
  have cast : (market.worth amount : ℚ) = (⌊(amount : ℚ) * market.profitToken.weiPerUnit⌋ : ℚ) := by
    exact_mod_cast congrArg (Int.cast : Int → ℚ) (Int.toNat_of_nonneg nonneg)
  rw [cast]
  exact ⟨Int.floor_le _, Int.lt_floor_add_one _⟩

theorem worth_mono {small large : Nat} (order : small ≤ large) : market.worth small ≤ market.worth large := by
  have unitPositive : 0 ≤ market.profitToken.weiPerUnit := zero_le_one.trans market.wholeWei
  have products : (small : ℚ) * market.profitToken.weiPerUnit ≤ large * market.profitToken.weiPerUnit :=
    mul_le_mul_of_nonneg_right (by exact_mod_cast order) unitPositive
  have bound : (market.worth small : ℚ) < market.worth large + 1 :=
    ((market.worth_bounds small).1.trans products).trans_lt (market.worth_bounds large).2
  exact Nat.le_of_lt_succ (by exact_mod_cast bound)

theorem le_worth (amount : Nat) : amount ≤ market.worth amount := by
  have scaled : (amount : ℚ) ≤ amount * market.profitToken.weiPerUnit :=
    le_mul_of_one_le_right (Nat.cast_nonneg amount) market.wholeWei
  have bound : (amount : ℚ) < market.worth amount + 1 := scaled.trans_lt (market.worth_bounds amount).2
  exact Nat.le_of_lt_succ (by exact_mod_cast bound)

theorem worth_eq {amount : Nat} (small : amount < 2 ^ 150) :
    tokenAmountToNativeWei config market.profitToken.address amount = some (market.worth amount) := by
  obtain ⟨lower, upper⟩ := market.worth_bounds amount
  have product : (amount : ℚ) * market.profitToken.weiPerUnit < 2 ^ 150 * 2 ^ 70 :=
    mul_lt_mul'' (by exact_mod_cast small) market.light (Nat.cast_nonneg amount)
      (zero_le_one.trans market.wholeWei)
  have fits : market.worth amount ≤ u256Max := by
    have below : (market.worth amount : ℚ) < 2 ^ 220 := lower.trans_lt (product.trans_eq (by norm_num))
    have natural : market.worth amount < 2 ^ 220 := by exact_mod_cast below
    exact natural.le.trans (by norm_num [u256Max])
  rw [tokenAmountToNativeWei_eq market.known]
  exact Rounding.floorWithin_of_bounds fits lower upper

theorem priced : 0 < market.profitToken.priceEth := by
  have unitPositive : 0 < market.profitToken.weiPerUnit := zero_lt_one.trans_le market.wholeWei
  by_contra unpriced
  have numerator : market.profitToken.priceEth * weiPerEth ≤ 0 :=
    mul_nonpos_of_nonpos_of_nonneg (not_lt.mp unpriced) (by norm_num [weiPerEth])
  have quotient : market.profitToken.weiPerUnit ≤ 0 := div_nonpos_of_nonpos_of_nonneg numerator (by positivity)
  exact absurd unitPositive (not_lt.mpr quotient)

/-- Some capital converts to exactly one base unit. -/
theorem convert_unit : ∃ capitalWei,
    nativeWeiToTokenAmount config market.profitToken.address capitalWei = some 1 := by
  have unitPositive : 0 < market.profitToken.weiPerUnit := zero_lt_one.trans_le market.wholeWei
  refine ⟨⌈market.profitToken.weiPerUnit⌉₊, ?_⟩
  have lower : ((1 : Nat) : ℚ) ≤ (⌈market.profitToken.weiPerUnit⌉₊ : ℚ) / market.profitToken.weiPerUnit := by
    rw [le_div_iff₀ unitPositive, Nat.cast_one, one_mul]
    exact Nat.le_ceil _
  have upper : (⌈market.profitToken.weiPerUnit⌉₊ : ℚ) / market.profitToken.weiPerUnit < ((1 : Nat) : ℚ) + 1 := by
    rw [div_lt_iff₀ unitPositive, Nat.cast_one]
    have ceil := Nat.ceil_lt_add_one unitPositive.le
    have whole := market.wholeWei
    linarith
  rw [nativeWeiToTokenAmount_eq market.known market.priced]
  exact Rounding.floorWithin_of_bounds (by decide) lower upper

/-- Capital that is worth at least one base unit converts to a positive number of them. -/
theorem convert_capital {capitalWei : Nat} (heavy : market.profitToken.weiPerUnit ≤ capitalWei)
    (small : capitalWei < 2 ^ 70) :
    ∃ units, nativeWeiToTokenAmount config market.profitToken.address capitalWei = some units ∧ 0 < units ∧
      units ≤ capitalWei := by
  have unitPositive : 0 < market.profitToken.weiPerUnit := zero_lt_one.trans_le market.wholeWei
  have ratio : 1 ≤ (capitalWei : ℚ) / market.profitToken.weiPerUnit := (one_le_div unitPositive).mpr heavy
  have bound : (capitalWei : ℚ) / market.profitToken.weiPerUnit ≤ capitalWei :=
    div_le_self (Nat.cast_nonneg capitalWei) market.wholeWei
  have floorNonneg : 0 ≤ ⌊(capitalWei : ℚ) / market.profitToken.weiPerUnit⌋ :=
    Int.floor_nonneg.mpr (zero_le_one.trans ratio)
  obtain ⟨units, floorEq⟩ := Int.eq_ofNat_of_zero_le floorNonneg
  have lower : (units : ℚ) ≤ capitalWei / market.profitToken.weiPerUnit := by
    have floor := Int.floor_le ((capitalWei : ℚ) / market.profitToken.weiPerUnit)
    rw [floorEq] at floor
    exact_mod_cast floor
  have upper : (capitalWei : ℚ) / market.profitToken.weiPerUnit < units + 1 := by
    have floor := Int.lt_floor_add_one ((capitalWei : ℚ) / market.profitToken.weiPerUnit)
    rw [floorEq] at floor
    exact_mod_cast floor
  have unitsLe : units ≤ capitalWei := by exact_mod_cast lower.trans bound
  have unitsPositive : 0 < units := by
    have positive : (0 : ℚ) < units := by linarith
    exact_mod_cast positive
  refine ⟨units, ?_, unitsPositive, unitsLe⟩
  rw [nativeWeiToTokenAmount_eq market.known market.priced]
  have top : u256Max = 2 ^ 256 - 1 := rfl
  exact Rounding.floorWithin_of_bounds (by omega) lower upper

end OrdinaryMarket

namespace Scenario

variable {config : Config} (market : OrdinaryMarket config) (s : Scenario) (capitalCapToken : Nat)

/-- The size that a fraction of the capital comes to. -/
def sizeAt (capitalCapToken bps : Nat) : Nat := u256Mul capitalCapToken bps / 10000

theorem sizeAt_eq {capitalCapToken bps : Nat} (small : capitalCapToken < 2 ^ 200) (fraction : bps ≤ 7500) :
    sizeAt capitalCapToken bps = capitalCapToken * bps / 10000 := by
  have top : u256Max = 2 ^ 256 - 1 := rfl
  have product : capitalCapToken * bps ≤ capitalCapToken * 7500 := Nat.mul_le_mul_left _ fraction
  rw [sizeAt, u256Mul, Saturating.mul_eq (by omega)]

/-- Every fraction that sizing tries lies between a four-hundredth and three quarters of the cap. -/
theorem sizeAt_bounds {config : Config} {capitalCapToken bps : Nat} (small : capitalCapToken < 2 ^ 200)
    (tried : bps ∈ sizingFractions config) :
    capitalCapToken * 25 / 10000 ≤ sizeAt capitalCapToken bps ∧
      sizeAt capitalCapToken bps ≤ capitalCapToken * 7500 / 10000 := by
  obtain ⟨least, most⟩ := sizingFractions_bounds tried
  rw [sizeAt_eq small most]
  exact ⟨Nat.div_le_div_right (Nat.mul_le_mul_left _ least), Nat.div_le_div_right (Nat.mul_le_mul_left _ most)⟩

theorem sizeAt_mono (capitalCapToken : Nat) {small large : Nat} (order : small ≤ large) :
    sizeAt capitalCapToken small ≤ sizeAt capitalCapToken large :=
  Nat.div_le_div_right (Saturating.mul_mono le_rfl order)

/-- The second pair pays at least half of its payout, and more for more. -/
theorem half_payout_le_sale {half borrowed : Nat} (payout : s.payout = 2 * half) (positive : 0 < borrowed) :
    half ≤ s.sale borrowed := by
  rw [sale, payout, Nat.le_div_iff_mul_le (by omega)]
  have grows : half ≤ half * borrowed := Nat.le_mul_of_pos_right half positive
  calc half * (1 + borrowed) = half + half * borrowed := by ring
    _ ≤ 2 * (half * borrowed) := by omega
    _ = borrowed * (2 * half) := by ring

theorem sale_mono {small large : Nat} (order : small ≤ large) : s.sale small ≤ s.sale large := by
  refine Rounding.div_le_div_of_cross (by omega) ?_
  have product : s.payout * small ≤ s.payout * large := Nat.mul_le_mul_left _ order
  calc small * s.payout * (1 + large) = s.payout * small + s.payout * small * large := by ring
    _ ≤ s.payout * large + s.payout * small * large := by omega
    _ = large * s.payout * (1 + small) := by ring

/-- The candidate of one fraction. -/
def candidateAt (bps : Nat) : SizeCandidate :=
  ((s.prepared capitalCapToken).sizing config s.input).pushed bps (sizeAt capitalCapToken bps)
    (s.sale (sizeAt capitalCapToken bps))
    (market.worth (s.sale (sizeAt capitalCapToken bps) - s.repayment (sizeAt capitalCapToken bps)))
    (s.repayment (sizeAt capitalCapToken bps)) (market.worth (s.repayment (sizeAt capitalCapToken bps)))

theorem netOf_eq (gross : Nat) : ((s.prepared capitalCapToken).sizing config s.input).netOf gross = gross := by
  have free : ((s.prepared capitalCapToken).sizing config s.input).gasCostWei = 0 := by
    simp [V2Prepared.sizing, input, gasCost, u256Mul, Saturating.mul]
  unfold V2SizingInput.netOf
  split
  · rfl
  · rw [free, Nat.sub_zero]

/-- Every fraction of the scenario either comes to nothing or is pushed. -/
structure Trades : Prop where
  token : s.profitToken = market.profitToken.address
  capped : v2BorrowCapFromNative config s.borrowToken s.profitToken s.capital (10000 * s.depth)
    (10001 * s.lot) = some capitalCapToken
  capPositive : capitalCapToken ≠ 0
  payoutSmall : s.payout < 2 ^ 150
  sells : ∀ bps ∈ sizingFractions config, sizeAt capitalCapToken bps ≠ 0 → s.Sells (sizeAt capitalCapToken bps)
  last : sizeAt capitalCapToken (largestFraction config) ≠ 0

variable {market s capitalCapToken}

theorem Trades.candidate (trades : s.Trades market capitalCapToken) {bps : Nat}
    (tried : bps ∈ sizingFractions config) :
    ((s.prepared capitalCapToken).sizing config s.input).candidate config bps =
      .ok (if sizeAt capitalCapToken bps = 0 then none else some (s.candidateAt market capitalCapToken bps)) := by
  by_cases zero : sizeAt capitalCapToken bps = 0
  · rw [if_pos zero]
    exact if_pos (.inl zero)
  · rw [if_neg zero]
    have sells := trades.sells bps tried zero
    have profitable := sells.profitable
    have saleSmall : s.sale (sizeAt capitalCapToken bps) < 2 ^ 150 := by
      have below : s.sale (sizeAt capitalCapToken bps) ≤ s.payout :=
        Nat.div_le_of_le_mul (Nat.mul_le_mul_right _ (Nat.le_add_left _ _))
      exact below.trans_lt trades.payoutSmall
    have token : ((s.prepared capitalCapToken).sizing config s.input).profitToken = market.profitToken.address :=
      trades.token
    have grossWorth := market.le_worth (s.sale (sizeAt capitalCapToken bps) - s.repayment (sizeAt capitalCapToken bps))
    have repaymentWorth := market.le_worth (s.repayment (sizeAt capitalCapToken bps))
    have repaymentPositive : 0 < s.repayment (sizeAt capitalCapToken bps) := Nat.succ_pos _
    refine V2SizingInput.candidate_pushes zero sells.lent (s.quote sells) (s.repaid sells) ?_ ?_ ?_ (by omega)
    · rw [token]
      exact market.worth_eq (by omega)
    · rw [netOf_eq]
      omega
    · rw [token]
      exact market.worth_eq (by omega)

/-- With the same repayment, a larger fraction with no less profit has no lower score. -/
theorem Trades.score_le (trades : s.Trades market capitalCapToken) {small large : Nat}
    (smallTried : small ∈ sizingFractions config) (largeTried : large ∈ sizingFractions config)
    (smallSized : sizeAt capitalCapToken small ≠ 0) (largeSized : sizeAt capitalCapToken large ≠ 0)
    (order : small ≤ large)
    (sameRepayment : s.repayment (sizeAt capitalCapToken small) = s.repayment (sizeAt capitalCapToken large)) :
    (s.candidateAt market capitalCapToken small).grossProfitWei ≤
        (s.candidateAt market capitalCapToken large).grossProfitWei ∧
      sizingScore 0 0 (s.candidateAt market capitalCapToken small) ≤
        sizingScore 0 0 (s.candidateAt market capitalCapToken large) := by
  have sales : s.sale (sizeAt capitalCapToken small) ≤ s.sale (sizeAt capitalCapToken large) :=
    s.sale_mono (sizeAt_mono capitalCapToken order)
  have profits : market.worth (s.sale (sizeAt capitalCapToken small) - s.repayment (sizeAt capitalCapToken small)) ≤
      market.worth (s.sale (sizeAt capitalCapToken large) - s.repayment (sizeAt capitalCapToken large)) := by
    rw [sameRepayment]
    exact market.worth_mono (by omega)
  have repaymentPositive : s.repayment (sizeAt capitalCapToken large) ≠ 0 := Nat.succ_ne_zero _
  have rois : (s.candidateAt market capitalCapToken small).roiBps ≤
      (s.candidateAt market capitalCapToken large).roiBps := by
    simp only [candidateAt, V2SizingInput.pushed, netOf_eq]
    rw [sameRepayment, if_neg repaymentPositive, if_neg repaymentPositive, ← sameRepayment]
    rw [sameRepayment] at profits ⊢
    exact min_le_min_right _ (Nat.div_le_div_right (Saturating.mul_mono profits le_rfl))
  have smallFlat : (s.candidateAt market capitalCapToken small).selfSlippageBps = 0 :=
    s.flat_impact (trades.sells small smallTried smallSized)
  have largeFlat : (s.candidateAt market capitalCapToken large).selfSlippageBps = 0 :=
    s.flat_impact (trades.sells large largeTried largeSized)
  have nets : (s.candidateAt market capitalCapToken small).netProfitWei ≤
      (s.candidateAt market capitalCapToken large).netProfitWei := by
    simp only [candidateAt, V2SizingInput.pushed, netOf_eq]
    exact profits
  exact ⟨profits, sizingScore_mono nets rois order smallFlat largeFlat⟩

/-- The sizing loop ends with the largest fraction, after candidates of the smaller ones. -/
theorem Trades.candidates (trades : s.Trades market capitalCapToken) :
    ∃ sizes, feeExtractionV2SizeCandidates config ((s.prepared capitalCapToken).sizing config s.input)
        (sizingFractions config) = .ok (sizes ++ [s.candidateAt market capitalCapToken (largestFraction config)]) ∧
      ∀ size ∈ sizes ++ [s.candidateAt market capitalCapToken (largestFraction config)],
        ∃ bps ∈ sizingFractions config, sizeAt capitalCapToken bps ≠ 0 ∧
          size = s.candidateAt market capitalCapToken bps := by
  obtain ⟨smaller, split⟩ := sizingFractions_last config
  have lotPositive := s.lotPositive
  have depthPositive := s.depthPositive
  have nonzero : ¬ (capitalCapToken = 0 ∨ 10000 * s.depth = 0 ∨ 10001 * s.lot = 0) := by
    have cap := trades.capPositive
    omega
  have lastPushed := trades.candidate (largestFraction_mem config)
  rw [if_neg trades.last] at lastPushed
  have total : ∀ bps ∈ smaller,
      ∃ r, ((s.prepared capitalCapToken).sizing config s.input).candidate config bps = .ok r :=
    fun bps inside => ⟨_, trades.candidate (by simp [split, inside])⟩
  obtain ⟨sizes, collected⟩ := Collect.collect_concat total lastPushed
  have loop : feeExtractionV2SizeCandidates config ((s.prepared capitalCapToken).sizing config s.input)
      (sizingFractions config) = .ok (sizes ++ [s.candidateAt market capitalCapToken (largestFraction config)]) := by
    rw [feeExtractionV2SizeCandidates, split, ← collected]
    exact if_neg nonzero
  refine ⟨sizes, loop, fun size member => ?_⟩
  obtain ⟨bps, tried, pushed⟩ := feeExtractionV2SizeCandidates_mem loop member
  rw [trades.candidate tried] at pushed
  by_cases zero : sizeAt capitalCapToken bps = 0
  · rw [if_pos zero] at pushed
    exact absurd (Except.ok.inj pushed) (by simp)
  · rw [if_neg zero] at pushed
    exact ⟨bps, tried, zero, (Option.some.inj (Except.ok.inj pushed)).symm⟩

/-- A selected fraction is built, if its profit reaches the minimum where that is checked. -/
theorem Trades.build (trades : s.Trades market capitalCapToken) {sizes : List SizeCandidate} {bps : Nat}
    (loop : feeExtractionV2SizeCandidates config ((s.prepared capitalCapToken).sizing config s.input)
      (sizingFractions config) = .ok sizes)
    (chosen : selectV2 config s.input sizes = .ok (s.candidateAt market capitalCapToken bps))
    (enough : payloadShadowResearchMode config = false → market.minProfitWei ≤
      market.worth (s.sale (sizeAt capitalCapToken bps) - s.repayment (sizeAt capitalCapToken bps))) :
    ∃ repaymentNative, buildFeeExtractionV2 config s.input = .ok (payloadV2 config s.input
      (s.prepared capitalCapToken) (s.candidateAt market capitalCapToken bps) repaymentNative market.minProfitWei
      market.executor) := by
  have known : tokenMetadata config s.input.tokenIn = some market.profitToken := by
    have token : s.input.tokenIn = market.profitToken.address := trades.token
    rw [token]
    exact market.known
  have native : tokenAmountToNative config s.input.tokenIn
      ((s.prepared capitalCapToken).repaymentWei (s.candidateAt market capitalCapToken bps)) =
      some (((s.prepared capitalCapToken).repaymentWei (s.candidateAt market capitalCapToken bps) : ℚ) /
        10 ^ market.profitToken.decimals * market.profitToken.priceEth) := by
    simp only [tokenAmountToNative, known, Option.bind_eq_bind, Option.bind_some]
  have reaches : payloadShadowResearchMode config = false →
      market.minProfitWei ≤ (s.candidateAt market capitalCapToken bps).netProfitWei := by
    intro live
    simp only [candidateAt, V2SizingInput.pushed, netOf_eq]
    exact enough live
  have finished := finishV2_eq_ok.mpr ⟨_, _, _, native, market.minimum, reaches, market.configured, rfl⟩
  exact ⟨_, buildFeeExtractionV2_eq_ok.mpr ⟨_, _, _, s.prepareV2_ok trades.capped, loop, chosen, finished⟩⟩

/-- The largest fraction passes the filter of the selection. -/
theorem Trades.last_gains (trades : s.Trades market capitalCapToken) :
    (s.candidateAt market capitalCapToken (largestFraction config)).grossProfitWei ≠ 0 ∧
      (s.candidateAt market capitalCapToken (largestFraction config)).selfSlippageBps ≤ 2500 := by
  have sells := trades.sells _ (largestFraction_mem config) trades.last
  have profitable := sells.profitable
  have worth := market.le_worth (s.sale (sizeAt capitalCapToken (largestFraction config)) -
    s.repayment (sizeAt capitalCapToken (largestFraction config)))
  constructor
  · simp only [candidateAt, V2SizingInput.pushed]
    omega
  · have flat : (s.candidateAt market capitalCapToken (largestFraction config)).selfSlippageBps = 0 :=
      s.flat_impact sells
    omega

/-- When every size reaches the minimum, whichever is selected is built. -/
theorem Trades.build_some (trades : s.Trades market capitalCapToken)
    (enough : ∀ bps ∈ sizingFractions config, sizeAt capitalCapToken bps ≠ 0 →
      payloadShadowResearchMode config = false → market.minProfitWei ≤
      market.worth (s.sale (sizeAt capitalCapToken bps) - s.repayment (sizeAt capitalCapToken bps))) :
    ∃ bps ∈ sizingFractions config, sizeAt capitalCapToken bps ≠ 0 ∧
      ∃ repaymentNative, buildFeeExtractionV2 config s.input = .ok (payloadV2 config s.input
        (s.prepared capitalCapToken) (s.candidateAt market capitalCapToken bps) repaymentNative
        market.minProfitWei market.executor) := by
  obtain ⟨sizes, loop, members⟩ := trades.candidates
  obtain ⟨gains, flat⟩ := trades.last_gains
  obtain ⟨selected, chosen⟩ : ∃ selected, selectV2 config s.input
      (sizes ++ [s.candidateAt market capitalCapToken (largestFraction config)]) = .ok selected :=
    selectV2_exists (List.mem_append_right sizes List.mem_cons_self) trades.last gains flat
  obtain ⟨bps, tried, nonzero, rfl⟩ := members selected (selectV2_spec chosen).1
  exact ⟨bps, tried, nonzero, trades.build loop chosen (enough bps tried nonzero)⟩

/-- When all sizes are repaid alike, the largest one is selected and built. -/
theorem Trades.build_last (trades : s.Trades market capitalCapToken)
    (alike : ∀ bps ∈ sizingFractions config, s.repayment (sizeAt capitalCapToken bps) =
      s.repayment (sizeAt capitalCapToken (largestFraction config)))
    (enough : market.minProfitWei ≤ market.worth (s.sale (sizeAt capitalCapToken (largestFraction config)) -
      s.repayment (sizeAt capitalCapToken (largestFraction config)))) :
    ∃ repaymentNative, buildFeeExtractionV2 config s.input = .ok (payloadV2 config s.input
      (s.prepared capitalCapToken) (s.candidateAt market capitalCapToken (largestFraction config)) repaymentNative
      market.minProfitWei market.executor) := by
  obtain ⟨sizes, loop, members⟩ := trades.candidates
  obtain ⟨gains, flat⟩ := trades.last_gains
  have comparison : ∀ size ∈ sizes,
      size.grossProfitWei ≤ (s.candidateAt market capitalCapToken (largestFraction config)).grossProfitWei ∧
        sizingScore 0 0 size ≤ sizingScore 0 0 (s.candidateAt market capitalCapToken (largestFraction config)) := by
    intro size member
    obtain ⟨bps, tried, nonzero, rfl⟩ := members size (List.mem_append_left _ member)
    exact trades.score_le tried (largestFraction_mem config) nonzero trades.last (sizingFractions_le tried)
      (alike bps tried)
  have zeroScores : clamp 0 (3 / 2) 0 = 0 ∧ clamp 0 1 0 = 0 := by norm_num [clamp]
  have chosen : selectV2 config s.input (sizes ++ [s.candidateAt market capitalCapToken (largestFraction config)]) =
      .ok (s.candidateAt market capitalCapToken (largestFraction config)) := by
    refine selectV2_last trades.last gains flat (fun size member => (comparison size member).1) ?_
    intro size member
    simp only [input, zeroScores]
    exact (comparison size member).2
  exact trades.build loop chosen fun _ => enough

/-- The payload books the repayment of the size that it takes. -/
theorem Trades.booked (trades : s.Trades market capitalCapToken) {bps : Nat} (tried : bps ∈ sizingFractions config)
    (nonzero : sizeAt capitalCapToken bps ≠ 0) :
    (s.prepared capitalCapToken).repaymentWei (s.candidateAt market capitalCapToken bps) =
      s.repayment (sizeAt capitalCapToken bps) := by
  have repaid := s.repaid (trades.sells bps tried nonzero)
  change (v2RepaymentAmountInProfitToken (10000 * s.depth) (10001 * s.lot) (sizeAt capitalCapToken bps)).getD 0 = _
  rw [repaid, Option.getD_some]

end Scenario

end ArbitrageRuntime
