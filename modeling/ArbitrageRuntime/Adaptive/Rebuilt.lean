import ArbitrageRuntime.Adaptive.Retuning
import Mathlib.Algebra.Order.BigOperators.Group.List
import Mathlib.Data.List.TakeWhile
import Mathlib.Tactic.Positivity

namespace ArbitrageRuntime.Adaptive

/-- What the answers rely on of the two real functions. -/
structure Curves.Lawful (curves : Curves) : Prop where
  exp_nonneg : ∀ x, 0 ≤ curves.exp x
  ln1p_zero : curves.ln1p 0 = 0
  ln1p_le : ∀ x, 0 ≤ x → curves.ln1p x ≤ x
  ln1p_lt : ∀ x y, 0 ≤ x → x < y → curves.ln1p x < curves.ln1p y

theorem clamp_mem {low high : ℚ} (ordered : low ≤ high) (value : ℚ) :
    low ≤ clamp low high value ∧ clamp low high value ≤ high :=
  ⟨le_max_left _ _, max_le ordered (min_le_right _ _)⟩

theorem clamp_of_mem {low high value : ℚ} (above : low ≤ value) (below : value ≤ high) : clamp low high value = value := by
  unfold clamp
  rw [min_eq_left below, max_eq_right above]

theorem excess_nonneg (current target : ℚ) : 0 ≤ excess current target :=
  div_nonneg (clamp_mem (by norm_num) _).1 (by norm_num)

theorem Curves.Lawful.logistic_mem {curves : Curves} (lawful : curves.Lawful) (x : ℚ) :
    0 ≤ curves.logistic x ∧ curves.logistic x ≤ 1 := by
  have base := lawful.exp_nonneg (-x)
  unfold Curves.logistic
  exact ⟨by positivity, by rw [div_le_one (by positivity)]; linarith⟩

/-- The threshold grows in proportion to its base. -/
def thresholdScale (mempoolDensity failurePressure gasPressure latencyPenalty poorRealization clusterHeat
    builderPressure : ℚ) (regime : MarketRegime) : ℚ :=
  (match regime with
    | .calm => 0.92
    | .normal => 1.08
    | .hot => 1.42
    | .toxic => 1.95) *
  (1 + mempoolDensity * 0.28 + failurePressure * 0.52 + gasPressure * 0.22 + latencyPenalty * 0.24 +
    poorRealization * 0.30 + clusterHeat * 0.24 + builderPressure * 0.38)

theorem thresholdScale_pos {a b c d e f g : ℚ} (ha : 0 ≤ a) (hb : 0 ≤ b) (hc : 0 ≤ c) (hd : 0 ≤ d) (he : 0 ≤ e)
    (hf : 0 ≤ f) (hg : 0 ≤ g) (regime : MarketRegime) : 0 < thresholdScale a b c d e f g regime := by
  unfold thresholdScale
  cases regime <;> positivity

namespace AdaptivePolicy

variable {curves : Curves} {policy : AdaptivePolicy}

theorem dynamicThreshold_eq (a b c d e f g : ℚ) (regime : MarketRegime) :
    policy.dynamicThreshold a b c d e f g regime = policy.baseThresholdUsd * thresholdScale a b c d e f g regime := by
  unfold dynamicThreshold thresholdScale
  exact mul_assoc _ _ _

theorem gasPressure_nonneg (currentGwei : ℚ) : 0 ≤ policy.gasPressure currentGwei := by
  unfold gasPressure
  split
  · exact le_rfl
  · exact excess_nonneg _ _

end AdaptivePolicy

/-- A quote about nothing but its price impact. -/
def plainInput (priceImpactBps : Nat) : AdaptiveQuoteInput where
  cluster := ⟨0, 0, 0, ⟨0, 0, 0, 0⟩⟩
  pair := 0
  hourUtc := 0
  contextPriorityScore := 1
  contextToxicityScore := 0
  expectedProfitWei := 0
  executionCostWei := 0
  gasPriceWei := 0
  lookupLatencyMs := 0
  notionalEth := 0
  priceImpactBps := priceImpactBps
  relayPressureOverride := some 0

/-- A look at a candidate of so many ether over one pool. -/
def plainPreflight (notionalEth : ℚ) : PreflightInput := ⟨⟨0, 0, 0, ⟨0, 0, 0, 0⟩⟩, notionalEth, 0, 2⟩

/-- Statistics without a history and without flows. -/
structure Quiet (statistics : PolicyStatistics) : Prop where
  flows : statistics.recentFlows = []
  profiles : ∀ key, statistics.historicalProfiles key = none

theorem clamp_zero_one : clamp 0 1 0 = 0 := clamp_of_mem le_rfl (by norm_num)

theorem recalibratedRegime_zero (regime : MarketRegime) : recalibratedRegime regime 0 = regime := rfl

/-- The part of a policy that a quote reads beside the limits. -/
def PolicyStatistics.bare (statistics : PolicyStatistics) : AdaptivePolicy := ⟨⟨0, 0, 0, 0, 0, 0, 0, 0, 0⟩, statistics⟩

def PolicyStatistics.plainRegime (statistics : PolicyStatistics) : MarketRegime :=
  marketRegime 0 0 (statistics.bare.gasPressure 0) (statistics.bare.latencyPenalty 0) statistics.bare.failurePressure
    statistics.bare.poorRealization 0

namespace Quiet

variable {limits : PolicyLimits} {statistics : PolicyStatistics} (quiet : Quiet statistics) (curves : Curves)
  (now : Instant)

include quiet

theorem thresholdDynamicUsd_eq (bps : Nat) :
    ((AdaptivePolicy.mk limits statistics).adaptiveQuote curves now (plainInput bps)).thresholdDynamicUsd =
      limits.baseThresholdUsd * (thresholdScale 0 statistics.bare.failurePressure (statistics.bare.gasPressure 0)
        (statistics.bare.latencyPenalty 0) statistics.bare.poorRealization 0 0 statistics.plainRegime *
          limits.chainThresholdMult * 0.92) := by
  have one : clamp 0 1 (clamp 0 1.5 1) = 1 := by norm_num [clamp]
  have floor : max (1 : ℚ) (1 / 10 ^ 9) = 1 := by norm_num
  simp only [AdaptivePolicy.adaptiveQuote, plainInput, quiet.profiles, quiet.flows, AdaptivePolicy.dynamicThreshold_eq,
    AdaptivePolicy.mempoolDensity, AdaptivePolicy.clusterHeat, List.isEmpty_nil, List.length_nil, Nat.cast_zero,
    zero_div, if_true, clamp_zero_one, weiToGwei, Option.map_none, Option.getD_none, Option.getD_some, zero_mul,
    zero_add, HistoricalCalibration.default, recalibratedRegime_zero, one, floor]
  show limits.baseThresholdUsd * thresholdScale 0 statistics.bare.failurePressure (statistics.bare.gasPressure 0)
    (statistics.bare.latencyPenalty 0) statistics.bare.poorRealization 0 0 statistics.plainRegime *
      limits.chainThresholdMult * (1 + 0) * (1 - 1 * 0.08) * 1 = _
  norm_num [mul_assoc]

theorem competitionScore_eq (bps : Nat) :
    ((AdaptivePolicy.mk limits statistics).adaptiveQuote curves now (plainInput bps)).competitionScore =
      clamp 0 1 (curves.competitionScore 0 0 (statistics.bare.gasPressure 0) (curves.sizePressure 0)
        (clamp 0 1 (bps / limits.maxPriceImpactBps)) 0 statistics.plainRegime * limits.chainCompetitionMult) := by
  have one : clamp 0 1 (clamp 0 1.5 1) = 1 := by norm_num [clamp]
  have floor : max (1 : ℚ) (1 / 10 ^ 9) = 1 := by norm_num
  simp only [AdaptivePolicy.adaptiveQuote, plainInput, quiet.profiles, quiet.flows,
    AdaptivePolicy.mempoolDensity, AdaptivePolicy.clusterHeat, List.isEmpty_nil, List.length_nil, Nat.cast_zero,
    zero_div, if_true, clamp_zero_one, weiToGwei, Option.map_none, Option.getD_none, Option.getD_some, zero_mul,
    zero_add, HistoricalCalibration.default, recalibratedRegime_zero, one, floor]
  norm_num
  rfl

end Quiet

theorem gasPressure_zero (policy : AdaptivePolicy) : policy.gasPressure 0 = 0 := by
  unfold AdaptivePolicy.gasPressure excess
  split
  · rfl
  · norm_num [clamp]

/-- What the logistic curves add to a competition score without flows and builder pressure. -/
def Curves.quietJump (curves : Curves) : ℚ :=
  curves.logistic ((0 - 0.52) * 9.0) * 0.18 + curves.logistic ((0 - 0.62) * 8.0) * 0.10 +
    curves.logistic ((0 - 0.58) * 8.5) * 0.08 + curves.logistic ((0 - 0.45) * 10.0) * 0.16

theorem Curves.Lawful.quietJump_mem {curves : Curves} (lawful : curves.Lawful) :
    0 ≤ curves.quietJump ∧ curves.quietJump ≤ 0.52 := by
  obtain ⟨low1, high1⟩ := lawful.logistic_mem ((0 - 0.52) * 9.0)
  obtain ⟨low2, high2⟩ := lawful.logistic_mem ((0 - 0.62) * 8.0)
  obtain ⟨low3, high3⟩ := lawful.logistic_mem ((0 - 0.58) * 8.5)
  obtain ⟨low4, high4⟩ := lawful.logistic_mem ((0 - 0.45) * 10.0)
  unfold Curves.quietJump
  constructor
  · linarith only [low1, low2, low3, low4]
  · linarith only [high1, high2, high3, high4]

def competitionBump : MarketRegime → ℚ
  | .calm => 0.0
  | .normal => 0.03
  | .hot => 0.10
  | .toxic => 0.18

theorem competitionBump_mem (regime : MarketRegime) : 0 ≤ competitionBump regime ∧ competitionBump regime ≤ 0.18 := by
  cases regime <;> norm_num [competitionBump]

/-- Without flows and builder pressure the competition score never saturates. -/
theorem Curves.Lawful.competitionScore_quiet {curves : Curves} (lawful : curves.Lawful) {size impact : ℚ}
    (regime : MarketRegime) (sizeMem : 0 ≤ size ∧ size ≤ 1) (mem : 0 ≤ impact ∧ impact ≤ 1) :
    curves.competitionScore 0 0 0 size impact 0 regime =
      size * 0.12 + impact * 0.10 + curves.quietJump + competitionBump regime := by
  obtain ⟨jumpLow, jumpHigh⟩ := lawful.quietJump_mem
  obtain ⟨bumpLow, bumpHigh⟩ := competitionBump_mem regime
  obtain ⟨sizeLow, sizeHigh⟩ := sizeMem
  obtain ⟨impactLow, impactHigh⟩ := mem
  have base : clamp 0 1 (0 * 0.38 + 0 * 0.15 + 0 * 0.15 + size * 0.12 + impact * 0.10 + 0 * 0.10) =
      size * 0.12 + impact * 0.10 := by
    rw [clamp_of_mem]
    · ring
    · linarith only [sizeLow, impactLow]
    · linarith only [sizeHigh, impactHigh]
  show clamp 0 1 (clamp 0 1 (0 * 0.38 + 0 * 0.15 + 0 * 0.15 + size * 0.12 + impact * 0.10 + 0 * 0.10) +
    curves.quietJump + competitionBump regime) = _
  rw [base]
  apply clamp_of_mem
  · linarith only [sizeLow, impactLow, jumpLow, bumpLow]
  · linarith only [sizeHigh, impactHigh, jumpHigh, bumpHigh]

/-- It tells price impacts apart. -/
theorem Curves.Lawful.impact_of_competition {curves : Curves} (lawful : curves.Lawful) {size impact impact' mult : ℚ}
    {regime : MarketRegime} (sizeMem : 0 ≤ size ∧ size ≤ 1) (mem : 0 ≤ impact ∧ impact ≤ 1)
    (mem' : 0 ≤ impact' ∧ impact' ≤ 1) (positive : 0 < mult) (small : mult ≤ 1.05)
    (same : clamp 0 1 (curves.competitionScore 0 0 0 size impact 0 regime * mult) =
      clamp 0 1 (curves.competitionScore 0 0 0 size impact' 0 regime * mult)) : impact = impact' := by
  obtain ⟨jumpLow, jumpHigh⟩ := lawful.quietJump_mem
  obtain ⟨bumpLow, bumpHigh⟩ := competitionBump_mem regime
  have value : ∀ i : ℚ, 0 ≤ i ∧ i ≤ 1 → clamp 0 1 (curves.competitionScore 0 0 0 size i 0 regime * mult) =
      (size * 0.12 + i * 0.10 + curves.quietJump + competitionBump regime) * mult := by
    rintro i ⟨low, high⟩
    rw [lawful.competitionScore_quiet regime sizeMem ⟨low, high⟩]
    have nonneg : 0 ≤ size * 0.12 + i * 0.10 + curves.quietJump + competitionBump regime := by
      linarith only [sizeMem.1, low, jumpLow, bumpLow]
    have below : size * 0.12 + i * 0.10 + curves.quietJump + competitionBump regime ≤ 0.92 := by
      linarith only [sizeMem.2, high, jumpHigh, bumpHigh]
    apply clamp_of_mem (mul_nonneg nonneg positive.le)
    calc (size * 0.12 + i * 0.10 + curves.quietJump + competitionBump regime) * mult ≤ 0.92 * 1.05 :=
          mul_le_mul below small positive.le (by norm_num)
      _ ≤ 1 := by norm_num
  rw [value impact mem, value impact' mem'] at same
  have cancelled := mul_right_cancel₀ positive.ne' same
  linarith only [cancelled]

theorem chainPreset_bounds (network : String) :
    (0 < (chainAdaptivePreset network).competitionMult ∧ (chainAdaptivePreset network).competitionMult ≤ 1.05) ∧
      0 < (chainAdaptivePreset network).thresholdMult := by
  unfold chainAdaptivePreset
  split
  · norm_num
  · split <;> norm_num

namespace AdaptivePolicy

theorem Agrees.quote {left right : AdaptivePolicy} (agrees : Agrees curves left right) (now : Instant)
    (input : AdaptiveQuoteInput) :
    ((left.applyHistoricalProfiles []).prune now).adaptiveQuote curves now input =
      ((right.applyHistoricalProfiles []).prune now).adaptiveQuote curves now input := by
  have both := agrees [.applyHistoricalProfiles [], .quote now input]
  simp only [answers, perform, List.cons.injEq, PolicyAnswer.quoted.injEq] at both
  exact both.2.1

theorem Agrees.preflight {left right : AdaptivePolicy} (agrees : Agrees curves left right) (now : Instant)
    (input : PreflightInput) :
    (left.prune now).preflightQuote curves now input = (right.prune now).preflightQuote curves now input := by
  have both := agrees [.preflightScore now input]
  simp only [answers, perform, List.cons.injEq, PolicyAnswer.preflight.injEq] at both
  exact both.1

theorem Agrees.symm {left right : AdaptivePolicy} (agrees : Agrees curves left right) : Agrees curves right left :=
  fun calls => (agrees calls).symm

/-- The smaller limit lets a candidate of its own size in, the greater one does not. -/
theorem Agrees.minLargeSwapEth_le {left right : AdaptivePolicy} (agrees : Agrees curves left right) :
    right.minLargeSwapEth ≤ left.minLargeSwapEth := by
  by_contra above
  have less : left.minLargeSwapEth < right.minLargeSwapEth := not_le.mp above
  have reasons := congrArg PreflightQuote.rejectReason (agrees.preflight 0 (plainPreflight left.minLargeSwapEth))
  have refused : ((right.prune 0).preflightQuote curves 0 (plainPreflight left.minLargeSwapEth)).rejectReason =
      some "notional_below_min" := by
    have small : ¬ (right.prune 0).minLargeSwapEth ≤ (plainPreflight left.minLargeSwapEth).notionalEth := above
    simp only [preflightQuote, small, false_and, decide_false, Bool.false_eq_true, if_false]
    exact if_pos less
  have passed : ((left.prune 0).preflightQuote curves 0 (plainPreflight left.minLargeSwapEth)).rejectReason ≠
      some "notional_below_min" := by
    have large : ¬ (plainPreflight left.minLargeSwapEth).notionalEth < (left.prune 0).minLargeSwapEth := lt_irrefl _
    simp only [preflightQuote, if_neg large]
    repeat' split
    all_goals simp
  exact passed (reasons.trans refused)

/-- A candidate below the profit limit is below the range in which the hint saturates. -/
theorem impactHint_eq (lawful : curves.Lawful) {policy : AdaptivePolicy} {notionalEth : ℚ} (nonneg : 0 ≤ notionalEth)
    (positive : 1 / 10 ^ 9 ≤ policy.minProfitEth) (below : notionalEth ≤ policy.minProfitEth) :
    policy.impactHint curves notionalEth 2 =
      clamp 0 1 (curves.ln1p (notionalEth / max policy.minLargeSwapEth (1 / 10 ^ 9)) / 3.6) * 0.58 +
        curves.ln1p (notionalEth / policy.minProfitEth) / 14 * 0.42 := by
  have floor : (0 : ℚ) < 1 / 10 ^ 9 := by norm_num
  have ratio : 0 ≤ notionalEth / policy.minProfitEth := div_nonneg nonneg (floor.le.trans positive)
  have ratioOne : notionalEth / policy.minProfitEth ≤ 1 := (div_le_one (floor.trans_le positive)).mpr below
  have high := (lawful.ln1p_le _ ratio).trans ratioOne
  have low : 0 ≤ curves.ln1p (notionalEth / policy.minProfitEth) := by
    rcases ratio.eq_or_lt with zero | above
    · rw [← zero, lawful.ln1p_zero]
    · have less := lawful.ln1p_lt 0 _ le_rfl above
      rw [lawful.ln1p_zero] at less
      exact less.le
  have size := clamp_mem (by norm_num : (0 : ℚ) ≤ 1)
    (curves.ln1p (notionalEth / max policy.minLargeSwapEth (1 / 10 ^ 9)) / 3.6)
  have straight : pathPenalty 2 = 0 := by norm_num [pathPenalty]
  unfold impactHint
  dsimp only
  rw [max_eq_left nonneg, max_eq_left positive, straight]
  have profit : clamp 0 1 (curves.ln1p (notionalEth / policy.minProfitEth) / 14.0) =
      curves.ln1p (notionalEth / policy.minProfitEth) / 14 := by
    rw [clamp_of_mem] <;> norm_num <;> linarith
  rw [profit, zero_mul, sub_zero]
  exact clamp_of_mem (by norm_num at *; linarith) (by norm_num at *; linarith)

theorem Agrees.minProfitEth_le (lawful : curves.Lawful) {left right : AdaptivePolicy} (agrees : Agrees curves left right)
    (sameSize : left.minLargeSwapEth = right.minLargeSwapEth) (positive : 1 / 10 ^ 9 ≤ left.minProfitEth) :
    right.minProfitEth ≤ left.minProfitEth := by
  by_contra above
  have less : left.minProfitEth < right.minProfitEth := not_le.mp above
  have floor : (0 : ℚ) < 1 / 10 ^ 9 := by norm_num
  have leftPos := floor.trans_le positive
  have hints := congrArg PreflightQuote.impactHint (agrees.preflight 0 (plainPreflight left.minProfitEth))
  have same : left.impactHint curves left.minProfitEth 2 = right.impactHint curves left.minProfitEth 2 := hints
  rw [impactHint_eq lawful leftPos.le positive le_rfl, impactHint_eq lawful leftPos.le (positive.trans less.le) less.le,
    sameSize, div_self leftPos.ne'] at same
  have smaller : left.minProfitEth / right.minProfitEth < 1 := (div_lt_one (leftPos.trans less)).mpr less
  have curve := lawful.ln1p_lt _ 1 (div_nonneg leftPos.le (leftPos.trans less).le) smaller
  linarith

end AdaptivePolicy

/-- The policy without history, at a time when all of its flows are gone. -/
theorem exists_quiet (policy : AdaptivePolicy) :
    ∃ now, Quiet ((policy.applyHistoricalProfiles []).prune now).toPolicyStatistics := by
  refine ⟨flowHorizon + 1 + (policy.recentFlows.map FlowObservation.observedAt).sum, ?_, fun key => rfl⟩
  refine List.dropWhile_eq_nil_iff.mpr fun flow inside => ?_
  have member : flow.observedAt ∈ policy.recentFlows.map FlowObservation.observedAt := List.mem_map_of_mem inside
  have bound : @LE.le Nat _ flow.observedAt (policy.recentFlows.map FlowObservation.observedAt).sum :=
    List.le_sum_of_mem member
  have past : flowHorizon < flowHorizon + 1 + (policy.recentFlows.map FlowObservation.observedAt).sum -
      flow.observedAt := by omega
  exact decide_eq_true past

/-- Policies that have learned the same and answer alike have the same base threshold and impact cap. -/
theorem AdaptivePolicy.Agrees.base_and_impact (lawful : curves.Lawful) {limits limits' : PolicyLimits}
    {statistics : PolicyStatistics} (agrees : Agrees curves ⟨limits, statistics⟩ ⟨limits', statistics⟩)
    (threshold : limits'.chainThresholdMult = limits.chainThresholdMult) (thresholdPos : 0 < limits.chainThresholdMult)
    (competition : limits'.chainCompetitionMult = limits.chainCompetitionMult)
    (competitionPos : 0 < limits.chainCompetitionMult) (competitionSmall : limits.chainCompetitionMult ≤ 1.05)
    (cap : 1 ≤ limits.maxPriceImpactBps) (cap' : 1 ≤ limits'.maxPriceImpactBps) :
    limits'.baseThresholdUsd = limits.baseThresholdUsd ∧ limits'.maxPriceImpactBps = limits.maxPriceImpactBps := by
  obtain ⟨now, quiet⟩ := exists_quiet ⟨limits, statistics⟩
  have same := agrees.quote now (plainInput 1)
  generalize kept : ((AdaptivePolicy.mk limits statistics).applyHistoricalProfiles []).prune now = left at same quiet
  have leftIs : left = ⟨limits, left.toPolicyStatistics⟩ := by rw [← kept]; rfl
  have rightIs : ((AdaptivePolicy.mk limits' statistics).applyHistoricalProfiles []).prune now =
      ⟨limits', left.toPolicyStatistics⟩ := by rw [← kept]; rfl
  rw [rightIs, leftIs] at same
  have thresholds := congrArg AdaptiveQuote.thresholdDynamicUsd same
  have competitions := congrArg AdaptiveQuote.competitionScore same
  rw [quiet.thresholdDynamicUsd_eq, quiet.thresholdDynamicUsd_eq, threshold] at thresholds
  rw [quiet.competitionScore_eq, quiet.competitionScore_eq, competition, gasPressure_zero] at competitions
  have scale : 0 < thresholdScale 0 left.toPolicyStatistics.bare.failurePressure
      (left.toPolicyStatistics.bare.gasPressure 0) (left.toPolicyStatistics.bare.latencyPenalty 0)
      left.toPolicyStatistics.bare.poorRealization 0 0 left.toPolicyStatistics.plainRegime :=
    thresholdScale_pos le_rfl (clamp_mem (by norm_num) _).1 (gasPressure_nonneg 0) (clamp_mem (by norm_num) _).1
      (clamp_mem (by norm_num) _).1 le_rfl le_rfl _
  have factor := mul_pos (mul_pos scale thresholdPos) (by norm_num : (0 : ℚ) < 0.92)
  have impacts := lawful.impact_of_competition (clamp_mem (by norm_num) _) (clamp_mem (by norm_num) _)
    (clamp_mem (by norm_num) _) competitionPos competitionSmall competitions
  have inside (bps : Nat) (one : 1 ≤ bps) : clamp 0 1 (((1 : Nat) : ℚ) / bps) = 1 / bps := by
    have oneCast : (1 : ℚ) ≤ bps := by exact_mod_cast one
    rw [Nat.cast_one]
    exact clamp_of_mem (by positivity) ((div_le_one (by linarith)).mpr oneCast)
  rw [inside _ cap, inside _ cap'] at impacts
  refine ⟨(mul_right_cancel₀ factor.ne' thresholds).symm, ?_⟩
  have inverses : ((limits.maxPriceImpactBps : ℚ))⁻¹ = ((limits'.maxPriceImpactBps : ℚ))⁻¹ := by
    simpa only [one_div] using impacts
  exact_mod_cast (inv_injective inverses).symm

/-- After any retuning, the policy answers like one that is built from the changed configuration and has learned
the same exactly when `new` would take over the same limits from it: the policy itself keeps those it was built
with. -/
theorem agrees_rebuilt_iff (lawful : curves.Lawful) (config : PricedConfig) (events : List PolicyEvent) :
    let tuned := (Tuned.start config).run curves events
    AdaptivePolicy.Agrees curves tuned.policy (tuned.policy.rebuilt tuned.config) ↔
      PolicyLimits.ofConfig tuned.config = PolicyLimits.ofConfig config := by
  intro tuned
  have limits : tuned.policy.toPolicyLimits = PolicyLimits.ofConfig config := Tuned.run_limits curves _ events
  have chain : SameChain config tuned.config := Tuned.run_sameChain curves (.start config) events
  have policyIs : tuned.policy = ⟨PolicyLimits.ofConfig config, tuned.policy.toPolicyStatistics⟩ := by rw [← limits]
  have rebuiltIs : tuned.policy.rebuilt tuned.config =
      ⟨PolicyLimits.ofConfig tuned.config, tuned.policy.toPolicyStatistics⟩ := rfl
  constructor
  · intro agrees
    rw [rebuiltIs, policyIs] at agrees
    obtain ⟨⟨competitionPos, competitionSmall⟩, thresholdPos⟩ := chainPreset_bounds config.network
    have floor (other : PricedConfig) : 1 / 10 ^ 9 ≤ (PolicyLimits.ofConfig other).minProfitEth :=
      le_trans (by norm_num) (le_max_right _ _)
    have size : (PolicyLimits.ofConfig tuned.config).minLargeSwapEth = (PolicyLimits.ofConfig config).minLargeSwapEth :=
      le_antisymm agrees.minLargeSwapEth_le agrees.symm.minLargeSwapEth_le
    have profit : (PolicyLimits.ofConfig tuned.config).minProfitEth = (PolicyLimits.ofConfig config).minProfitEth :=
      le_antisymm (agrees.minProfitEth_le lawful size.symm (floor config))
        (agrees.symm.minProfitEth_le lawful size (floor tuned.config))
    obtain ⟨base, cap⟩ := agrees.base_and_impact lawful
      (by simp only [PolicyLimits.ofConfig, chain.network]) thresholdPos
      (by simp only [PolicyLimits.ofConfig, chain.network]) competitionPos competitionSmall
      (le_max_right _ _) (le_max_right _ _)
    have rest : (PolicyLimits.ofConfig tuned.config) = { PolicyLimits.ofConfig config with
        baseThresholdUsd := (PolicyLimits.ofConfig tuned.config).baseThresholdUsd
        maxPriceImpactBps := (PolicyLimits.ofConfig tuned.config).maxPriceImpactBps
        minLargeSwapEth := (PolicyLimits.ofConfig tuned.config).minLargeSwapEth
        minProfitEth := (PolicyLimits.ofConfig tuned.config).minProfitEth } := by
      simp only [PolicyLimits.ofConfig, chain.network, chain.price, chain.execGas, chain.bundleGas]
    rw [rest, base, cap, size, profit]
  · intro same calls
    rw [rebuiltIs, same, ← policyIs]

/-- Rational functions that are close to the real ones around zero. -/
def sampleCurves : Curves where
  exp x := if 0 ≤ x then 1 + x + x ^ 2 / 2 else 1 / (1 - x + x ^ 2 / 2)
  ln1p x := 2 * x / (2 + x)

theorem sampleCurves_lawful : sampleCurves.Lawful where
  exp_nonneg x := by
    show 0 ≤ if 0 ≤ x then 1 + x + x ^ 2 / 2 else 1 / (1 - x + x ^ 2 / 2)
    split
    · positivity
    · rename_i negative
      have below := not_le.mp negative
      have whole : 0 < 1 - x + x ^ 2 / 2 := by nlinarith [sq_nonneg x]
      positivity
  ln1p_zero := by norm_num [sampleCurves]
  ln1p_le x nonneg := by
    show 2 * x / (2 + x) ≤ x
    rw [div_le_iff₀ (by linarith)]
    nlinarith
  ln1p_lt x y nonneg less := by
    show 2 * x / (2 + x) < 2 * y / (2 + y)
    rw [div_lt_div_iff₀ (by linarith) (by linarith)]
    nlinarith

/-- A conservative engine on Polygon's preset, with ether at 3000 dollars. -/
def samplePriced : PricedConfig where
  toConfig := { testConfig with mev := { testConfig.mev with
    opportunityModeLock := some .conservative
    runtimeThresholdsLock := some ⟨25, 1 / 400, 2, 25⟩ } }
  ethUsdPrice := 3000

/-- The liquidity limit is none of those that the policy takes over. -/
theorem liquidity_reaches_policy :
    let tuned := (Tuned.start samplePriced).run sampleCurves [.retune (.opportunityThresholds ⟨none, none, none, some 30⟩)]
    AdaptivePolicy.Agrees sampleCurves tuned.policy (tuned.policy.rebuilt tuned.config) :=
  (agrees_rebuilt_iff sampleCurves_lawful samplePriced _).mpr (by decide +kernel)

/-- In scavenger mode half an ether is enough for the other gates, but the policy goes on refusing ten. -/
theorem mode_switch_misses_policy :
    let tuned := (Tuned.start samplePriced).run sampleCurves [.retune (.opportunityMode .scavenger)]
    (tuned.policy.preflightScore sampleCurves 0 (plainPreflight 10)).2.shouldContinue = false ∧
    (tuned.policy.preflightScore sampleCurves 0 (plainPreflight 10)).2.rejectReason = some "notional_below_min" ∧
    ((tuned.policy.rebuilt tuned.config).preflightScore sampleCurves 0 (plainPreflight 10)).2.shouldContinue = true := by
  decide +kernel

end ArbitrageRuntime.Adaptive
