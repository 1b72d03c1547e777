import ArbitrageRuntime.Adaptive.Rebuilt
import ArbitrageRuntime.Replay.Report

namespace ArbitrageRuntime

namespace Adaptive

namespace AdaptiveQuote

/-- The limits of the regime on everything but the expected value. -/
def WithinLimits (quote : AdaptiveQuote) : Prop :=
  minProbabilityThreshold quote.regime ≤ quote.pPositive ∧
    quote.competitionScore ≤ maxCompetitionThreshold quote.regime ∧ quote.riskScore ≤ maxRiskThreshold quote.regime

instance (quote : AdaptiveQuote) : Decidable quote.WithinLimits := inferInstanceAs (Decidable (_ ∧ _ ∧ _))

/-- The decision and its reason are those of the figures that the quote names. -/
structure Consistent (quote : AdaptiveQuote) : Prop where
  executes : quote.shouldExecute = true ↔ quote.thresholdDynamicUsd < quote.evRealUsd ∧ quote.WithinLimits
  belowThreshold : quote.rejectReason = some "ev_real_below_threshold" ↔ quote.evRealUsd ≤ quote.thresholdDynamicUsd

end AdaptiveQuote

namespace AdaptivePolicy

variable (policy : AdaptivePolicy) (curves : Curves) (now : Instant) (input : AdaptiveQuoteInput)

theorem adaptiveQuote_executes : (policy.adaptiveQuote curves now input).shouldExecute = true ↔
    (policy.adaptiveQuote curves now input).thresholdDynamicUsd < (policy.adaptiveQuote curves now input).evRealUsd ∧
      (policy.adaptiveQuote curves now input).WithinLimits := decide_eq_true_iff

theorem adaptiveQuote_belowThreshold :
    (policy.adaptiveQuote curves now input).rejectReason = some "ev_real_below_threshold" ↔
      (policy.adaptiveQuote curves now input).evRealUsd ≤
        (policy.adaptiveQuote curves now input).thresholdDynamicUsd := by
  have executes := policy.adaptiveQuote_executes curves now input
  have reason : (policy.adaptiveQuote curves now input).rejectReason =
      if (policy.adaptiveQuote curves now input).shouldExecute = true then none
      else if (policy.adaptiveQuote curves now input).evRealUsd ≤
        (policy.adaptiveQuote curves now input).thresholdDynamicUsd then some "ev_real_below_threshold"
      else if (policy.adaptiveQuote curves now input).pPositive <
        minProbabilityThreshold (policy.adaptiveQuote curves now input).regime then some "probability_too_low"
      else if maxCompetitionThreshold (policy.adaptiveQuote curves now input).regime <
        (policy.adaptiveQuote curves now input).competitionScore then some "competition_too_high"
      else if maxRiskThreshold (policy.adaptiveQuote curves now input).regime <
        (policy.adaptiveQuote curves now input).riskScore then some "risk_too_high"
      else if 0.76 < (policy.adaptiveQuote curves now input).builderPressure then some "builder_pressure_too_high"
      else some "adaptive_reject" := rfl
  rw [reason]
  split
  · rename_i execute
    have above := (executes.mp execute).1
    exact iff_of_false (by simp) (not_le.mpr above)
  · split
    · rename_i below
      exact iff_of_true rfl below
    · rename_i above
      refine iff_of_false ?_ above
      split
      · decide
      · split
        · decide
        · split
          · decide
          · split <;> decide

theorem quote_consistent : (policy.quote curves now input).2.Consistent where
  executes := (policy.prune now).adaptiveQuote_executes curves now input
  belowThreshold := (policy.prune now).adaptiveQuote_belowThreshold curves now input

end AdaptivePolicy

end Adaptive

namespace Replay

open Adaptive

/-- The expected value that a tuned quote has to pass. -/
def tunedThreshold (quote : AdaptiveQuote) (tuning : ReplayTuning) : ℚ :=
  quote.thresholdDynamicUsd * max tuning.thresholdMultiplier 0.01

/-- A reason that names the threshold says nothing about the limits behind it. -/
theorem shouldExecuteWithTuning_iff {quote : AdaptiveQuote} (consistent : quote.Consistent) (tuning : ReplayTuning) :
    shouldExecuteWithTuning quote tuning = true ↔ tunedThreshold quote tuning < quote.evRealUsd ∧
      (quote.thresholdDynamicUsd < quote.evRealUsd → quote.WithinLimits) := by
  unfold shouldExecuteWithTuning
  dsimp only
  change _ ↔ quote.thresholdDynamicUsd * max tuning.thresholdMultiplier 0.01 < quote.evRealUsd ∧ _
  split
  · rename_i execute
    have within := (consistent.executes.mp execute).2
    rw [decide_eq_true_iff]
    exact ⟨fun above => ⟨above, fun _ => within⟩, And.left⟩
  · rename_i refused
    rw [Bool.and_eq_true, decide_eq_true_iff, decide_eq_true_iff, consistent.belowThreshold]
    constructor
    · rintro ⟨below, above⟩
      exact ⟨above, fun passes => absurd passes (not_lt.mpr below)⟩
    · rintro ⟨above, limits⟩
      refine ⟨not_lt.mp fun passes => refused ?_, above⟩
      exact consistent.executes.mpr ⟨passes, limits passes⟩

theorem tunedThreshold_of_one (quote : AdaptiveQuote) {tuning : ReplayTuning} (one : tuning.thresholdMultiplier = 1) :
    tunedThreshold quote tuning = quote.thresholdDynamicUsd := by
  unfold tunedThreshold
  rw [one, max_eq_left (by norm_num), mul_one]

/-- Without a multiplier the decision stays what it was. -/
theorem shouldExecuteWithTuning_of_one {quote : AdaptiveQuote} (consistent : quote.Consistent) {tuning : ReplayTuning}
    (one : tuning.thresholdMultiplier = 1) : shouldExecuteWithTuning quote tuning = quote.shouldExecute := by
  rw [Bool.eq_iff_iff, shouldExecuteWithTuning_iff consistent, consistent.executes, tunedThreshold_of_one quote one]
  exact and_congr_right fun above => ⟨fun limits => limits above, fun within _ => within⟩

/-- Tuning lets a quote past its limits exactly where it opens a window below the threshold and the expected value
lies in it. -/
theorem tuned_within_iff {quote : AdaptiveQuote} (consistent : quote.Consistent) (tuning : ReplayTuning) :
    (shouldExecuteWithTuning quote tuning = true → quote.WithinLimits) ↔
      quote.evRealUsd ≤ tunedThreshold quote tuning ∨ quote.thresholdDynamicUsd < quote.evRealUsd ∨
        quote.WithinLimits := by
  rw [shouldExecuteWithTuning_iff consistent]
  constructor
  · intro keeps
    by_cases above : tunedThreshold quote tuning < quote.evRealUsd
    · by_cases passes : quote.thresholdDynamicUsd < quote.evRealUsd
      · exact Or.inr (Or.inl passes)
      · exact Or.inr (Or.inr (keeps ⟨above, fun late => absurd late passes⟩))
    · exact Or.inl (not_lt.mp above)
  · rintro (below | passes | within) ⟨above, limits⟩
    · exact absurd above (not_lt.mpr below)
    · exact limits passes
    · exact within

/-- The reason for a refusal names the first condition that fails, so where the expected value falls short the
others are never looked at again. -/
theorem tuning_relaxes_threshold_only_iff (policy : AdaptivePolicy) (curves : Curves) (now : Instant)
    (input : AdaptiveQuoteInput) (tuning : ReplayTuning) :
    let quote := (policy.quote curves now input).2
    ((shouldExecuteWithTuning quote tuning = true → minProbabilityThreshold quote.regime ≤ quote.pPositive ∧
        quote.competitionScore ≤ maxCompetitionThreshold quote.regime ∧
        quote.riskScore ≤ maxRiskThreshold quote.regime) ∧
      (tuning.thresholdMultiplier = 1 → shouldExecuteWithTuning quote tuning = quote.shouldExecute)) ↔
      quote.evRealUsd ≤ quote.thresholdDynamicUsd * max tuning.thresholdMultiplier 0.01 ∨
        quote.thresholdDynamicUsd < quote.evRealUsd ∨
        (minProbabilityThreshold quote.regime ≤ quote.pPositive ∧
          quote.competitionScore ≤ maxCompetitionThreshold quote.regime ∧
          quote.riskScore ≤ maxRiskThreshold quote.regime) := by
  intro quote
  have consistent : quote.Consistent := policy.quote_consistent curves now input
  have same : tuning.thresholdMultiplier = 1 → shouldExecuteWithTuning quote tuning = quote.shouldExecute :=
    shouldExecuteWithTuning_of_one consistent
  exact (and_iff_left same).trans (tuned_within_iff consistent tuning)

/-- A policy that knows of nothing but failures of a pair at noon. -/
def failuresAtNoon : AdaptivePolicy :=
  (AdaptivePolicy.new samplePriced).applyHistoricalProfiles
    [{ samples := 48, successRate := 0, acceptedNotIncludedRate := 0, revertRate := 1 / 4, realizedCapture := 0,
       hourUtc := 12, pair := 2, router := 1 }]

def noonInput : AdaptiveQuoteInput where
  cluster := ⟨1, 3, 4, ⟨0x38, 0xed, 0x17, 0x39⟩⟩
  pair := 2
  hourUtc := 12
  contextPriorityScore := 1
  contextToxicityScore := 0
  expectedProfitWei := 2 * 10 ^ 16
  executionCostWei := 10 ^ 14
  gasPriceWei := 10 ^ 9
  lookupLatencyMs := 140
  notionalEth := 1
  priceImpactBps := 0
  relayPressureOverride := none

/-- With nine tenths of the threshold, a multiplier that the replay tries by default, a quote is executed whose
probability is below the minimum of its regime. -/
theorem tuning_drops_probability_limit :
    let quote := (failuresAtNoon.quote sampleCurves 0 noonInput).2
    quote.rejectReason = some "ev_real_below_threshold" ∧
      quote.pPositive < minProbabilityThreshold quote.regime ∧
      shouldExecuteWithTuning quote { ReplayTuning.default with thresholdMultiplier := 9 / 10 } = true := by
  decide +kernel

end Replay

end ArbitrageRuntime
