import ArbitrageRuntime.Adaptive.Policy
import ArbitrageRuntime.Runtime.EvGates

namespace ArbitrageRuntime

structure FastPreflightDecision where
  shouldContinue : Bool
  rejectReason : Option String
  evUpperBoundUsd : ℚ
  estimatedGasCostUsd : ℚ
  competitionScoreFast : ℚ
  gasRatio : ℚ
  scavengerTryScore : ℚ
  deriving DecidableEq

def heuristicGasBaselineGwei (config : Config) : ℚ :=
  if config.network = "arbitrum" then 0.15
  else if config.network = "polygon" then 80.0
  else if config.network = "bsc" then 3.0
  else 25.0

def notionalSizeBucket (notionalEth minLargeSwapEth : ℚ) : Nat :=
  if notionalEth < minLargeSwapEth * 1.25 then 0
  else if notionalEth < minLargeSwapEth * 2.5 then 1
  else 2

def selectorHeuristicFactor (selector : Selector) : ℚ :=
  if selector = .v3ExactInputSingle then 1.16
  else if selector = .v3ExactInput then 1.04
  else if selector = .swapExactEthForTokens ∨ selector = .swapExactEthForTokensSupportingFee then 1.18
  else if selector = .swapExactTokensForEth ∨ selector = .swapExactTokensForEthSupportingFee then 1.08
  else if selector = .swapExactTokensForTokens ∨ selector = .swapExactTokensForTokensSupportingFee then 0.94
  else 0.82

def fastPathPenalty (pathLen : Nat) : ℚ :=
  if pathLen ≤ 2 then 0
  else if pathLen = 3 then 0.18
  else if pathLen = 4 then 0.30
  else 0.42

def scavengerSlippageWindowHint (signal : SwapSignal) : ℚ :=
  if signal.amountOutMin = some 0 then 0.95
  else if signal.selector = .swapExactTokensForTokensSupportingFee ∨
      signal.selector = .swapExactEthForTokensSupportingFee ∨
      signal.selector = .swapExactTokensForEthSupportingFee then 0.72
  else if 3 ≤ signal.pathLen then 0.52
  else 0.30

def scavengerImpactImbalanceHint (notionalEth minLargeSwapEth : ℚ) (pathLen : Nat) : ℚ :=
  let sizePressure := clamp 0 1 (notionalEth / max minLargeSwapEth 0.000001 / 3)
  clamp 0 1 (sizePressure * 0.78 + if pathLen ≤ 2 then 0.22 else 0.08)

def scavengerRouteInefficiencyHint (signal : SwapSignal) : ℚ :=
  match signal.kind with
  | .v3 _ _ hops _ => if 2 ≤ hops then 0.78 else 0.46
  | .v2 => if 3 ≤ signal.pathLen then 0.72 else 0.38

def scavengerFastTryScore (signal : SwapSignal) (gasRatio notionalEth : ℚ) (config : PricedConfig)
    (context : Adaptive.ContextSignal) : ℚ :=
  let poolImbalance := scavengerImpactImbalanceHint notionalEth config.mev.effectiveMinLargeSwapEth signal.pathLen
  let lowCompetition := clamp 0 1 ((1.35 - gasRatio) / 1.35) * 0.55 + clamp 0 1 context.priorityScore * 0.25 +
    (1 - clamp 0 1 context.toxicityScore) * 0.20
  let victimSizeFactor := clamp 0 1 (notionalEth / max config.mev.effectiveMinLargeSwapEth 0.000001 / 4)
  clamp 0 1 (scavengerSlippageWindowHint signal * 0.35 + poolImbalance * 0.25 + lowCompetition * 0.20 +
    scavengerRouteInefficiencyHint signal * 0.10 + victimSizeFactor * 0.10)

/-- The verdict before any figure of the swap is known. -/
def FastPreflightDecision.reject (reason : String) : FastPreflightDecision where
  shouldContinue := false
  rejectReason := some reason
  evUpperBoundUsd := 0
  estimatedGasCostUsd := 0
  competitionScoreFast := 1
  gasRatio := 0
  scavengerTryScore := 0

def estimatedGasCostUsd (config : PricedConfig) (gasPrice : Nat) : ℚ :=
  weiToEth (u256Mul gasPrice (max (u64Add config.estimatedExecGas config.estimatedBundleOverheadGas) 180000)) *
    config.ethUsdPrice

def gasRatio (config : PricedConfig) (gasPrice : Nat) : ℚ :=
  max (Adaptive.weiToGwei gasPrice / max (heuristicGasBaselineGwei config.toConfig) (1 / 10 ^ 9)) 0

def fastSizeBucket (config : PricedConfig) (signal : SwapSignal) : Nat :=
  notionalSizeBucket (weiToEth signal.notionalWei) config.mev.effectiveMinLargeSwapEth

def evUpperBoundUsd (config : PricedConfig) (signal : SwapSignal) (gasPrice : Nat) (context : Adaptive.ContextSignal) :
    ℚ :=
  let sizeFactor := match fastSizeBucket config signal with
    | 0 => 0.00022
    | 1 => 0.00038
    | _ => 0.00060
  let heuristicFactor := max (selectorHeuristicFactor signal.selector * sizeFactor *
    (1 - fastPathPenalty signal.pathLen) * (0.88 + clamp 0 1 context.priorityScore * 0.18) *
    (1 - clamp 0 1 context.toxicityScore * 0.20)) 0.00005
  weiToEth signal.notionalWei * config.ethUsdPrice * heuristicFactor - estimatedGasCostUsd config gasPrice

/-- How much competition the conservative mode expects. -/
def competitionScoreFast (config : PricedConfig) (signal : SwapSignal) (gasPrice : Nat)
    (context : Adaptive.ContextSignal) : ℚ :=
  let gasPressure := clamp 0 1 ((gasRatio config gasPrice - 1) / 0.8)
  let sizePressure := match fastSizeBucket config signal with
    | 0 => 0.20
    | 1 => 0.48
    | _ => 0.72
  let contextConfidence := clamp 0 1 ((min context.samples 24 : Nat) / 24)
  let pathRisk : ℚ := (min (signal.pathLen - 2) 3 : Nat) / 3
  clamp 0 1 (gasPressure * 0.46 + sizePressure * 0.34 + pathRisk * 0.14 +
    clamp 0 1 context.toxicityScore * (0.08 + contextConfidence * 0.08) -
    clamp 0 1 context.priorityScore * (0.03 + contextConfidence * 0.05))

def fastPreflightGate (signal : SwapSignal) (gasPrice minLargeSwapWei : Nat) (config : PricedConfig)
    (context : Adaptive.ContextSignal) : FastPreflightDecision :=
  if signal.pathLen < 2 then .reject "invalid_path"
  else if signal.notionalWei < minLargeSwapWei then .reject "notional_below_min"
  else
    let gasRatio := gasRatio config gasPrice
    let upperBound := evUpperBoundUsd config signal gasPrice context
    let tryScore := scavengerFastTryScore signal gasRatio (weiToEth signal.notionalWei) config context
    let minUsd := config.mev.effectiveMinProfitUsd
    let competition := competitionScoreFast config signal gasPrice context
    let decision (reason : Option String) (competition tryScore : ℚ) : FastPreflightDecision :=
      { shouldContinue := reason.isNone
        rejectReason := reason
        evUpperBoundUsd := upperBound
        estimatedGasCostUsd := estimatedGasCostUsd config gasPrice
        competitionScoreFast := competition
        gasRatio := gasRatio
        scavengerTryScore := tryScore }
    match config.mev.opportunityMode with
    | .scavenger =>
      decision (if tryScore < 0.18 ∧ 1.45 < gasRatio then some "scavenger_score_below_cheap_threshold" else none)
        (1 - tryScore) tryScore
    | .aggressive =>
      decision (if tryScore < 0.24 ∧ upperBound < minUsd * 0.35 then some "bloody_score_below_research_threshold"
          else if 1.85 < gasRatio ∧ upperBound < minUsd then some "bloody_gas_pressure_without_edge"
          else none)
        (1 - tryScore) tryScore
    | .conservative =>
      decision (if upperBound < minUsd * 1.5 then some "ev_upper_bound_below_min"
          else if 0.75 < competition then some "competition_fast_too_high"
          else none)
        competition 0

def gasCapTierFloor (evUpperBoundUsd hardCapGwei : ℚ) : ℚ :=
  if 0.25 ≤ evUpperBoundUsd then 1000
  else if 0.14 ≤ evUpperBoundUsd then hardCapGwei * 0.98
  else if 0.10 ≤ evUpperBoundUsd then 850
  else if 0.05 ≤ evUpperBoundUsd then 450
  else if 0.02 ≤ evUpperBoundUsd then hardCapGwei * 0.95
  else if 0.005 ≤ evUpperBoundUsd then 350
  else if 0.001 ≤ evUpperBoundUsd then 300
  else if 0 < evUpperBoundUsd then 250
  else if -0.02 ≤ evUpperBoundUsd then 150
  else 120

/-- `f64::clamp` panics when its bounds are out of order. -/
def clampOrPanic (low high value : ℚ) : Option ℚ := if low ≤ high then some (clamp low high value) else none

def adaptiveGasCapGwei (evUpperBoundUsd notionalEth hardCapGwei : ℚ) : Option ℚ :=
  let tierFloor := gasCapTierFloor evUpperBoundUsd hardCapGwei
  let continuousCap :=
    if 0 < evUpperBoundUsd then 100 + evUpperBoundUsd * 3000 else 150 + evUpperBoundUsd * 1500
  let edgeCap := if 0.02 ≤ evUpperBoundUsd then tierFloor else max tierFloor continuousCap
  let sizeMultiplier :=
    if 0 < evUpperBoundUsd then clamp 1 1.18 (0.95 + notionalEth / 40) else clamp 0.75 1.15 (notionalEth / 10)
  clampOrPanic 120 (max hardCapGwei 1) (edgeCap * sizeMultiplier)

theorem clampOrPanic_bounded_iff (low high value : ℚ) :
    (∃ result, clampOrPanic low high value = some result ∧ result ≤ high) ↔ low ≤ high := by
  unfold clampOrPanic
  constructor
  · rintro ⟨result, found, _⟩
    by_contra disordered
    rw [if_neg disordered] at found
    exact absurd found (by simp)
  · intro ordered
    refine ⟨clamp low high value, if_pos ordered, ?_⟩
    exact max_le ordered (min_le_right _ _)

/-- The cap is computed, and stays below the configured one, exactly when the configured one is not below the constant
lower bound of the final clamp. -/
theorem adaptiveGasCapGwei_bounded_iff (evUpperBoundUsd notionalEth : ℚ) (hardCapGwei : Nat) :
    (∃ cap, adaptiveGasCapGwei evUpperBoundUsd notionalEth hardCapGwei = some cap ∧ cap ≤ hardCapGwei) ↔
      120 ≤ hardCapGwei := by
  have threshold : (120 : ℚ) ≤ max (hardCapGwei : ℚ) 1 ↔ 120 ≤ hardCapGwei := by
    rw [le_max_iff]
    constructor
    · rintro (enough | small)
      · exact_mod_cast enough
      · exact absurd small (by norm_num)
    · intro enough
      exact Or.inl (by exact_mod_cast enough)
  rw [← threshold, ← clampOrPanic_bounded_iff]
  unfold adaptiveGasCapGwei
  constructor
  · rintro ⟨cap, found, bounded⟩
    exact ⟨cap, found, bounded.trans (le_max_left _ _)⟩
  · intro bounded
    obtain ⟨cap, found, below⟩ := bounded
    refine ⟨cap, found, ?_⟩
    have enough : 120 ≤ hardCapGwei := threshold.mp ((clampOrPanic_bounded_iff _ _ _).mp ⟨cap, found, below⟩)
    have one : (1 : ℚ) ≤ hardCapGwei := by exact_mod_cast (by omega : 1 ≤ hardCapGwei)
    rwa [max_eq_left one] at below

/-- A cap of 80 gwei panics for every estimate. -/
theorem adaptiveGasCapGwei_panics : adaptiveGasCapGwei (3 / 100) (1 / 10) 80 = none := by
  unfold adaptiveGasCapGwei clampOrPanic
  exact if_neg (by norm_num)

inductive CandidateLane
  | universal
  | large
  | medium
  | small
  deriving DecidableEq

def classifyCandidateLane (signal : SwapSignal) (minLargeSwapWei : Nat) : CandidateLane :=
  if signal.selector = .universalRouterExecute ∨ signal.selector = .universalRouterExecuteNoDeadline then .universal
  else if max (u256Mul minLargeSwapWei 250) (5 * 10 ^ 17) ≤ signal.notionalWei then .large
  else if max (u256Mul minLargeSwapWei 25) (5 * 10 ^ 16) ≤ signal.notionalWei then .medium
  else .small

structure SmallSwapBudget where
  windowStarted : Instant
  accepted : Nat

def smallScavengerBudgetPerSec : Nat := 8

/-- A poisoned budget lets everything pass. -/
def allowSmallScavengerCandidate (budget : Mutex SmallSwapBudget) (now : Instant) : Bool × Mutex SmallSwapBudget :=
  match budget.lock with
  | none => (true, budget)
  | some guard =>
    let current := if nanosPerSec ≤ now - guard.windowStarted then { windowStarted := now, accepted := 0 } else guard
    if current.accepted < smallScavengerBudgetPerSec then
      (true, { budget with value := { current with accepted := current.accepted + 1 } })
    else (false, { budget with value := current })

end ArbitrageRuntime
