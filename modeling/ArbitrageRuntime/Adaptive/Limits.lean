import ArbitrageRuntime.Config

namespace ArbitrageRuntime

namespace MevConfig

def effectiveMinLargeSwapEth (mev : MevConfig) : ℚ :=
  let base := mev.runtimeThresholds.minLargeSwapEth
  max (match mev.opportunityMode with
    | .conservative => base
    | .aggressive => base * 0.12
    | .scavenger => base * 0.02) 0.000001

def effectiveMinProfitUsd (mev : MevConfig) : ℚ :=
  let base := mev.runtimeThresholds.minProfitUsd
  max (match mev.opportunityMode with
    | .conservative => base
    | .aggressive => base * 0.10
    | .scavenger => base * 0.02) 0.000001

end MevConfig

/-- The configuration with the dollar price of the native asset. -/
structure PricedConfig extends Config where
  ethUsdPrice : ℚ

namespace Adaptive

/-- What the adaptive policy takes over from the configuration when it is built. -/
structure PolicyLimits where
  ethUsdPrice : ℚ
  baseThresholdUsd : ℚ
  maxPriceImpactBps : Nat
  minLargeSwapEth : ℚ
  minProfitEth : ℚ
  preflightGasEstimate : Nat
  chainCompetitionMult : ℚ
  chainRiskMult : ℚ
  chainThresholdMult : ℚ
  deriving DecidableEq

structure ChainPreset where
  gasBaselineGwei : ℚ
  thresholdBias : ℚ
  successBias : ℚ
  failureBias : ℚ
  competitionMult : ℚ
  riskMult : ℚ
  thresholdMult : ℚ

def chainAdaptivePreset (network : String) : ChainPreset :=
  if network = "bsc" then ⟨3.0, 0.86, 0.76, 0.16, 0.94, 1.06, 0.92⟩
  else if network = "polygon" then ⟨80.0, 1.08, 0.70, 0.20, 1.05, 1.02, 1.08⟩
  else ⟨25.0, 1.0, 0.72, 0.18, 1.0, 1.0, 1.0⟩

/-- The part of `AdaptivePolicy::new` that reads the configuration. -/
def PolicyLimits.ofConfig (config : PricedConfig) : PolicyLimits where
  ethUsdPrice := config.ethUsdPrice
  baseThresholdUsd :=
    max config.mev.effectiveMinProfitUsd (config.mev.effectiveMinNetProfitEth * config.ethUsdPrice) *
      (chainAdaptivePreset config.network).thresholdBias
  maxPriceImpactBps := max config.mev.effectiveMaxPriceImpactBps 1
  minLargeSwapEth := max config.mev.effectiveMinLargeSwapEth 0.0001
  minProfitEth := max config.mev.effectiveMinNetProfitEth 0.000001
  preflightGasEstimate := max (u64Add config.estimatedExecGas config.estimatedBundleOverheadGas) 180000
  chainCompetitionMult := (chainAdaptivePreset config.network).competitionMult
  chainRiskMult := (chainAdaptivePreset config.network).riskMult
  chainThresholdMult := (chainAdaptivePreset config.network).thresholdMult

end Adaptive

end ArbitrageRuntime
