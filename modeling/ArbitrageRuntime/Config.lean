import ArbitrageRuntime.Base

namespace ArbitrageRuntime

inductive OpportunityMode
  | conservative
  | aggressive
  | scavenger
  deriving DecidableEq, Repr

structure MonitoredTokenConfig where
  address : Address
  decimals : Nat
  priceEth : ℚ

structure OpportunityThresholds where
  minLargeSwapEth : ℚ
  minNetProfitEth : ℚ
  minProfitUsd : ℚ
  minLiquidityEth : ℚ

/-- The part of the strategy configuration that the modelled code reads. The two locks hold their
value, or nothing when they are poisoned. -/
structure MevConfig where
  opportunityModeLock : Option OpportunityMode
  runtimeThresholdsLock : Option OpportunityThresholds
  capitalEth : ℚ
  capitalWindowSecs : Nat
  maxWindowExposureEth : ℚ
  maxClusterWindowExposureEth : ℚ
  maxPairWindowExposureEth : ℚ
  minNetProfitEth : ℚ
  minRoiBps : Nat
  minLargeSwapEth : ℚ
  gasSafetyMarginBps : Nat
  maxPendingAgeMs : Nat
  maxGasPerTx : Nat
  maxGasPriceGwei : Option Nat
  maxPriceImpactBps : Nat
  slippageProtectionBps : Nat
  minProfitUsd : ℚ
  minLiquidityEth : ℚ
  executorMinBufferEth : ℚ
  executorMaxBufferEth : ℚ
  relayFanoutCount : Nat
  rpcFanoutCount : Nat
  gasOverpayBaseExtraBps : Nat
  gasOverpayMissExtraBps : Nat
  gasOverpayRevertExtraBps : Nat
  gasOverpaySubmitFailureExtraBps : Nat
  gasOverpayMaxExtraBps : Nat
  stopLossConsecutiveLosses : Nat
  stopLossFreezeSecs : Nat
  contextStopLossConsecutiveLosses : Nat
  contextStopLossFreezeSecs : Nat
  capitalMultiplierAggressive : ℚ
  capitalMultiplierNeutral : ℚ
  capitalMultiplierDefensive : ℚ
  capitalMultiplierPriorityThreshold : ℚ
  capitalMultiplierToxicityThreshold : ℚ
  uniswapV2Factory : Option Address
  mevExecutor : Option Address
  mevExecutorV3 : Option Address

structure Config where
  network : String
  chainId : Nat
  allowSend : Bool
  builderRelays : List String
  profitAddress : Address
  monitoredTokens : List MonitoredTokenConfig
  estimatedExecGas : Nat
  estimatedBundleOverheadGas : Nat
  mev : MevConfig

namespace Config

def usesBundleRelays (config : Config) : Bool :=
  config.network == "ethereum" && !config.builderRelays.isEmpty

end Config

namespace MevConfig

def opportunityMode (mev : MevConfig) : OpportunityMode :=
  mev.opportunityModeLock.getD .conservative

def runtimeThresholds (mev : MevConfig) : OpportunityThresholds :=
  mev.runtimeThresholdsLock.getD
    { minLargeSwapEth := mev.minLargeSwapEth
      minNetProfitEth := mev.minNetProfitEth
      minProfitUsd := mev.minProfitUsd
      minLiquidityEth := mev.minLiquidityEth }

def effectiveMinNetProfitEth (mev : MevConfig) : ℚ :=
  let base := mev.runtimeThresholds.minNetProfitEth
  max (match mev.opportunityMode with
    | .conservative => base
    | .aggressive => base * (15 / 100)
    | .scavenger => base * (3 / 100)) (1 / 10 ^ 7)

/-- `value.round().max(1.0) as u64`, the shape of every effective integer threshold. -/
def roundedAtLeastOne (value : ℚ) : Nat :=
  asU64 (max (Rounding.halfUp value) 1)

def effectiveMaxPriceImpactBps (mev : MevConfig) : Nat :=
  roundedAtLeastOne (match mev.opportunityMode with
    | .conservative => mev.maxPriceImpactBps
    | .aggressive => mev.maxPriceImpactBps * (220 / 100)
    | .scavenger => mev.maxPriceImpactBps * 4)

def effectiveMaxPendingAgeMs (mev : MevConfig) : Nat :=
  roundedAtLeastOne (match mev.opportunityMode with
    | .conservative => mev.maxPendingAgeMs
    | .aggressive => mev.maxPendingAgeMs * 2
    | .scavenger => mev.maxPendingAgeMs * 3)

def maxGasPriceWei (mev : MevConfig) : Option Nat :=
  mev.maxGasPriceGwei.map fun value => u256Mul value 1000000000

def contextualCapitalMultiplier (mev : MevConfig) (priorityScore toxicityScore : ℚ) : ℚ :=
  if mev.capitalMultiplierToxicityThreshold ≤ toxicityScore then mev.capitalMultiplierDefensive
  else if mev.capitalMultiplierPriorityThreshold ≤ priorityScore ∧
      toxicityScore ≤ mev.capitalMultiplierToxicityThreshold * (1 / 2) then
    mev.capitalMultiplierAggressive
  else mev.capitalMultiplierNeutral

end MevConfig

/-- The configuration that the builder's own tests use. -/
def testConfig : Config where
  network := "polygon"
  chainId := 137
  allowSend := false
  builderRelays := []
  profitAddress := 12
  monitoredTokens := [{ address := 1, decimals := 18, priceEth := 1 }]
  estimatedExecGas := 250000
  estimatedBundleOverheadGas := 25000
  mev :=
    { opportunityModeLock := some .scavenger
      runtimeThresholdsLock := some
        { minLargeSwapEth := 1
          minNetProfitEth := 1 / 10000
          minProfitUsd := 1 / 100
          minLiquidityEth := 1 }
      capitalEth := 1 / 10
      capitalWindowSecs := 90
      maxWindowExposureEth := 3 / 10
      maxClusterWindowExposureEth := 2 / 10
      maxPairWindowExposureEth := 2 / 10
      minNetProfitEth := 1 / 10000
      minRoiBps := 100
      minLargeSwapEth := 1
      gasSafetyMarginBps := 11000
      maxPendingAgeMs := 1500
      maxGasPerTx := 260000
      maxGasPriceGwei := some 100
      maxPriceImpactBps := 250
      slippageProtectionBps := 50
      minProfitUsd := 1 / 100
      minLiquidityEth := 1
      executorMinBufferEth := 1 / 10
      executorMaxBufferEth := 1
      relayFanoutCount := 1
      rpcFanoutCount := 1
      gasOverpayBaseExtraBps := 500
      gasOverpayMissExtraBps := 2500
      gasOverpayRevertExtraBps := 1200
      gasOverpaySubmitFailureExtraBps := 1500
      gasOverpayMaxExtraBps := 5000
      stopLossConsecutiveLosses := 3
      stopLossFreezeSecs := 300
      contextStopLossConsecutiveLosses := 2
      contextStopLossFreezeSecs := 180
      capitalMultiplierAggressive := 2
      capitalMultiplierNeutral := 1
      capitalMultiplierDefensive := 3 / 10
      capitalMultiplierPriorityThreshold := 6 / 10
      capitalMultiplierToxicityThreshold := 65 / 100
      uniswapV2Factory := some 20
      mevExecutor := some 22
      mevExecutorV3 := some 23 }

end ArbitrageRuntime
