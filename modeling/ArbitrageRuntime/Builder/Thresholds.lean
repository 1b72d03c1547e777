import ArbitrageRuntime.Builder.Payload

namespace ArbitrageRuntime

def payloadShadowResearchMode (config : Config) : Bool :=
  config.mev.opportunityMode = .scavenger ∨
    (config.mev.opportunityMode = .aggressive ∧ config.allowSend = false)

/-- The gas estimate of both builders, which differ in the overhead and in the floor. -/
def gasEstimateWith (config : Config) (overheadGas floorGas : Nat) : Nat :=
  min config.mev.maxGasPerTx (max (u64Add config.estimatedExecGas overheadGas) floorGas)

def gasEstimateV2 (config : Config) : Nat :=
  gasEstimateWith config config.estimatedBundleOverheadGas
    (if payloadShadowResearchMode config then 140000 else 180000)

/-- The V3 overhead is a plain `u64` sum, which wraps in a release build. -/
def gasEstimateV3 (config : Config) : Nat :=
  if payloadShadowResearchMode config then
    gasEstimateWith config ((config.estimatedBundleOverheadGas + 20000) % 2 ^ 64) 160000
  else gasEstimateWith config ((config.estimatedBundleOverheadGas + 35000) % 2 ^ 64) 210000

def gasCost (config : Config) (gasPriceWei gasEstimate : Nat) : Nat :=
  u256Mul (u256Mul gasPriceWei gasEstimate) config.mev.gasSafetyMarginBps / 10000

def sizingFractions (config : Config) : List Nat :=
  if payloadShadowResearchMode config then [25, 50, 100, 200, 350, 500, 750, 1000, 1500]
  else [1000, 2000, 3500, 5000, 7500]

def effectivePayloadMinProfitWei (config : Config) : Except BuildStop Nat :=
  if config.mev.opportunityMode = .scavenger then .ok 1
  else orRefuse (parseEther config.mev.effectiveMinNetProfitEth) .minProfitNotParsed

def effectivePayloadSlippageBps (config : Config) : Nat :=
  if config.mev.opportunityMode = .scavenger then
    max 100 (min (u64Mul config.mev.slippageProtectionBps 8) 1500)
  else config.mev.slippageProtectionBps

def effectivePayloadPriceImpactCapBps (config : Config) : Nat :=
  if config.mev.opportunityMode = .scavenger then
    max 600 (min (u64Mul config.mev.effectiveMaxPriceImpactBps 12) 3000)
  else config.mev.effectiveMaxPriceImpactBps

def minAmountOut (config : Config) (amountOut : Nat) : Nat :=
  u256Mul amountOut (10000 - effectivePayloadSlippageBps config) / 10000

/-- The profit a payload announces: before gas in research mode, after gas otherwise. -/
def simulatedProfitWei (config : Config) (grossProfitWei netProfitWei : Nat) : Nat :=
  if payloadShadowResearchMode config then grossProfitWei else netProfitWei

theorem payloadShadowResearchMode_of_scavenger {config : Config}
    (scavenger : config.mev.opportunityMode = .scavenger) : payloadShadowResearchMode config = true := by
  simp [payloadShadowResearchMode, scavenger]

/-- The largest fraction of the capital that sizing tries. -/
def largestFraction (config : Config) : Nat :=
  if payloadShadowResearchMode config then 1500 else 7500

theorem sizingFractions_last (config : Config) :
    ∃ smaller, sizingFractions config = smaller ++ [largestFraction config] := by
  unfold sizingFractions largestFraction
  split
  · exact ⟨[25, 50, 100, 200, 350, 500, 750, 1000], rfl⟩
  · exact ⟨[1000, 2000, 3500, 5000], rfl⟩

theorem largestFraction_mem (config : Config) : largestFraction config ∈ sizingFractions config := by
  obtain ⟨smaller, split⟩ := sizingFractions_last config
  simp [split]

theorem sizingFractions_le {config : Config} {bps : Nat} (member : bps ∈ sizingFractions config) :
    bps ≤ largestFraction config := by
  unfold sizingFractions at member
  unfold largestFraction
  split at member
  · rename_i shadow
    rw [if_pos shadow]
    simp only [List.mem_cons, List.not_mem_nil, or_false] at member
    omega
  · rename_i live
    rw [if_neg live]
    simp only [List.mem_cons, List.not_mem_nil, or_false] at member
    omega

theorem sizingFractions_bounds {config : Config} {bps : Nat} (member : bps ∈ sizingFractions config) :
    25 ≤ bps ∧ bps ≤ 7500 := by
  unfold sizingFractions at member
  split at member
  · simp only [List.mem_cons, List.not_mem_nil, or_false] at member
    omega
  · simp only [List.mem_cons, List.not_mem_nil, or_false] at member
    omega

end ArbitrageRuntime
