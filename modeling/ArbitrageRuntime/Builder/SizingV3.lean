import ArbitrageRuntime.Builder.Payload
import ArbitrageRuntime.Builder.Units

namespace ArbitrageRuntime

def v3FlashRepaymentWei (amount feeTier : Nat) : Nat :=
  if amount = 0 then 0
  else u256Add amount (u256Add (u256Mul amount feeTier) (1000000 - 1) / 1000000)

structure NormalizedV3Candidate where
  candidate : V3SizeCandidate
  repaymentWei : Nat
  amountOutNativeWei : Nat
  repaymentNativeWei : Nat
  grossProfitNativeWei : Nat
  netProfitNativeWei : Nat
  edgePositive : Bool
  edgeAbsNativeWei : Nat
  deriving DecidableEq

/-- One fraction of the V3 sizing loop. -/
def normalizedV3Candidate (config : Config) (pool : V3PoolState) (tokenIn tokenOut : Address)
    (capitalCap feeTier gasCostWei bps : Nat) : Option NormalizedV3Candidate := do
  let amountIn := u256Mul capitalCap bps / 10000
  if amountIn = 0 then none
  else
    let (_, result) ← pool.simulateExactIn tokenOut tokenIn amountIn
    let repaymentWei := v3FlashRepaymentWei amountIn feeTier
    let amountOutNativeWei ← tokenAmountToNativeWei config tokenIn result.amountOut
    let repaymentNativeWei ← tokenAmountToNativeWei config tokenOut repaymentWei
    let edgePositive := decide (repaymentNativeWei ≤ amountOutNativeWei)
    let grossProfitNativeWei := amountOutNativeWei - repaymentNativeWei
    let netProfitNativeWei := grossProfitNativeWei - gasCostWei
    some
      { candidate :=
          { capitalFractionBps := bps
            amountIn := amountIn
            amountOut := result.amountOut
            grossProfitWei := grossProfitNativeWei
            netProfitWei := netProfitNativeWei
            roiBps :=
              if repaymentNativeWei = 0 then 0
              else min (u256Mul netProfitNativeWei 10000 / repaymentNativeWei) u64Max
            selfSlippageBps := result.priceImpactBps }
        repaymentWei := repaymentWei
        amountOutNativeWei := amountOutNativeWei
        repaymentNativeWei := repaymentNativeWei
        grossProfitNativeWei := grossProfitNativeWei
        netProfitNativeWei := netProfitNativeWei
        edgePositive := edgePositive
        edgeAbsNativeWei :=
          if edgePositive then amountOutNativeWei - repaymentNativeWei
          else repaymentNativeWei - amountOutNativeWei }

def normalizedV3SizeCandidates (config : Config) (pool : V3PoolState) (tokenIn tokenOut : Address)
    (capitalCap feeTier gasCostWei : Nat) (fractionsBps : List Nat) : List NormalizedV3Candidate :=
  if capitalCap = 0 then []
  else fractionsBps.filterMap (normalizedV3Candidate config pool tokenIn tokenOut capitalCap feeTier gasCostWei)

def selectScavengerV3Candidate (candidates : List NormalizedV3Candidate) : Option NormalizedV3Candidate :=
  PickMax.pickMax NormalizedV3Candidate.grossProfitNativeWei (candidates.filter fun sized =>
    sized.candidate.amountIn ≠ 0 ∧ sized.edgePositive ∧ sized.grossProfitNativeWei ≠ 0 ∧
      sized.candidate.selfSlippageBps ≤ 2500)

/-- The ranking score of a V3 size, over exact rationals. -/
def normalizedV3SizingScore (priority toxicity : ℚ) (sized : NormalizedV3Candidate) : ℚ :=
  (sized.netProfitNativeWei : ℚ)
    * (1 + priority * (18 / 100))
    * (1 + sized.candidate.roiBps / 10000 * (42 / 100))
    * (1 + sized.candidate.capitalFractionBps / 10000 * (10 / 100))
    * (1 - toxicity * (46 / 100))
    * (1 - sized.candidate.selfSlippageBps / 10000 * (62 / 100))

def selectBestV3Candidate (candidates : List NormalizedV3Candidate) (priorityScore toxicityScore : ℚ) :
    Option NormalizedV3Candidate :=
  PickMax.pickMax (normalizedV3SizingScore (clamp 0 (3 / 2) priorityScore) (clamp 0 1 toxicityScore))
    (candidates.filter fun sized =>
      sized.edgePositive ∧ sized.netProfitNativeWei ≠ 0 ∧ sized.candidate.selfSlippageBps ≤ 2500)

/-- What a V3 candidate says about its fraction. -/
theorem normalizedV3Candidate_spec {config : Config} {pool : V3PoolState} {tokenIn tokenOut : Address}
    {capitalCap feeTier gasCostWei bps : Nat} {sized : NormalizedV3Candidate}
    (found : normalizedV3Candidate config pool tokenIn tokenOut capitalCap feeTier gasCostWei bps = some sized) :
    sized.candidate.amountIn = u256Mul capitalCap bps / 10000 ∧ sized.candidate.amountIn ≠ 0 ∧
      (∃ next result, pool.simulateExactIn tokenOut tokenIn sized.candidate.amountIn = some (next, result) ∧
        result.amountOut = sized.candidate.amountOut) ∧
      sized.repaymentWei = v3FlashRepaymentWei sized.candidate.amountIn feeTier ∧
      sized.netProfitNativeWei = sized.grossProfitNativeWei - gasCostWei := by
  unfold normalizedV3Candidate at found
  dsimp only at found
  split at found
  · exact absurd found (by simp)
  · rename_i sizedIn
    obtain ⟨⟨next, result⟩, simulated, found⟩ := Option.bind_eq_some_iff.mp found
    obtain ⟨outWorth, _, found⟩ := Option.bind_eq_some_iff.mp found
    obtain ⟨repaymentWorth, _, found⟩ := Option.bind_eq_some_iff.mp found
    cases Option.some.inj found
    exact ⟨rfl, sizedIn, ⟨next, result, simulated, rfl⟩, rfl, rfl⟩

theorem normalizedV3SizeCandidates_mem {config : Config} {pool : V3PoolState} {tokenIn tokenOut : Address}
    {capitalCap feeTier gasCostWei : Nat} {fractionsBps : List Nat} {sized : NormalizedV3Candidate}
    (member : sized ∈ normalizedV3SizeCandidates config pool tokenIn tokenOut capitalCap feeTier gasCostWei
      fractionsBps) :
    ∃ bps ∈ fractionsBps,
      normalizedV3Candidate config pool tokenIn tokenOut capitalCap feeTier gasCostWei bps = some sized := by
  unfold normalizedV3SizeCandidates at member
  split at member
  · exact absurd member (by simp)
  · exact List.mem_filterMap.mp member

end ArbitrageRuntime
