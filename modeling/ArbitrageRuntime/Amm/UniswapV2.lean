import ArbitrageRuntime.Base
import ArbitrageRuntime.Lib.PickMax
import Mathlib.Tactic.GCongr
import Mathlib.Tactic.NormNum

namespace ArbitrageRuntime

structure V2PoolState where
  pair : Address
  token0 : Address
  token1 : Address
  reserve0 : Nat
  reserve1 : Nat
  feeBps : Nat
  deriving DecidableEq

structure V2SwapResult where
  amountIn : Nat
  amountOut : Nat
  newReserveIn : Nat
  newReserveOut : Nat
  priceImpactBps : Nat
  deriving DecidableEq

structure SizeCandidate where
  capitalFractionBps : Nat
  amountIn : Nat
  amountOut : Nat
  grossProfitWei : Nat
  netProfitWei : Nat
  roiBps : Nat
  selfSlippageBps : Nat
  deriving DecidableEq

def amountOutExactIn (amountIn reserveIn reserveOut feeBps : Nat) : Option Nat :=
  if amountIn = 0 ∨ reserveIn = 0 ∨ reserveOut = 0 ∨ 10000 ≤ feeBps then none
  else
    let amountInWithFee := u256Mul amountIn (10000 - feeBps)
    let numerator := u256Mul amountInWithFee reserveOut
    let denominator := u256Add (u256Mul reserveIn 10000) amountInWithFee
    if denominator = 0 then none else some (numerator / denominator)

def priceImpactBps (amountIn amountOut reserveIn reserveOut : Nat) : Nat :=
  if amountIn = 0 ∨ amountOut = 0 ∨ reserveIn = 0 ∨ reserveOut = 0 then 10000
  else
    let idealOut := u256Mul amountIn reserveOut / reserveIn
    if idealOut = 0 ∨ idealOut ≤ amountOut then 0
    else min (u256Mul (idealOut - amountOut) 10000 / idealOut) 10000

namespace V2PoolState

def reservesFor (pool : V2PoolState) (tokenIn tokenOut : Address) : Option (Nat × Nat) :=
  if tokenIn = pool.token0 ∧ tokenOut = pool.token1 then some (pool.reserve0, pool.reserve1)
  else if tokenIn = pool.token1 ∧ tokenOut = pool.token0 then some (pool.reserve1, pool.reserve0)
  else none

def applySwapExactIn (pool : V2PoolState) (tokenIn tokenOut : Address) (amountIn : Nat) :
    Option (V2PoolState × V2SwapResult) := do
  let (reserveIn, reserveOut) ← pool.reservesFor tokenIn tokenOut
  if amountIn = 0 ∨ reserveIn = 0 ∨ reserveOut = 0 then none
  else
    let amountOut ← amountOutExactIn amountIn reserveIn reserveOut pool.feeBps
    if amountOut = 0 ∨ reserveOut ≤ amountOut then none
    else
      let newReserveIn := u256Add reserveIn amountIn
      let newReserveOut := reserveOut - amountOut
      let next :=
        if tokenIn = pool.token0 then { pool with reserve0 := newReserveIn, reserve1 := newReserveOut }
        else { pool with reserve1 := newReserveIn, reserve0 := newReserveOut }
      some (next,
        { amountIn := amountIn
          amountOut := amountOut
          newReserveIn := newReserveIn
          newReserveOut := newReserveOut
          priceImpactBps := priceImpactBps amountIn amountOut reserveIn reserveOut })

end V2PoolState

/-- The ranking score of a V2 size, over exact rationals. -/
def sizingScore (priority toxicity : ℚ) (candidate : SizeCandidate) : ℚ :=
  (candidate.netProfitWei : ℚ)
    * (1 + priority * (20 / 100))
    * (1 + candidate.roiBps / 10000 * (45 / 100))
    * (1 + candidate.capitalFractionBps / 10000 * (10 / 100))
    * (1 - toxicity * (42 / 100))
    * (1 - candidate.selfSlippageBps / 10000 * (55 / 100))

/-- Without priority, toxicity and slippage, the score grows with the profit, the return and the size. -/
theorem sizingScore_mono {small large : SizeCandidate} (nets : small.netProfitWei ≤ large.netProfitWei)
    (rois : small.roiBps ≤ large.roiBps) (sizes : small.capitalFractionBps ≤ large.capitalFractionBps)
    (smallFlat : small.selfSlippageBps = 0) (largeFlat : large.selfSlippageBps = 0) :
    sizingScore 0 0 small ≤ sizingScore 0 0 large := by
  have netsCast : (small.netProfitWei : ℚ) ≤ large.netProfitWei := by exact_mod_cast nets
  have roisCast : (small.roiBps : ℚ) ≤ large.roiBps := by exact_mod_cast rois
  have sizesCast : (small.capitalFractionBps : ℚ) ≤ large.capitalFractionBps := by exact_mod_cast sizes
  simp only [sizingScore, smallFlat, largeFlat]
  norm_num
  gcongr

/-- `value.clamp(low, high)` with `low ≤ high`. -/
def clamp (low high value : ℚ) : ℚ := max low (min value high)

def selectBestSizeCandidate (candidates : List SizeCandidate) (priorityScore toxicityScore : ℚ) :
    Option SizeCandidate :=
  PickMax.pickMax (sizingScore (clamp 0 (3 / 2) priorityScore) (clamp 0 1 toxicityScore)) candidates

end ArbitrageRuntime
