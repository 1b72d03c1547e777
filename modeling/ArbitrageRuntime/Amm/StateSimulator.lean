import ArbitrageRuntime.Amm.UniswapV2
import ArbitrageRuntime.Amm.UniswapV3

namespace ArbitrageRuntime

inductive AmmState
  | uniswapV2 (pool : V2PoolState)
  | uniswapV3 (pool : V3PoolState)
  deriving DecidableEq

structure PostSwapSimulation where
  stateAfter : AmmState
  slippageImpactBps : Nat
  deriving DecidableEq

def simulateVictimExactIn (state : AmmState) (tokenIn tokenOut : Address) (amountIn : Nat) :
    Option PostSwapSimulation :=
  match state with
  | .uniswapV2 pool => do
    let (next, result) ← pool.applySwapExactIn tokenIn tokenOut amountIn
    some { stateAfter := .uniswapV2 next, slippageImpactBps := result.priceImpactBps }
  | .uniswapV3 pool => do
    let (next, result) ← pool.simulateExactIn tokenIn tokenOut amountIn
    some { stateAfter := .uniswapV3 next, slippageImpactBps := result.priceImpactBps }

end ArbitrageRuntime
