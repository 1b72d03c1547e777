import ArbitrageRuntime.Base

namespace ArbitrageRuntime

structure V3Tick where
  index : Int
  liquidityNet : Int
  deriving DecidableEq

structure V3PoolState where
  pool : Address
  token0 : Address
  token1 : Address
  sqrtPriceX96 : Nat
  liquidity : Nat
  currentTick : Int
  feeBps : Nat
  initializedTicks : List V3Tick
  deriving DecidableEq

structure V3SwapResult where
  amountIn : Nat
  amountOut : Nat
  sqrtPriceX96After : Nat
  tickAfter : Int
  priceImpactBps : Nat
  deriving DecidableEq

structure V3SizeCandidate where
  capitalFractionBps : Nat
  amountIn : Nat
  amountOut : Nat
  grossProfitWei : Nat
  netProfitWei : Nat
  roiBps : Nat
  selfSlippageBps : Nat
  deriving DecidableEq

def q96 : ℚ := 2 ^ 96

/-- `f64_to_u256`: formatting with no decimals rounds to the nearest integer, ties to even. -/
def toU256Rounded (value : ℚ) : Option Nat :=
  if value < 0 then none
  else if (Rounding.halfEven value).toNat ≤ u256Max then some (Rounding.halfEven value).toNat
  else none

def tickCrossed (before after : Int) (tick : V3Tick) : Bool :=
  if before < after then before < tick.index ∧ tick.index ≤ after
  else tick.index ≤ before ∧ after < tick.index

def crossTick (liquidity : Nat) (tick : V3Tick) : Nat :=
  if 0 ≤ tick.liquidityNet then u256Add liquidity tick.liquidityNet.toNat
  else liquidity - (-tick.liquidityNet).toNat

def applyCrossedTickLiquidity (liquidity : Nat) (before after : Int) (ticks : List V3Tick) : Nat :=
  if before = after then liquidity
  else (ticks.filter (tickCrossed before after)).foldl crossTick liquidity

/-- How many ticks of ratio 1.0001 fit below `price`, counted upwards from one. The fuel bounds
the count, because the powers grow at least linearly. -/
def ticksBelow (price : ℚ) : Nat → Nat → ℚ → Nat
  | 0, count, _ => count
  | fuel + 1, count, power =>
    if power * (10001 / 10000) ≤ price then ticksBelow price fuel (count + 1) (power * (10001 / 10000))
    else count

/-- `(price.ln() / 1.0001_f64.ln()).floor() as i32` of the squared root price, over exact numbers:
the greatest tick whose power of 1.0001 is at most the price. -/
def sqrtPriceToTick (sqrtPrice : ℚ) : Int :=
  let price := sqrtPrice * sqrtPrice
  let tick : Int :=
    if 1 ≤ price then ticksBelow price (10000 * ⌈price⌉.toNat) 0 1
    else
      let inverse := 1 / price
      let count := ticksBelow inverse (10000 * ⌈inverse⌉.toNat) 0 1
      if (10001 / 10000 : ℚ) ^ count = inverse then -count else -(count + 1)
  max (-2 ^ 31) (min tick (2 ^ 31 - 1))

def v3PriceImpactBps (sqrtBefore sqrtAfter : ℚ) : Nat :=
  let priceBefore := sqrtBefore * sqrtBefore
  let priceAfter := sqrtAfter * sqrtAfter
  if priceBefore ≤ 0 then 10000
  else asU64 ⌊max (min (|priceAfter - priceBefore| / priceBefore * 10000) 10000) 0⌋

namespace V3PoolState

/-- Price movement and output of an exact input `amount` (fee already taken) at constant
liquidity, towards the lower price when token0 is sold. -/
def exactInMove (zeroForOne : Bool) (liquidity sqrtBefore amount : ℚ) : ℚ × ℚ :=
  if zeroForOne then
    let sqrtAfter := liquidity * sqrtBefore / (liquidity + amount * sqrtBefore)
    (sqrtAfter, liquidity * (sqrtBefore - sqrtAfter))
  else
    let sqrtAfter := sqrtBefore + amount / liquidity
    (sqrtAfter, liquidity * (1 / sqrtBefore - 1 / sqrtAfter))

def amountLessFee (pool : V3PoolState) (amountIn : Nat) : Nat :=
  u256Mul amountIn (10000 - pool.feeBps) / 10000

def sqrtPrice (pool : V3PoolState) : ℚ := pool.sqrtPriceX96 / q96

def simulateExactIn (pool : V3PoolState) (tokenIn tokenOut : Address) (amountIn : Nat) :
    Option (V3PoolState × V3SwapResult) := do
  let zeroForOne := decide (tokenIn = pool.token0 ∧ tokenOut = pool.token1)
  let oneForZero := decide (tokenIn = pool.token1 ∧ tokenOut = pool.token0)
  if amountIn = 0 ∨ pool.liquidity = 0 then none
  else if !zeroForOne && !oneForZero then none
  else if pool.sqrtPrice ≤ 0 then none
  else
    let (sqrtAfter, out) := exactInMove zeroForOne pool.liquidity pool.sqrtPrice (pool.amountLessFee amountIn)
    if out ≤ 0 then none
    else
      let sqrtPriceX96After ← toU256Rounded (sqrtAfter * q96)
      let tickAfter := sqrtPriceToTick sqrtAfter
      let amountOut ← toU256Rounded out
      some ({ pool with
          sqrtPriceX96 := sqrtPriceX96After
          currentTick := tickAfter
          liquidity := applyCrossedTickLiquidity pool.liquidity pool.currentTick tickAfter pool.initializedTicks },
        { amountIn := amountIn
          amountOut := amountOut
          sqrtPriceX96After := sqrtPriceX96After
          tickAfter := tickAfter
          priceImpactBps := v3PriceImpactBps pool.sqrtPrice sqrtAfter })

/-- What an accepted swap says about the pool and the amount it pays. -/
theorem simulateExactIn_spec {pool next : V3PoolState} {tokenIn tokenOut : Address} {amountIn : Nat}
    {result : V3SwapResult} (swapped : pool.simulateExactIn tokenIn tokenOut amountIn = some (next, result)) :
    0 < pool.liquidity ∧ 0 < pool.sqrtPrice ∧
      ((tokenIn = pool.token0 ∧ tokenOut = pool.token1) ∨ (tokenIn = pool.token1 ∧ tokenOut = pool.token0)) ∧
      result.amountOut = (Rounding.halfEven (exactInMove (decide (tokenIn = pool.token0 ∧ tokenOut = pool.token1))
        pool.liquidity pool.sqrtPrice (pool.amountLessFee amountIn)).2).toNat := by
  unfold simulateExactIn at swapped
  dsimp only at swapped
  split at swapped
  · exact absurd swapped (by simp)
  · rename_i sized
    split at swapped
    · exact absurd swapped (by simp)
    · rename_i direction
      split at swapped
      · exact absurd swapped (by simp)
      · rename_i priced
        split at swapped
        · exact absurd swapped (by simp)
        · obtain ⟨sqrtPriceX96After, _, swapped⟩ := Option.bind_eq_some_iff.mp swapped
          obtain ⟨amountOut, rounded, swapped⟩ := Option.bind_eq_some_iff.mp swapped
          cases Option.some.inj swapped
          refine ⟨by omega, not_le.mp priced, ?_, ?_⟩
          · by_contra neither
            rw [not_or] at neither
            exact direction (by simp [neither.1, neither.2])
          · unfold toU256Rounded at rounded
            split at rounded
            · exact absurd rounded (by simp)
            · split at rounded
              · exact (Option.some.inj rounded).symm
              · exact absurd rounded (by simp)

end V3PoolState

end ArbitrageRuntime
