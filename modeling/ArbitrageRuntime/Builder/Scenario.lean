import ArbitrageRuntime.Builder.BuildV2
import Mathlib.Tactic.Ring
import Mathlib.Tactic.NormNum

namespace ArbitrageRuntime

/-- A lending pair whose price the victim moves by one part in ten thousand, and a second pair that
pays nearly `payout` profit tokens for any number of borrowed ones. -/
structure Scenario where
  profitToken : Address
  borrowToken : Address
  distinct : profitToken ≠ borrowToken
  lot : Nat
  depth : Nat
  payout : Nat
  capital : Nat
  lotPositive : 0 < lot
  depthPositive : 0 < depth
  payoutPositive : 0 < payout
  bounded : lot * depth < 2 ^ 220
  shallow : depth < 2 ^ 220

namespace Scenario

def pairBefore (s : Scenario) : V2PoolState where
  pair := 30
  token0 := s.profitToken
  token1 := s.borrowToken
  reserve0 := 10000 * s.lot
  reserve1 := 10001 * s.depth
  feeBps := 0

def pairAfter (s : Scenario) : V2PoolState :=
  { s.pairBefore with reserve0 := 10001 * s.lot, reserve1 := 10000 * s.depth }

def secondPair (s : Scenario) : V2PoolState where
  pair := 31
  token0 := s.profitToken
  token1 := s.borrowToken
  reserve0 := s.payout
  reserve1 := 1
  feeBps := 0

def input (s : Scenario) : FeeExtractionBuildInput where
  router := 40
  pair := 30
  recipient := 12
  tokenIn := s.profitToken
  tokenOut := s.borrowToken
  victimAmountIn := s.lot
  stateBefore := .uniswapV2 s.pairBefore
  capitalAvailableWei := s.capital
  gasPriceWei := 0
  contextPriorityScore := 0
  contextToxicityScore := 0
  routeKind := .uniswapV2
  v2SwapPath := some [s.borrowToken, s.profitToken]
  v2SwapPools := [s.secondPair]

def prepared (s : Scenario) (capitalCapToken : Nat) : V2Prepared where
  poolAfter := s.pairAfter
  victimImpactBps := 0
  borrowReserve := 10000 * s.depth
  profitReserve := 10001 * s.lot
  capitalCapToken := capitalCapToken

/-- What the second pair pays for `borrowed` tokens. -/
def sale (s : Scenario) (borrowed : Nat) : Nat := borrowed * s.payout / (1 + borrowed)

/-- What the lending pair asks back for `borrowed` tokens. -/
def repayment (s : Scenario) (borrowed : Nat) : Nat :=
  10001 * s.lot * borrowed * 1000 / ((10000 * s.depth - borrowed) * 997) + 1

theorem victim_amountOut (s : Scenario) :
    amountOutExactIn s.lot (10000 * s.lot) (10001 * s.depth) 0 = some s.depth := by
  have top : u256Max = 2 ^ 256 - 1 := rfl
  have lotPositive := s.lotPositive
  have depthPositive := s.depthPositive
  have bounded := s.bounded
  have lotBound : s.lot ≤ s.lot * s.depth := Nat.le_mul_of_pos_right _ depthPositive
  have withFee : u256Mul s.lot (10000 - 0) = 10000 * s.lot := by
    rw [u256Mul, Saturating.mul_eq (by omega)]
    ring
  have numerator : u256Mul (10000 * s.lot) (10001 * s.depth) = 100010000 * (s.lot * s.depth) := by
    have product : 10000 * s.lot * (10001 * s.depth) = 100010000 * (s.lot * s.depth) := by ring
    rw [u256Mul, Saturating.mul_eq (by omega), product]
  have denominator : u256Add (u256Mul (10000 * s.lot) 10000) (10000 * s.lot) = 100010000 * s.lot := by
    have scaled : u256Mul (10000 * s.lot) 10000 = 100000000 * s.lot := by
      rw [u256Mul, Saturating.mul_eq (by omega)]
      ring
    rw [scaled, u256Add, Saturating.add_eq (by omega)]
    ring
  have guard : ¬ (s.lot = 0 ∨ 10000 * s.lot = 0 ∨ 10001 * s.depth = 0 ∨ 10000 ≤ 0) := by omega
  have quotient : 100010000 * (s.lot * s.depth) / (100010000 * s.lot) = s.depth := by
    rw [← mul_assoc]
    exact Nat.mul_div_cancel_left s.depth (by omega)
  have nonzero : ¬ 100010000 * s.lot = 0 := by omega
  rw [amountOutExactIn, if_neg guard]
  simp only [withFee, numerator, denominator, if_neg nonzero, quotient]

/-- The victim loses less than one basis point to its own price movement. -/
theorem victim_impact (s : Scenario) :
    priceImpactBps s.lot s.depth (10000 * s.lot) (10001 * s.depth) = 0 := by
  have top : u256Max = 2 ^ 256 - 1 := rfl
  have lotPositive := s.lotPositive
  have depthPositive := s.depthPositive
  have bounded := s.bounded
  have shallow := s.shallow
  have ideal : u256Mul s.lot (10001 * s.depth) / (10000 * s.lot) = 10001 * s.depth / 10000 := by
    have product : s.lot * (10001 * s.depth) = 10001 * (s.lot * s.depth) := by ring
    rw [u256Mul, Saturating.mul_eq (by omega), mul_comm 10000 s.lot]
    exact Nat.mul_div_mul_left _ _ lotPositive
  have guard : ¬ (s.lot = 0 ∨ s.depth = 0 ∨ 10000 * s.lot = 0 ∨ 10001 * s.depth = 0) := by omega
  rw [priceImpactBps, if_neg guard]
  simp only [ideal]
  split
  · rfl
  · have loss : u256Mul (10001 * s.depth / 10000 - s.depth) 10000 = (10001 * s.depth / 10000 - s.depth) * 10000 :=
      Saturating.mul_eq (by omega)
    have below : u256Mul (10001 * s.depth / 10000 - s.depth) 10000 / (10001 * s.depth / 10000) = 0 := by
      rw [loss]
      exact Nat.div_eq_of_lt (by omega)
    rw [below]
    rfl

theorem victim_swap (s : Scenario) :
    s.pairBefore.applySwapExactIn s.profitToken s.borrowToken s.lot = some (s.pairAfter,
      { amountIn := s.lot
        amountOut := s.depth
        newReserveIn := 10001 * s.lot
        newReserveOut := 10000 * s.depth
        priceImpactBps := 0 }) := by
  have top : u256Max = 2 ^ 256 - 1 := rfl
  have lotPositive := s.lotPositive
  have depthPositive := s.depthPositive
  have bounded := s.bounded
  have lotBound : s.lot ≤ s.lot * s.depth := Nat.le_mul_of_pos_right _ depthPositive
  have reserves : s.pairBefore.reservesFor s.profitToken s.borrowToken =
      some (10000 * s.lot, 10001 * s.depth) := by
    simp [V2PoolState.reservesFor, pairBefore]
  have guard : ¬ (s.lot = 0 ∨ 10000 * s.lot = 0 ∨ 10001 * s.depth = 0) := by omega
  have delivers : ¬ (s.depth = 0 ∨ 10001 * s.depth ≤ s.depth) := by omega
  have paidIn : u256Add (10000 * s.lot) s.lot = 10001 * s.lot := by
    rw [u256Add, Saturating.add_eq (by omega)]
    ring
  have paidOut : 10001 * s.depth - s.depth = 10000 * s.depth := by omega
  have fee : s.pairBefore.feeBps = 0 := rfl
  have token0 : s.profitToken = s.pairBefore.token0 := rfl
  simp only [V2PoolState.applySwapExactIn, reserves, Option.bind_eq_bind, Option.bind_some, if_neg guard, fee,
    s.victim_amountOut, if_neg delivers, paidIn, paidOut, if_pos token0, s.victim_impact]
  rfl

theorem prepareV2_ok {config : Config} (s : Scenario) {capitalCapToken : Nat}
    (capped : v2BorrowCapFromNative config s.borrowToken s.profitToken s.capital (10000 * s.depth)
      (10001 * s.lot) = some capitalCapToken) :
    prepareV2 config s.input = .ok (s.prepared capitalCapToken) := by
  have reserves : s.pairAfter.reservesFor s.borrowToken s.profitToken =
      some (10000 * s.depth, 10001 * s.lot) := by
    simp [V2PoolState.reservesFor, pairAfter, pairBefore, s.distinct]
  exact prepareV2_eq_ok.mpr ⟨s.pairBefore, _, rfl, s.victim_swap, rfl, Nat.zero_le _, reserves, capped⟩

/-- A size the scenario can lend and sell at a profit and without overflow. -/
structure Sells (s : Scenario) (borrowed : Nat) : Prop where
  positive : 0 < borrowed
  lent : borrowed < 10000 * s.depth
  saleBounded : borrowed * s.payout < 2 ^ 240
  repaymentBounded : s.lot * borrowed < 2 ^ 230
  profitable : s.repayment borrowed < s.sale borrowed
  flat : 10001 * s.lot * borrowed / (10000 * s.depth) ≤ s.sale borrowed

theorem quote (s : Scenario) {borrowed : Nat} (sells : s.Sells borrowed) :
    quoteV2RouteExactIn borrowed [s.borrowToken, s.profitToken] [s.secondPair] 0 = some (s.sale borrowed) := by
  have top : u256Max = 2 ^ 256 - 1 := rfl
  have positive := sells.positive
  have payoutPositive := s.payoutPositive
  have saleBounded := sells.saleBounded
  have borrowedBound : borrowed ≤ borrowed * s.payout := Nat.le_mul_of_pos_right _ payoutPositive
  have lengths : ¬ ([s.borrowToken, s.profitToken].length < 2 ∨
      [s.secondPair].length + 1 ≠ [s.borrowToken, s.profitToken].length) := by simp
  have reserves : s.secondPair.reservesFor s.borrowToken s.profitToken = some (1, s.payout) := by
    simp [V2PoolState.reservesFor, secondPair, s.distinct]
  have fee : (if s.secondPair.feeBps = 0 then 0 else s.secondPair.feeBps) = 0 := rfl
  have withFee : u256Mul borrowed (10000 - 0) = 10000 * borrowed := by
    rw [u256Mul, Saturating.mul_eq (by omega)]
    ring
  have numerator : u256Mul (10000 * borrowed) s.payout = 10000 * (borrowed * s.payout) := by
    have product : 10000 * borrowed * s.payout = 10000 * (borrowed * s.payout) := by ring
    rw [u256Mul, Saturating.mul_eq (by omega), product]
  have denominator : u256Add (u256Mul 1 10000) (10000 * borrowed) = 10000 * (1 + borrowed) := by
    have scaled : u256Mul 1 10000 = 10000 := Saturating.mul_eq (by omega)
    rw [scaled, u256Add, Saturating.add_eq (by omega)]
    ring
  have guard : ¬ (borrowed = 0 ∨ 1 = 0 ∨ s.payout = 0 ∨ 10000 ≤ 0) := by omega
  have nonzero : ¬ 10000 * (1 + borrowed) = 0 := by omega
  have quotient : 10000 * (borrowed * s.payout) / (10000 * (1 + borrowed)) = s.sale borrowed :=
    Nat.mul_div_mul_left _ _ (by omega)
  rw [quoteV2RouteExactIn, if_neg lengths]
  simp only [quoteHops, reserves, fee, Option.bind_eq_bind, Option.bind_some, amountOutExactIn, if_neg guard, withFee,
    numerator, denominator, if_neg nonzero, quotient]

theorem repaid (s : Scenario) {borrowed : Nat} (sells : s.Sells borrowed) :
    v2RepaymentAmountInProfitToken (10000 * s.depth) (10001 * s.lot) borrowed = some (s.repayment borrowed) := by
  have top : u256Max = 2 ^ 256 - 1 := rfl
  have lotPositive := s.lotPositive
  have shallow := s.shallow
  have product : 10001 * s.lot * borrowed * 1000 = 10001000 * (s.lot * borrowed) := by ring
  have bounded := sells.repaymentBounded
  rw [v2RepaymentAmountInProfitToken_eq sells.positive sells.lent (by omega) (by omega),
    Nat.min_eq_left (by omega : 10001 * s.lot * borrowed * 1000 ≤ u256Max)]
  rfl

theorem flat_impact (s : Scenario) {borrowed : Nat} (sells : s.Sells borrowed) :
    priceImpactBps borrowed (s.sale borrowed) (10000 * s.depth) (10001 * s.lot) = 0 := by
  have top : u256Max = 2 ^ 256 - 1 := rfl
  have positive := sells.positive
  have profitable := sells.profitable
  have bounded := sells.repaymentBounded
  have lotPositive := s.lotPositive
  have depthPositive := s.depthPositive
  have product : borrowed * (10001 * s.lot) = 10001 * s.lot * borrowed := by ring
  have scale : 10001 * s.lot * borrowed = 10001 * (s.lot * borrowed) := by ring
  have ideal : u256Mul borrowed (10001 * s.lot) = 10001 * s.lot * borrowed := by
    rw [u256Mul, Saturating.mul_eq (by omega), product]
  have guard : ¬ (borrowed = 0 ∨ s.sale borrowed = 0 ∨ 10000 * s.depth = 0 ∨ 10001 * s.lot = 0) := by omega
  rw [priceImpactBps, if_neg guard]
  simp only [ideal]
  exact if_pos (.inr sells.flat)

end Scenario

end ArbitrageRuntime
