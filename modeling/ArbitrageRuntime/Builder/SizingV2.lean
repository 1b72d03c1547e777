import ArbitrageRuntime.Lib.Collect
import ArbitrageRuntime.Builder.Payload
import ArbitrageRuntime.Builder.Units
import Mathlib.Tactic.Ring

namespace ArbitrageRuntime

/-- The hop loop of the route quote. A pool with no fee of its own trades at the fallback fee. -/
def quoteHops (fallbackFeeBps : Nat) : Nat → List Address → List V2PoolState → Option Nat
  | amount, _, [] => some amount
  | amount, tokenIn :: tokenOut :: rest, pool :: pools => do
    let (reserveIn, reserveOut) ← pool.reservesFor tokenIn tokenOut
    let next ← amountOutExactIn amount reserveIn reserveOut
      (if pool.feeBps = 0 then fallbackFeeBps else pool.feeBps)
    quoteHops fallbackFeeBps next (tokenOut :: rest) pools
  | _, _, _ :: _ => none

def quoteV2RouteExactIn (amountIn : Nat) (routePath : List Address) (routePools : List V2PoolState)
    (fallbackFeeBps : Nat) : Option Nat :=
  if routePath.length < 2 ∨ routePools.length + 1 ≠ routePath.length then none
  else quoteHops fallbackFeeBps amountIn routePath routePools

def v2RepaymentAmountInProfitToken (borrowReserve profitReserve borrowedAmount : Nat) : Option Nat :=
  if borrowedAmount = 0 ∨ borrowReserve = 0 ∨ profitReserve = 0 ∨ borrowReserve ≤ borrowedAmount then none
  else
    let numerator := u256Mul (u256Mul profitReserve borrowedAmount) 1000
    let denominator := u256Mul (borrowReserve - borrowedAmount) 997
    if denominator = 0 then none else some (u256Add (numerator / denominator) 1)

/-- The arguments of the V2 sizing loop that do not change from one fraction to the next. -/
structure V2SizingInput where
  borrowReserve : Nat
  profitReserve : Nat
  routePath : List Address
  routePools : List V2PoolState
  capitalCap : Nat
  profitToken : Address
  gasCostWei : Nat
  feeBps : Nat
  scavenger : Bool

namespace V2SizingInput

def netOf (sizing : V2SizingInput) (grossNativeWei : Nat) : Nat :=
  if sizing.scavenger then grossNativeWei else grossNativeWei - sizing.gasCostWei

/-- The candidate that a profitable size is recorded as. -/
def pushed (sizing : V2SizingInput) (bps amountIn amountOut grossNativeWei repayment repaymentNativeWei : Nat) :
    SizeCandidate where
  capitalFractionBps := bps
  amountIn := amountIn
  amountOut := amountOut
  grossProfitWei := grossNativeWei
  netProfitWei := sizing.netOf grossNativeWei
  roiBps :=
    if repayment = 0 then 0
    else min (u256Mul (sizing.netOf grossNativeWei) 10000 / repaymentNativeWei) u64Max
  selfSlippageBps := priceImpactBps amountIn amountOut sizing.borrowReserve sizing.profitReserve

/-- One fraction of the sizing loop: skipped, pushed, or a division by a repayment that is worth
less than one native wei. -/
def candidate (config : Config) (sizing : V2SizingInput) (bps : Nat) :
    Except BuildStop (Option SizeCandidate) :=
  let amountIn := u256Mul sizing.capitalCap bps / 10000
  if amountIn = 0 ∨ sizing.borrowReserve ≤ amountIn then .ok none
  else
    match quoteV2RouteExactIn amountIn sizing.routePath sizing.routePools sizing.feeBps,
        v2RepaymentAmountInProfitToken sizing.borrowReserve sizing.profitReserve amountIn with
    | some amountOut, some repayment =>
      match tokenAmountToNativeWei config sizing.profitToken (amountOut - repayment) with
      | none => .ok none
      | some grossNativeWei =>
        let netNativeWei := sizing.netOf grossNativeWei
        if netNativeWei = 0 then .ok none
        else
          match tokenAmountToNativeWei config sizing.profitToken repayment with
          | none => .ok none
          | some repaymentNativeWei =>
            if repayment ≠ 0 ∧ repaymentNativeWei = 0 then .error .divisionByZero
            else .ok (some
              (sizing.pushed bps amountIn amountOut grossNativeWei repayment repaymentNativeWei))
    | _, _ => .ok none

end V2SizingInput

def feeExtractionV2SizeCandidates (config : Config) (sizing : V2SizingInput) (fractionsBps : List Nat) :
    Except BuildStop (List SizeCandidate) :=
  if sizing.capitalCap = 0 ∨ sizing.borrowReserve = 0 ∨ sizing.profitReserve = 0 then .ok []
  else Collect.collect (sizing.candidate config) fractionsBps

def selectScavengerV2Candidate (candidates : List SizeCandidate) : Option SizeCandidate :=
  PickMax.pickMax SizeCandidate.grossProfitWei (candidates.filter fun candidate =>
    candidate.amountIn ≠ 0 ∧ candidate.grossProfitWei ≠ 0 ∧ candidate.selfSlippageBps ≤ 2500)

theorem v2RepaymentAmountInProfitToken_eq {borrowReserve profitReserve borrowed : Nat} (lent : 0 < borrowed)
    (enough : borrowed < borrowReserve) (small : borrowReserve < 2 ^ 240) (profit : 0 < profitReserve) :
    v2RepaymentAmountInProfitToken borrowReserve profitReserve borrowed =
      some (min (profitReserve * borrowed * 1000) u256Max / ((borrowReserve - borrowed) * 997) + 1) := by
  have top : u256Max = 2 ^ 256 - 1 := rfl
  have denominator : u256Mul (borrowReserve - borrowed) 997 = (borrowReserve - borrowed) * 997 :=
    Saturating.mul_eq (by omega)
  have guard : ¬ (borrowed = 0 ∨ borrowReserve = 0 ∨ profitReserve = 0 ∨ borrowReserve ≤ borrowed) := by omega
  have positive : 0 < (borrowReserve - borrowed) * 997 := by omega
  have numerator : u256Mul (u256Mul profitReserve borrowed) 1000 = min (profitReserve * borrowed * 1000) u256Max :=
    Saturating.mul_mul (by omega)
  have quotient : min (profitReserve * borrowed * 1000) u256Max / ((borrowReserve - borrowed) * 997) ≤
      u256Max / 997 := by
    calc min (profitReserve * borrowed * 1000) u256Max / ((borrowReserve - borrowed) * 997)
        ≤ u256Max / ((borrowReserve - borrowed) * 997) := Nat.div_le_div_right (Nat.min_le_right _ _)
      _ ≤ u256Max / 997 := Nat.div_le_div_left (by omega) (by omega)
  have rounded : u256Add (min (profitReserve * borrowed * 1000) u256Max / ((borrowReserve - borrowed) * 997)) 1 =
      min (profitReserve * borrowed * 1000) u256Max / ((borrowReserve - borrowed) * 997) + 1 :=
    Saturating.add_eq (by omega)
  rw [v2RepaymentAmountInProfitToken, if_neg guard]
  simp only [numerator, denominator, if_neg positive.ne', rounded]

/-- What a pushed candidate says about its fraction. -/
theorem V2SizingInput.candidate_spec {config : Config} {sizing : V2SizingInput} {bps : Nat} {size : SizeCandidate}
    (pushed : sizing.candidate config bps = .ok (some size)) :
    ∃ repayment, size.amountIn = u256Mul sizing.capitalCap bps / 10000 ∧ size.capitalFractionBps = bps ∧
      size.amountIn ≠ 0 ∧ size.amountIn < sizing.borrowReserve ∧
      quoteV2RouteExactIn size.amountIn sizing.routePath sizing.routePools sizing.feeBps = some size.amountOut ∧
      v2RepaymentAmountInProfitToken sizing.borrowReserve sizing.profitReserve size.amountIn = some repayment ∧
      tokenAmountToNativeWei config sizing.profitToken (size.amountOut - repayment) = some size.grossProfitWei ∧
      size.netProfitWei = sizing.netOf size.grossProfitWei ∧ size.netProfitWei ≠ 0 := by
  unfold candidate at pushed
  dsimp only at pushed
  split at pushed
  · simp at pushed
  · rename_i sized
    rw [not_or, not_le] at sized
    split at pushed
    · rename_i amountOut repayment quoted repaid
      split at pushed
      · simp at pushed
      · rename_i grossNativeWei valued
        split at pushed
        · simp at pushed
        · rename_i netNonzero
          split at pushed
          · simp at pushed
          · split at pushed
            · simp at pushed
            · cases Option.some.inj (Except.ok.inj pushed)
              exact ⟨repayment, rfl, rfl, sized.1, sized.2, quoted, repaid, valued, rfl, netNonzero⟩
    · simp at pushed

/-- A size that is sold and repaid with a positive profit is pushed. -/
theorem V2SizingInput.candidate_pushes {config : Config} {sizing : V2SizingInput}
    {bps amountOut repayment gross repaymentNativeWei : Nat}
    (sized : u256Mul sizing.capitalCap bps / 10000 ≠ 0)
    (enough : u256Mul sizing.capitalCap bps / 10000 < sizing.borrowReserve)
    (quoted : quoteV2RouteExactIn (u256Mul sizing.capitalCap bps / 10000) sizing.routePath sizing.routePools
      sizing.feeBps = some amountOut)
    (repaid : v2RepaymentAmountInProfitToken sizing.borrowReserve sizing.profitReserve
      (u256Mul sizing.capitalCap bps / 10000) = some repayment)
    (valued : tokenAmountToNativeWei config sizing.profitToken (amountOut - repayment) = some gross)
    (positive : sizing.netOf gross ≠ 0)
    (repaymentValued : tokenAmountToNativeWei config sizing.profitToken repayment = some repaymentNativeWei)
    (repaymentWorth : repaymentNativeWei ≠ 0) :
    sizing.candidate config bps = .ok (some (sizing.pushed bps (u256Mul sizing.capitalCap bps / 10000) amountOut
      gross repayment repaymentNativeWei)) := by
  have guard : ¬ (u256Mul sizing.capitalCap bps / 10000 = 0 ∨
      sizing.borrowReserve ≤ u256Mul sizing.capitalCap bps / 10000) := by
    rw [not_or, not_le]
    exact ⟨sized, enough⟩
  have divides : ¬ (repayment ≠ 0 ∧ repaymentNativeWei = 0) := fun both => repaymentWorth both.2
  simp only [candidate, if_neg guard, quoted, repaid, valued, if_neg positive, repaymentValued, if_neg divides]

end ArbitrageRuntime
