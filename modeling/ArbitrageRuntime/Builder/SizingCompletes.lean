import ArbitrageRuntime.Builder.SizingV2

namespace ArbitrageRuntime

namespace V2SizingInput

/-- A fraction whose size is lent by the victim's pool, sold along the route and repaid. -/
structure Evaluates (sizing : V2SizingInput) (bps amountIn amountOut repayment : Nat) : Prop where
  size : amountIn = u256Mul sizing.capitalCap bps / 10000
  nonzero : amountIn ≠ 0
  lent : amountIn < sizing.borrowReserve
  sold : quoteV2RouteExactIn amountIn sizing.routePath sizing.routePools sizing.feeBps = some amountOut
  repaid : v2RepaymentAmountInProfitToken sizing.borrowReserve sizing.profitReserve amountIn = some repayment

/-- The gas that a size has to earn before it counts, in native wei. -/
def owedWei (sizing : V2SizingInput) : Nat := if sizing.scavenger then 0 else sizing.gasCostWei

/-- The size earns at least a native wei, and its whole repayment is worth less than one. -/
def RepaymentBelowOneWei (config : Config) (sizing : V2SizingInput) (bps : Nat) : Prop :=
  ∃ amountIn amountOut repayment token, sizing.Evaluates bps amountIn amountOut repayment ∧
    tokenMetadata config sizing.profitToken = some token ∧
    (sizing.owedWei + 1 : ℚ) ≤ (amountOut - repayment : Nat) * token.weiPerUnit ∧
    (amountOut - repayment : Nat) * token.weiPerUnit < u256Max + 1 ∧ repayment * token.weiPerUnit < 1

variable {config : Config} {sizing : V2SizingInput} {bps amountIn amountOut repayment : Nat}

theorem Evaluates.unique {amountIn' amountOut' repayment' : Nat}
    (first : sizing.Evaluates bps amountIn amountOut repayment)
    (second : sizing.Evaluates bps amountIn' amountOut' repayment') :
    amountIn' = amountIn ∧ amountOut' = amountOut ∧ repayment' = repayment := by
  have same : amountIn' = amountIn := second.size.trans first.size.symm
  subst same
  exact ⟨rfl, Option.some.inj (second.sold.symm.trans first.sold),
    Option.some.inj (second.repaid.symm.trans first.repaid)⟩

/-- A repayment is never zero: it is rounded up by one. -/
theorem Evaluates.repayment_ne_zero (evaluates : sizing.Evaluates bps amountIn amountOut repayment) :
    repayment ≠ 0 := by
  have repaid := evaluates.repaid
  unfold v2RepaymentAmountInProfitToken at repaid
  split at repaid
  · exact absurd repaid (by simp)
  · dsimp only at repaid
    split at repaid
    · exact absurd repaid (by simp)
    · rw [← Option.some.inj repaid]
      exact (Nat.lt_min.mpr ⟨Nat.succ_pos _, by decide⟩).ne'

theorem Evaluates.not_idle (evaluates : sizing.Evaluates bps amountIn amountOut repayment) :
    ¬ (sizing.capitalCap = 0 ∨ sizing.borrowReserve = 0 ∨ sizing.profitReserve = 0) := by
  have size := evaluates.size
  have nonzero := evaluates.nonzero
  have lent := evaluates.lent
  have repaid := evaluates.repaid
  rintro (capital | borrow | profit)
  · simp only [capital, u256Mul, Saturating.mul, Nat.zero_mul, Nat.zero_min, Nat.zero_div] at size
    exact nonzero size
  · omega
  · simp [v2RepaymentAmountInProfitToken, profit] at repaid

theorem netOf_ne_zero_iff {grossNativeWei : Nat} :
    sizing.netOf grossNativeWei ≠ 0 ↔ sizing.owedWei + 1 ≤ grossNativeWei := by
  unfold netOf owedWei
  split <;> omega

theorem candidate_of_not_evaluates
    (none : ∀ amountIn amountOut repayment, ¬ sizing.Evaluates bps amountIn amountOut repayment) :
    sizing.candidate config bps = .ok .none := by
  unfold candidate
  dsimp only
  split
  · rfl
  · rename_i sized
    rw [not_or, not_le] at sized
    split
    · rename_i amountOut repayment sold repaid
      exact absurd ⟨rfl, sized.1, sized.2, sold, repaid⟩ (none _ amountOut repayment)
    · rfl

/-- What the loop does with a size once it is evaluated. -/
theorem candidate_of_evaluates (evaluates : sizing.Evaluates bps amountIn amountOut repayment) :
    sizing.candidate config bps =
      match tokenAmountToNativeWei config sizing.profitToken (amountOut - repayment),
          tokenAmountToNativeWei config sizing.profitToken repayment with
      | some gross, some repaymentNativeWei =>
        if sizing.netOf gross = 0 then .ok none
        else if repaymentNativeWei = 0 then .error .divisionByZero
        else .ok (some (sizing.pushed bps amountIn amountOut gross repayment repaymentNativeWei))
      | _, _ => .ok none := by
  have guard : ¬ (amountIn = 0 ∨ sizing.borrowReserve ≤ amountIn) := by
    rw [not_or, not_le]
    exact ⟨evaluates.nonzero, evaluates.lent⟩
  have nonzero := evaluates.repayment_ne_zero
  simp only [candidate, ← evaluates.size, if_neg guard, evaluates.sold, evaluates.repaid]
  cases tokenAmountToNativeWei config sizing.profitToken (amountOut - repayment) with
  | none => rfl
  | some gross =>
    cases tokenAmountToNativeWei config sizing.profitToken repayment with
    | none => simp only [ite_self]
    | some repaymentNativeWei => simp only [ne_eq, nonzero, not_false_eq_true, true_and]

theorem candidate_stops_iff : (∃ stop, sizing.candidate config bps = .error stop) ↔
    sizing.RepaymentBelowOneWei config bps := by
  constructor
  · rintro ⟨stop, stopped⟩
    by_cases evaluable : ∃ amountIn amountOut repayment, sizing.Evaluates bps amountIn amountOut repayment
    · obtain ⟨amountIn, amountOut, repayment, evaluates⟩ := evaluable
      rw [candidate_of_evaluates evaluates] at stopped
      split at stopped
      · rename_i gross repaymentNativeWei grossFound repaymentFound
        split at stopped
        · exact absurd stopped (by simp)
        · rename_i earns
          split at stopped
          · rename_i worthless
            subst worthless
            cases known : tokenMetadata config sizing.profitToken with
            | none => simp [tokenAmountToNativeWei, tokenAmountToNative, known] at grossFound
            | some token =>
              rw [tokenAmountToNativeWei_eq known] at grossFound repaymentFound
              obtain ⟨_, fits, lower, upper⟩ := Rounding.floorWithin_eq_some grossFound
              obtain ⟨_, _, _, small⟩ := Rounding.floorWithin_eq_some repaymentFound
              have owed : (sizing.owedWei + 1 : ℚ) ≤ gross := by exact_mod_cast netOf_ne_zero_iff.mp earns
              have top : (gross + 1 : ℚ) ≤ u256Max + 1 := by exact_mod_cast Nat.succ_le_succ fits
              refine ⟨amountIn, amountOut, repayment, token, evaluates, known, owed.trans lower, upper.trans_le top, ?_⟩
              simpa using small
          · exact absurd stopped (by simp)
      · exact absurd stopped (by simp)
    · push Not at evaluable
      rw [candidate_of_not_evaluates evaluable] at stopped
      exact absurd stopped (by simp)
  · rintro ⟨amountIn, amountOut, repayment, token, evaluates, known, earns, fits, small⟩
    have earned : (0 : ℚ) < (amountOut - repayment : Nat) * token.weiPerUnit :=
      lt_of_lt_of_le (by positivity) earns
    have price : 0 < token.weiPerUnit := pos_of_mul_pos_right earned (Nat.cast_nonneg _)
    obtain ⟨gross, grossFloor⟩ := Rounding.floorWithin_of_lt earned.le fits
    obtain ⟨_, _, _, upper⟩ := Rounding.floorWithin_eq_some grossFloor
    have enough : sizing.owedWei + 1 ≤ gross := by
      have below : (sizing.owedWei + 1 : ℚ) < gross + 1 := earns.trans_lt upper
      have cast : sizing.owedWei + 1 < gross + 1 := by exact_mod_cast below
      omega
    have worthless : toU256Floor (repayment * token.weiPerUnit) = some 0 :=
      Rounding.floorWithin_of_bounds (Nat.zero_le _) (by simpa using mul_nonneg (Nat.cast_nonneg _) price.le)
        (by simpa using small)
    have grossFound : toU256Floor ((amountOut - repayment : Nat) * token.weiPerUnit) = some gross := grossFloor
    refine ⟨.divisionByZero, ?_⟩
    rw [candidate_of_evaluates evaluates, tokenAmountToNativeWei_eq known, tokenAmountToNativeWei_eq known]
    simp only [grossFound, worthless, if_neg (netOf_ne_zero_iff.mpr enough), if_true]

end V2SizingInput

/-- The guard before the loop only saves the loop: no size evaluates behind it. -/
theorem feeExtractionV2SizeCandidates_eq_collect (config : Config) (sizing : V2SizingInput) (fractionsBps : List Nat) :
    feeExtractionV2SizeCandidates config sizing fractionsBps =
      Collect.collect (sizing.candidate config) fractionsBps := by
  unfold feeExtractionV2SizeCandidates
  split
  · rename_i idle
    refine (Collect.collect_skip fun bps _ => V2SizingInput.candidate_of_not_evaluates ?_).symm
    intro amountIn amountOut repayment evaluates
    exact evaluates.not_idle idle
  · rfl

/-- The loop completes if and only if no size that earns something is repaid with less than one native wei. Every other
divisor of the loop is a constant or is tested itself. -/
theorem feeExtractionV2SizeCandidates_completes_iff (config : Config) (sizing : V2SizingInput)
    (fractionsBps : List Nat) :
    (∃ candidates, feeExtractionV2SizeCandidates config sizing fractionsBps = .ok candidates) ↔
      ∀ bps ∈ fractionsBps, ¬ sizing.RepaymentBelowOneWei config bps := by
  rw [feeExtractionV2SizeCandidates_eq_collect, Collect.collect_completes_iff]
  refine forall₂_congr fun bps _ => ?_
  rw [← V2SizingInput.candidate_stops_iff, not_exists]

def pennyConfig : Config :=
  { testConfig with monitoredTokens := [{ address := 1, decimals := 18, priceEth := 1 / 10 ^ 8 }] }

/-- Two units of the penny token repay what the route sells for five billion of them. -/
def pennySizing : V2SizingInput where
  borrowReserve := 10 ^ 9
  profitReserve := 10 ^ 3
  routePath := [2, 1]
  routePools := [{ pair := 7, token0 := 1, token1 := 2, reserve0 := 10 ^ 10, reserve1 := 10 ^ 6, feeBps := 30 }]
  capitalCap := 10 ^ 7
  profitToken := 1
  gasCostWei := 0
  feeBps := 30
  scavenger := true

theorem pennySizing_evaluates : pennySizing.Evaluates 1000 (10 ^ 6) 4992488733 2 :=
  ⟨by decide, by decide, by decide, by decide, by decide⟩

theorem pennySizing_stops : pennySizing.candidate pennyConfig 1000 = .error .divisionByZero := by
  have gross : tokenAmountToNativeWei pennyConfig pennySizing.profitToken (4992488733 - 2) = some 49 := by
    decide +kernel
  have worthless : tokenAmountToNativeWei pennyConfig pennySizing.profitToken 2 = some 0 := by decide +kernel
  have earns : pennySizing.netOf 49 ≠ 0 := by decide
  rw [V2SizingInput.candidate_of_evaluates pennySizing_evaluates]
  simp only [gross, worthless, if_neg earns, if_true]

/-- A net profit of 49 wei is divided by a repayment of 0 wei. -/
theorem pennySizing_dividesByZero :
    feeExtractionV2SizeCandidates pennyConfig pennySizing [1000] = .error .divisionByZero := by
  rw [feeExtractionV2SizeCandidates_eq_collect, Collect.collect, pennySizing_stops]

end ArbitrageRuntime
