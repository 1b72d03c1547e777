import ArbitrageRuntime.Executor.Code

namespace ArbitrageRuntime.Executor

open Interaction Interaction.Prog

variable {Data : Type} (d : Deployment Data)

section Steps

/-- What both kinds of step check once the router has answered with `reported`. -/
def checkStepOutput (tokenOut : Address) (beforeOut reported minOut stepIndex : Nat) : Exec Data Nat := do
  let afterOut ← balanceOf d tokenOut
  refuse (afterOut < beforeOut) (.stepExecutionFailed stepIndex)
  let amountOut := if reported < afterOut - beforeOut then afterOut - beforeOut else reported
  refuse (amountOut < minOut) (.stepExecutionFailed stepIndex)
  .done amountOut

def executeV2Step (msg : Message) (step : V2SwapStep) (stepIndex : Nat) : Exec Data Nat :=
  match step.path.head?, step.path.getLast? with
  | some tokenIn, some tokenOut => do
    let amountIn ← currentAmountIn d step.amountIn tokenIn
    refuse (amountIn = 0) .zeroAmount
    forceApprove d tokenIn step.router amountIn
    let beforeOut ← balanceOf d tokenOut
    let amounts ← swapExactTokensForTokens step.router amountIn step.minOut step.path d.self msg.timestamp
    match amounts.getLast? with
    | none => .fail (.stepExecutionFailed stepIndex)
    | some reported => checkStepOutput d tokenOut beforeOut reported step.minOut stepIndex
  | _, _ => .fail .indexPanic

/-- Twenty bytes as an address. -/
def addressOfBytes (bytes : Bytes) : Address :=
  BitVec.ofNat 160 (bytes.foldl (fun value byte => value * 256 + byte.toNat) 0)

def v3PathTokenIn (path : Bytes) : Except Error Address :=
  if path.length < 43 then .error .invalidPath else .ok (addressOfBytes (path.take 20))

def v3PathTokenOut (path : Bytes) : Except Error Address :=
  if path.length < 43 then .error .invalidPath else .ok (addressOfBytes (path.drop (path.length - 20)))

def executeV3Step (msg : Message) (step : V3SwapStep) (stepIndex : Nat) : Exec Data Nat := do
  let tokenIn ← ofExcept (v3PathTokenIn step.path)
  let tokenOut ← ofExcept (v3PathTokenOut step.path)
  let amountIn ← currentAmountIn d step.amountIn tokenIn
  refuse (amountIn = 0) .zeroAmount
  forceApprove d tokenIn step.router amountIn
  let beforeOut ← balanceOf d tokenOut
  let reported ← exactInput step.router step.path d.self msg.timestamp amountIn step.minOut
  checkStepOutput d tokenOut beforeOut reported step.minOut stepIndex

/-- What both kinds of step do once their tokens are known, with the router's swap left open. -/
def routedStep (router tokenIn tokenOut : Address) (requestedAmount minOut stepIndex : Nat)
    (swap : Nat → Exec Data Nat) : Exec Data Nat := do
  let amountIn ← currentAmountIn d requestedAmount tokenIn
  refuse (amountIn = 0) .zeroAmount
  forceApprove d tokenIn router amountIn
  let beforeOut ← balanceOf d tokenOut
  let reported ← swap amountIn
  checkStepOutput d tokenOut beforeOut reported minOut stepIndex

/-- The last amount a V2 router reports. -/
def lastReported (stepIndex : Nat) (amounts : List Nat) : Exec Data Nat :=
  match amounts.getLast? with
  | none => .fail (.stepExecutionFailed stepIndex)
  | some reported => .done reported

theorem executeV2Step_eq_routed {step : V2SwapStep} {tokenIn tokenOut : Address}
    (first : step.path.head? = some tokenIn) (last : step.path.getLast? = some tokenOut) (msg : Message) (stepIndex : Nat) :
    executeV2Step d msg step stepIndex =
      routedStep d step.router tokenIn tokenOut step.amountIn step.minOut stepIndex fun amountIn =>
        swapExactTokensForTokens step.router amountIn step.minOut step.path d.self msg.timestamp >>=
          lastReported stepIndex := by
  unfold executeV2Step routedStep
  rw [first, last]
  simp only [Prog.bind_assoc]
  refine bind_congr fun amountIn => bind_congr fun _ => bind_congr fun _ => bind_congr fun beforeOut => ?_
  refine bind_congr fun amounts => ?_
  unfold lastReported
  cases amounts.getLast? with
  | none => rfl
  | some reported => rfl

theorem executeV3Step_eq_routed {step : V3SwapStep} {tokenIn tokenOut : Address}
    (first : v3PathTokenIn step.path = .ok tokenIn) (last : v3PathTokenOut step.path = .ok tokenOut) (msg : Message)
    (stepIndex : Nat) :
    executeV3Step d msg step stepIndex =
      routedStep d step.router tokenIn tokenOut step.amountIn step.minOut stepIndex fun amountIn =>
        exactInput step.router step.path d.self msg.timestamp amountIn step.minOut := by
  unfold executeV3Step
  rw [first, last]
  rfl

/-- A V2 step without tokens fails, and any other one is routed. -/
theorem executeV2Step_cases (msg : Message) (step : V2SwapStep) (stepIndex : Nat) :
    (¬ (∃ tokenIn tokenOut, step.path.head? = some tokenIn ∧ step.path.getLast? = some tokenOut) ∧
      executeV2Step d msg step stepIndex = .fail .indexPanic) ∨
    ∃ tokenIn tokenOut, step.path.head? = some tokenIn ∧ step.path.getLast? = some tokenOut ∧
      executeV2Step d msg step stepIndex =
        routedStep d step.router tokenIn tokenOut step.amountIn step.minOut stepIndex fun amountIn =>
          swapExactTokensForTokens step.router amountIn step.minOut step.path d.self msg.timestamp >>=
            lastReported stepIndex := by
  by_cases named : ∃ tokenIn tokenOut, step.path.head? = some tokenIn ∧ step.path.getLast? = some tokenOut
  · obtain ⟨tokenIn, tokenOut, first, last⟩ := named
    exact .inr ⟨tokenIn, tokenOut, first, last, executeV2Step_eq_routed d first last msg stepIndex⟩
  · refine .inl ⟨named, ?_⟩
    unfold executeV2Step
    split
    · rename_i tokenIn tokenOut first last
      exact absurd ⟨tokenIn, tokenOut, first, last⟩ named
    · rfl

/-- A V3 step with a short path fails, and any other one is routed. -/
theorem executeV3Step_cases (msg : Message) (step : V3SwapStep) (stepIndex : Nat) :
    (v3PathTokenIn step.path = .error .invalidPath ∧ executeV3Step d msg step stepIndex = .fail .invalidPath) ∨
    ∃ tokenIn tokenOut, v3PathTokenIn step.path = .ok tokenIn ∧ v3PathTokenOut step.path = .ok tokenOut ∧
      executeV3Step d msg step stepIndex =
        routedStep d step.router tokenIn tokenOut step.amountIn step.minOut stepIndex fun amountIn =>
          exactInput step.router step.path d.self msg.timestamp amountIn step.minOut := by
  by_cases short : step.path.length < 43
  · have first : v3PathTokenIn step.path = .error .invalidPath := if_pos short
    refine .inl ⟨first, ?_⟩
    unfold executeV3Step
    rw [first]
    rfl
  · have first : v3PathTokenIn step.path = .ok _ := if_neg short
    have last : v3PathTokenOut step.path = .ok _ := if_neg short
    exact .inr ⟨_, _, first, last, executeV3Step_eq_routed d first last msg stepIndex⟩

/-- The step loop, from step `stepIndex` on. -/
def runV2Steps (msg : Message) : Nat → List V2SwapStep → Exec Data Unit
  | _, [] => .done ()
  | stepIndex, step :: rest => do
    let _ ← executeV2Step d msg step stepIndex
    runV2Steps msg (stepIndex + 1) rest

def runV3Steps (msg : Message) : Nat → List V3SwapStep → Exec Data Unit
  | _, [] => .done ()
  | stepIndex, step :: rest => do
    let _ ← executeV3Step d msg step stepIndex
    runV3Steps msg (stepIndex + 1) rest

end Steps

section Settlement

def v2RepaymentAmount (borrowedAmount : Nat) : Exec Data Nat := do
  let scaled ← checkedMul borrowedAmount 1000
  checkedAdd (scaled / 997) 1

def v2RepaymentAmountIn (pair borrowedToken repaymentToken : Address) (borrowedAmount : Nat) : Exec Data Nat :=
  if repaymentToken = borrowedToken then v2RepaymentAmount borrowedAmount
  else do
    let first ← token0 pair
    let second ← token1 pair
    refuse (¬ ((borrowedToken = first ∧ repaymentToken = second) ∨
      (borrowedToken = second ∧ repaymentToken = first))) .unsupportedBorrowToken
    let (reserve0, reserve1) ← getReserves pair
    let reserveIn := if repaymentToken = first then reserve0 else reserve1
    let reserveOut := if borrowedToken = first then reserve0 else reserve1
    refuse (reserveOut ≤ borrowedAmount) .repaymentFailed
    let product ← checkedMul reserveIn borrowedAmount
    let numerator ← checkedMul product 1000
    let denominator ← checkedMul (reserveOut - borrowedAmount) 997
    checkedAdd (numerator / denominator) 1

def settleV2PairDebt (ctx : V2CallbackContext) (amount0 amount1 : Nat) : Exec Data Nat := do
  let reported := if 0 < amount0 then amount0 else amount1
  let borrowedAmount := if reported = 0 then ctx.borrowAmount else reported
  let repaymentAmount ← v2RepaymentAmountIn ctx.pair ctx.borrowToken ctx.profitToken borrowedAmount
  transferToken ctx.profitToken ctx.pair repaymentAmount
  .done repaymentAmount

/-- Pays one positive delta of the pool and nothing for the other. -/
def payDelta (token pool : Address) (delta : Int) : Exec Data Nat :=
  if 0 < delta then do
    transferToken token pool delta.toNat
    .done delta.toNat
  else .done 0

def settleV3PoolDebt (ctx : V3CallbackContext) (amount0Delta amount1Delta : Int) : Exec Data Nat := do
  let first ← token0 ctx.pool
  let second ← token1 ctx.pool
  let owed0 ← payDelta first ctx.pool amount0Delta
  let owed1 ← payDelta second ctx.pool amount1Delta
  checkedAdd owed0 owed1

def finalizeExecution (profitToken profitRecipient : Address) (grossProfit : Nat) : Exec Data Nat := do
  if 0 < grossProfit ∧ profitRecipient ≠ d.self then
    transferToken profitToken profitRecipient grossProfit
  let s ← read
  write { s with executionInProgress := false, activeExecutionId := 0, opening := none }
  .done grossProfit

/-- The profit check that ends both callbacks. -/
def checkMinProfit (netProfit minProfit : Nat) : Exec Data Unit :=
  refuse (netProfit < minProfit) (.profitBelowMinimum netProfit minProfit)

/-- From the settled debt to the end of the callback, given the balance sampled at its beginning. -/
def closeExecution (profitToken profitRecipient : Address) (minProfit preProfitBalance : Nat) : Exec Data Nat := do
  let postProfitBalance ← balanceOf d profitToken
  let grossProfit := if preProfitBalance < postProfitBalance then postProfitBalance - preProfitBalance else 0
  let netProfit ← finalizeExecution d profitToken profitRecipient grossProfit
  checkMinProfit netProfit minProfit
  .done netProfit

end Settlement

section Callbacks

def v2Guards (s : Storage Data) (msg : Message) (sender : Address) (data : Data) :
    Except Error V2CallbackContext :=
  if s.executionInProgress = false then .error .noExecutionInProgress
  else if sender ≠ d.self then .error .invalidCaller
  else
    match d.decodeV2 data with
    | none => .error .abiDecoding
    | some ctx =>
      if ctx.executionId ≠ s.activeExecutionId then .error .unknownExecution
      else if msg.sender ≠ ctx.pair then .error .invalidExecutionSource
      else .ok ctx

/-- Unlike the V2 guards, these have no initiator to compare. -/
def v3Guards (s : Storage Data) (msg : Message) (data : Data) : Except Error V3CallbackContext :=
  if s.executionInProgress = false then .error .noExecutionInProgress
  else
    match d.decodeV3 data with
    | none => .error .abiDecoding
    | some ctx =>
      if ctx.executionId ≠ s.activeExecutionId then .error .unknownExecution
      else if msg.sender ≠ ctx.pool then .error .invalidExecutionSource
      else .ok ctx

theorem v2Guards_eq_ok {d : Deployment Data} {s : Storage Data} {msg : Message} {sender : Address} {data : Data}
    {ctx : V2CallbackContext} :
    v2Guards d s msg sender data = .ok ctx ↔
      s.executionInProgress = true ∧ sender = d.self ∧ d.decodeV2 data = some ctx ∧
        ctx.executionId = s.activeExecutionId ∧ msg.sender = ctx.pair := by
  unfold v2Guards
  constructor
  · intro passes
    split at passes
    · exact absurd passes (by simp)
    · rename_i inProgress
      split at passes
      · exact absurd passes (by simp)
      · rename_i initiator
        split at passes
        · exact absurd passes (by simp)
        · rename_i decoded eq
          split at passes
          · exact absurd passes (by simp)
          · rename_i sameId
            split at passes
            · exact absurd passes (by simp)
            · rename_i source
              cases Except.ok.inj passes
              exact ⟨by simpa using inProgress, not_ne_iff.mp initiator, eq, not_ne_iff.mp sameId, not_ne_iff.mp source⟩
  · rintro ⟨inProgress, initiator, decoded, sameId, source⟩
    simp [inProgress, initiator, decoded, sameId, source]

theorem v3Guards_eq_ok {d : Deployment Data} {s : Storage Data} {msg : Message} {data : Data}
    {ctx : V3CallbackContext} :
    v3Guards d s msg data = .ok ctx ↔
      s.executionInProgress = true ∧ d.decodeV3 data = some ctx ∧
        ctx.executionId = s.activeExecutionId ∧ msg.sender = ctx.pool := by
  unfold v3Guards
  constructor
  · intro passes
    split at passes
    · exact absurd passes (by simp)
    · rename_i inProgress
      split at passes
      · exact absurd passes (by simp)
      · rename_i decoded eq
        split at passes
        · exact absurd passes (by simp)
        · rename_i sameId
          split at passes
          · exact absurd passes (by simp)
          · rename_i source
            cases Except.ok.inj passes
            exact ⟨by simpa using inProgress, eq, not_ne_iff.mp sameId, not_ne_iff.mp source⟩
  · rintro ⟨inProgress, decoded, sameId, source⟩
    simp [inProgress, decoded, sameId, source]

/-- The part of the V2 callback between the guards and the repaid debt, with the balance it samples. -/
def tradeV2 (msg : Message) (ctx : V2CallbackContext) (amount0 amount1 : Nat) : Exec Data Nat := do
  let preProfitBalance ← balanceOf d ctx.profitToken
  runV2Steps d msg 0 ctx.steps
  let _ ← settleV2PairDebt ctx amount0 amount1
  .done preProfitBalance

def tradeV3 (msg : Message) (ctx : V3CallbackContext) (amount0Delta amount1Delta : Int) : Exec Data Nat := do
  let preProfitBalance ← balanceOf d ctx.profitToken
  runV3Steps d msg 0 ctx.steps
  let _ ← settleV3PoolDebt ctx amount0Delta amount1Delta
  .done preProfitBalance

/-- The V2 callback behind its guards. It returns the net profit, which the source only emits. -/
def v2Body (msg : Message) (ctx : V2CallbackContext) (amount0 amount1 : Nat) : Exec Data Nat := do
  let preProfitBalance ← tradeV2 d msg ctx amount0 amount1
  closeExecution d ctx.profitToken ctx.profitRecipient ctx.minProfit preProfitBalance

def v3Body (msg : Message) (ctx : V3CallbackContext) (amount0Delta amount1Delta : Int) : Exec Data Nat := do
  let preProfitBalance ← tradeV3 d msg ctx amount0Delta amount1Delta
  closeExecution d ctx.profitToken ctx.profitRecipient ctx.minProfit preProfitBalance

def uniswapV2Call (msg : Message) (sender : Address) (amount0 amount1 : Nat) (data : Data) : Exec Data Unit := do
  let s ← read
  let ctx ← ofExcept (v2Guards d s msg sender data)
  let _ ← v2Body d msg ctx amount0 amount1
  .done ()

def uniswapV3SwapCallback (msg : Message) (amount0Delta amount1Delta : Int) (data : Data) : Exec Data Unit := do
  let s ← read
  let ctx ← ofExcept (v3Guards d s msg data)
  let _ ← v3Body d msg ctx amount0Delta amount1Delta
  .done ()

end Callbacks

def body (call : Call Data) : Exec Data Unit :=
  match call.entry with
  | .transferOwnership newOwner => transferOwnership call.msg newOwner
  | .setAuthorizedOperator operator allowed => setAuthorizedOperator call.msg operator allowed
  | .setAllowedV2Pair pair allowed => setAllowedV2Pair call.msg pair allowed
  | .setAllowedV2Pairs pairs allowed => setAllowedV2Pairs call.msg pairs allowed
  | .setAllowedV3Pool pool allowed => setAllowedV3Pool call.msg pool allowed
  | .setAllowedV3Pools pools allowed => setAllowedV3Pools call.msg pools allowed
  | .setAllowedRouter router allowed => setAllowedRouter call.msg router allowed
  | .setAllowedRouters routers allowed => setAllowedRouters call.msg routers allowed
  | .setAllowedBorrowToken token allowed => setAllowedBorrowToken call.msg token allowed
  | .setAllowedBorrowTokens tokens allowed => setAllowedBorrowTokens call.msg tokens allowed
  | .setAllowedFeeTier feeTier allowed => setAllowedFeeTier call.msg feeTier allowed
  | .setAllowedFeeTiers feeTiers allowed => setAllowedFeeTiers call.msg feeTiers allowed
  | .rescueToken token recipient amount => rescueToken call.msg token recipient amount
  | .rescueNative recipient amount => rescueNative call.msg recipient amount
  | .startV2FlashSwap pair borrowToken borrowAmount minProfit profitToken profitRecipient steps =>
    startV2FlashSwap d call.msg pair borrowToken borrowAmount minProfit profitToken profitRecipient steps
  | .startV3FlashSwap pool borrowToken borrowAmount feeTier minProfit profitToken profitRecipient steps =>
    startV3FlashSwap d call.msg pool borrowToken borrowAmount feeTier minProfit profitToken profitRecipient steps
  | .uniswapV2Call sender amount0 amount1 data => uniswapV2Call d call.msg sender amount0 amount1 data
  | .uniswapV3SwapCallback amount0Delta amount1Delta data =>
    uniswapV3SwapCallback d call.msg amount0Delta amount1Delta data

/-- The executor among the contracts it trades with. Only the native transfer reports failure instead
of passing it on. -/
def contract : CallMachine.Contract (Storage Data) (@Reply Data) Error (Call Data) where
  body := body d
  static := Request.isView
  refused
    | .sendNative .. => some false
    | _ => none

end ArbitrageRuntime.Executor
