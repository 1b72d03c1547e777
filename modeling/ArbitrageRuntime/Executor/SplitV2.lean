import ArbitrageRuntime.Executor.Split

namespace ArbitrageRuntime.SplitV2

open Interaction Interaction.Prog Executor Split

variable {Data : Type}

/-- The storage of the V2 executor. -/
structure Storage where
  owner : Address
  authorizedOperators : Address → Bool
  allowedV2Pairs : Address → Bool
  allowedRouters : Address → Bool
  allowedBorrowTokens : Address → Bool
  activeExecutionId : Nat
  executionInProgress : Bool

/-- The flash-swap path of the V2 executor. -/
inductive Entry (Data : Type)
  | startV2FlashSwap (pair borrowToken : Address) (borrowAmount minProfit : Nat)
      (profitToken profitRecipient : Address) (steps : List V2SwapStep)
  | uniswapV2Call (sender : Address) (amount0 amount1 : Nat) (data : Data)

structure Call (Data : Type) where
  msg : Message
  entry : Entry Data

abbrev Exec (Data : Type) : Type → Type := Code Data Storage

def onlyAuthorizedOperator (msg : Message) : Exec Data Unit := do
  let s ← read
  refuse (s.authorizedOperators msg.sender = false) .onlyAuthorizedOperator

def validateV2Steps (allowedRouters : Address → Bool) (steps : List V2SwapStep) : Except Error Unit :=
  if steps.length = 0 then .error .invalidStep
  else steps.forM fun step =>
    if allowedRouters step.router = false then .error .invalidStep
    else if step.path.length < 2 then .error .invalidPath
    else if step.minOut = 0 then .error .zeroAmount
    else .ok ()

def beginExecution (executionId : Nat) : Exec Data Unit := do
  let s ← read
  refuse (s.executionInProgress = true) .executionAlreadyInProgress
  write { s with executionInProgress := true, activeExecutionId := executionId }

section Repayment

def v2RepaymentAmount (borrowedAmount : Nat) : Exec Data Nat := do
  let scaled ← checkedMul borrowedAmount 1000
  checkedAdd (scaled / 997) 1

def v2RepaymentAmountIn (pair borrowedToken repaymentToken : Address) (borrowedAmount : Nat) : Exec Data Nat :=
  if repaymentToken = borrowedToken then v2RepaymentAmount borrowedAmount
  else do
    let token0 : Address ← ask (.token0 pair)
    let token1 : Address ← ask (.token1 pair)
    refuse (¬ ((borrowedToken = token0 ∧ repaymentToken = token1) ∨
      (borrowedToken = token1 ∧ repaymentToken = token0))) .unsupportedBorrowToken
    let reserves : Nat × Nat ← ask (.getReserves pair)
    let reserveIn := if repaymentToken = token0 then reserves.1 else reserves.2
    let reserveOut := if borrowedToken = token0 then reserves.1 else reserves.2
    refuse (reserveOut ≤ borrowedAmount) .repaymentFailed
    let product ← checkedMul reserveIn borrowedAmount
    let numerator ← checkedMul product 1000
    let denominator ← checkedMul (reserveOut - borrowedAmount) 997
    checkedAdd (numerator / denominator) 1

end Repayment

section Callback

variable (d : Deployment Data)

def executeV2Step (msg : Message) (step : V2SwapStep) (stepIndex : Nat) : Exec Data Nat :=
  match step.path.head?, step.path.getLast? with
  | some tokenIn, some tokenOut => do
    let amountIn ← currentAmountIn d step.amountIn tokenIn
    refuse (amountIn = 0) .zeroAmount
    forceApprove d tokenIn step.router amountIn
    let beforeOut ← balanceOf d tokenOut
    let amounts : List Nat ← ask
      (.swapExactTokensForTokens step.router amountIn step.minOut step.path d.self msg.timestamp)
    match amounts.getLast? with
    | none => .fail (.stepExecutionFailed stepIndex)
    | some reported => do
      let afterOut ← balanceOf d tokenOut
      refuse (afterOut < beforeOut) (.stepExecutionFailed stepIndex)
      let amountOut := if reported < afterOut - beforeOut then afterOut - beforeOut else reported
      refuse (amountOut < step.minOut) (.stepExecutionFailed stepIndex)
      .done amountOut
  | _, _ => .fail .indexPanic

/-- The step loop, from step `stepIndex` on. -/
def runV2Steps (msg : Message) : Nat → List V2SwapStep → Exec Data Unit
  | _, [] => .done ()
  | stepIndex, step :: rest => do
    let _ ← executeV2Step d msg step stepIndex
    runV2Steps msg (stepIndex + 1) rest

def settleV2PairDebt (ctx : V2CallbackContext) (amount0 amount1 : Nat) : Exec Data Nat := do
  let reported := if 0 < amount0 then amount0 else amount1
  let borrowedAmount := if reported = 0 then ctx.borrowAmount else reported
  let repaymentAmount ← v2RepaymentAmountIn ctx.pair ctx.borrowToken ctx.profitToken borrowedAmount
  transferToken ctx.profitToken ctx.pair repaymentAmount
  .done repaymentAmount

def finalizeExecution (profitToken profitRecipient : Address) (grossProfit : Nat) : Exec Data Nat := do
  if 0 < grossProfit ∧ profitRecipient ≠ d.self then
    transferToken profitToken profitRecipient grossProfit
  let s ← read
  write { s with executionInProgress := false, activeExecutionId := 0 }
  .done grossProfit

def uniswapV2Call (msg : Message) (sender : Address) (amount0 amount1 : Nat) (data : Data) : Exec Data Unit := do
  let s ← read
  refuse (s.executionInProgress = false) .noExecutionInProgress
  refuse (sender ≠ d.self) .invalidCaller
  match d.decodeV2 data with
  | none => .fail .abiDecoding
  | some ctx => do
    refuse (ctx.executionId ≠ s.activeExecutionId) .unknownExecution
    refuse (msg.sender ≠ ctx.pair) .invalidExecutionSource
    let preProfitBalance ← balanceOf d ctx.profitToken
    runV2Steps d msg 0 ctx.steps
    let _ ← settleV2PairDebt ctx amount0 amount1
    let postProfitBalance ← balanceOf d ctx.profitToken
    let grossProfit := if preProfitBalance < postProfitBalance then postProfitBalance - preProfitBalance else 0
    let netProfit ← finalizeExecution d ctx.profitToken ctx.profitRecipient grossProfit
    refuse (netProfit < ctx.minProfit) (.profitBelowMinimum netProfit ctx.minProfit)

end Callback

section Start

def deriveExecutionId (chain : Chain) (self venue borrowToken : Address) (borrowAmount minProfit : Nat)
    (profitToken profitRecipient : Address) (stepCount blockNumber : Nat) : Nat :=
  chain.keccak256 (encodePacked
    [.word (chain.keccak256 FlowKind.v2.text), .word chain.chainId, .address self, .address venue,
      .address borrowToken, .word borrowAmount, .word minProfit, .address profitToken, .address profitRecipient,
      .word stepCount, .word blockNumber])

variable (d : ChainDeployment Data)

def startV2FlashSwap (msg : Message) (pair borrowToken : Address) (borrowAmount minProfit : Nat)
    (profitToken profitRecipient : Address) (steps : List V2SwapStep) : Exec Data Unit := do
  onlyAuthorizedOperator msg
  refuse (pair = 0 ∨ borrowToken = 0 ∨ profitToken = 0 ∨ profitRecipient = 0) .zeroAddress
  refuse (borrowAmount = 0) .zeroAmount
  let s ← read
  refuse (s.allowedV2Pairs pair = false) .unsupportedPair
  refuse (s.allowedBorrowTokens borrowToken = false) .unsupportedBorrowToken
  ofExcept (validateV2Steps s.allowedRouters steps)
  let token0 : Address ← ask (.token0 pair)
  let token1 : Address ← ask (.token1 pair)
  refuse (borrowToken ≠ token0 ∧ borrowToken ≠ token1) .unsupportedBorrowToken
  let executionId := deriveExecutionId d.chain d.self pair borrowToken borrowAmount minProfit profitToken
    profitRecipient steps.length msg.blockNumber
  beginExecution executionId
  let ctx : V2CallbackContext :=
    { executionId := executionId
      pair := pair
      borrowToken := borrowToken
      borrowAmount := borrowAmount
      minProfit := minProfit
      profitToken := profitToken
      profitRecipient := profitRecipient
      steps := steps }
  ask (.swapV2 pair (if borrowToken = token0 then borrowAmount else 0)
    (if borrowToken = token1 then borrowAmount else 0) d.self (d.encodeV2 ctx))

def body (call : Call Data) : Exec Data Unit :=
  match call.entry with
  | .startV2FlashSwap pair borrowToken borrowAmount minProfit profitToken profitRecipient steps =>
    startV2FlashSwap d call.msg pair borrowToken borrowAmount minProfit profitToken profitRecipient steps
  | .uniswapV2Call sender amount0 amount1 data => uniswapV2Call d.toDeployment call.msg sender amount0 amount1 data

def contract : CallMachine.Contract Storage (@Reply Data) Error (Call Data) where
  body := body d
  static := Request.isView
  refused
    | .sendNative .. => some false
    | _ => none

end Start

section Combined

/-- The part of the combined executor's storage that the V2 executor has too. -/
def shared (s : Executor.Storage Data) : Storage where
  owner := s.owner
  authorizedOperators := s.authorizedOperators
  allowedV2Pairs := s.allowedV2Pairs
  allowedRouters := s.allowedRouters
  allowedBorrowTokens := s.allowedBorrowTokens
  activeExecutionId := s.activeExecutionId
  executionInProgress := s.executionInProgress

/-- The call of the combined executor with the same name and arguments. -/
def combined (call : Call Data) : Executor.Call Data where
  msg := call.msg
  entry :=
    match call.entry with
    | .startV2FlashSwap pair borrowToken borrowAmount minProfit profitToken profitRecipient steps =>
      .startV2FlashSwap pair borrowToken borrowAmount minProfit profitToken profitRecipient steps
    | .uniswapV2Call sender amount0 amount1 data => .uniswapV2Call sender amount0 amount1 data

def SharesWith (s : Storage) (whole : Executor.Storage Data) : Prop := shared whole = s

end Combined

section Alike

variable {d : Deployment Data} {related : Storage → Executor.Storage Data → Prop}

theorem v2RepaymentAmount_alike (borrowedAmount : Nat) :
    (v2RepaymentAmount borrowedAmount : Exec Data Nat).Alike related (Executor.v2RepaymentAmount borrowedAmount) :=
  (checkedMul_alike _ _).bind fun _ => checkedAdd_alike _ _

theorem v2RepaymentAmountIn_alike (pair borrowedToken repaymentToken : Address) (borrowedAmount : Nat) :
    (v2RepaymentAmountIn pair borrowedToken repaymentToken borrowedAmount : Exec Data Nat).Alike related
      (Executor.v2RepaymentAmountIn pair borrowedToken repaymentToken borrowedAmount) := by
  refine alike_ite (v2RepaymentAmount_alike borrowedAmount) ?_
  refine (ask_alike _).bind fun (token0 : Address) => ?_
  refine (ask_alike _).bind fun (token1 : Address) => ?_
  refine (alike_refuse Iff.rfl).bind fun _ => ?_
  refine (ask_alike _).bind fun (reserves : Nat × Nat) => ?_
  refine (alike_refuse Iff.rfl).bind fun _ => ?_
  refine (checkedMul_alike _ _).bind fun product => ?_
  refine (checkedMul_alike _ _).bind fun numerator => ?_
  exact (checkedMul_alike _ _).bind fun _ => checkedAdd_alike _ _

theorem executeV2Step_alike (msg : Message) (step : V2SwapStep) (stepIndex : Nat) :
    (executeV2Step d msg step stepIndex).Alike related (Executor.executeV2Step d msg step stepIndex) := by
  unfold executeV2Step Executor.executeV2Step
  cases step.path.head? with
  | none => exact alike_fail
  | some tokenIn =>
    cases step.path.getLast? with
    | none => exact alike_fail
    | some tokenOut =>
      refine (currentAmountIn_alike _ _).bind fun amountIn => ?_
      refine (alike_refuse Iff.rfl).bind fun _ => ?_
      refine (forceApprove_alike _ _ _).bind fun _ => ?_
      refine (balanceOf_alike _).bind fun beforeOut => ?_
      refine (ask_alike _).bind fun (amounts : List Nat) => ?_
      cases amounts.getLast? with
      | none => exact alike_fail
      | some reported =>
        refine (balanceOf_alike _).bind fun afterOut => ?_
        refine (alike_refuse Iff.rfl).bind fun _ => ?_
        exact (alike_refuse Iff.rfl).bind fun _ => alike_done

theorem runV2Steps_alike (msg : Message) (steps : List V2SwapStep) (stepIndex : Nat) :
    (runV2Steps d msg stepIndex steps).Alike related (Executor.runV2Steps d msg stepIndex steps) := by
  induction steps generalizing stepIndex with
  | nil => exact alike_done
  | cons step rest ih => exact (executeV2Step_alike msg step stepIndex).bind fun _ => ih (stepIndex + 1)

theorem settleV2PairDebt_alike (ctx : V2CallbackContext) (amount0 amount1 : Nat) :
    (settleV2PairDebt ctx amount0 amount1 : Exec Data Nat).Alike related
      (Executor.settleV2PairDebt ctx amount0 amount1) := by
  refine (v2RepaymentAmountIn_alike _ _ _ _).bind fun repaymentAmount => ?_
  exact (transferToken_alike _ _ _).bind fun _ => alike_done

theorem validateV2Steps_eq (allowedRouters : Address → Bool) (steps : List V2SwapStep) :
    validateV2Steps allowedRouters steps = Executor.validateV2Steps allowedRouters steps := by
  simp only [validateV2Steps, Executor.validateV2Steps, List.length_eq_zero_iff]

theorem onlyAuthorizedOperator_alike (msg : Message) :
    (onlyAuthorizedOperator msg : Exec Data Unit).Alike SharesWith (Executor.onlyAuthorizedOperator msg) := by
  refine Alike.read_bind fun s whole same => ?_
  subst same
  exact alike_refuse Iff.rfl

theorem beginExecution_alike (executionId : Nat) (opening : Opening Data) :
    (beginExecution executionId : Exec Data Unit).Alike SharesWith (Executor.beginExecution executionId opening) := by
  refine Alike.read_bind fun s whole same => ?_
  subst same
  exact (alike_refuse Iff.rfl).bind fun _ => alike_write rfl

theorem finalizeExecution_alike (profitToken profitRecipient : Address) (grossProfit : Nat) :
    (finalizeExecution d profitToken profitRecipient grossProfit).Alike SharesWith
      (Executor.finalizeExecution d profitToken profitRecipient grossProfit) := by
  refine finalize_alike ?_ profitToken profitRecipient grossProfit
  rintro s whole rfl
  rfl

theorem uniswapV2Call_alike (msg : Message) (sender : Address) (amount0 amount1 : Nat) (data : Data) :
    (uniswapV2Call d msg sender amount0 amount1 data).Alike SharesWith
      (Executor.uniswapV2Call d msg sender amount0 amount1 data) := by
  refine Alike.read_bind fun s whole same => ?_
  subst same
  refine guard_alike (guard_alike ?_)
  cases d.decodeV2 data with
  | none => exact alike_fail
  | some ctx =>
    refine guard_alike (guard_alike ?_)
    simp only [Executor.ofExcept, v2Body, tradeV2, closeExecution, bind_assoc, done_bind, bind_unit]
    refine (balanceOf_alike _).bind fun preProfitBalance => ?_
    refine (runV2Steps_alike _ _ _).bind fun _ => ?_
    refine (settleV2PairDebt_alike _ _ _).bind fun _ => ?_
    refine (balanceOf_alike _).bind fun postProfitBalance => ?_
    exact (finalizeExecution_alike _ _ _).bind fun netProfit => alike_refuse Iff.rfl

theorem startV2FlashSwap_alike (d : ChainDeployment Data) (msg : Message) (pair borrowToken : Address)
    (borrowAmount minProfit : Nat) (profitToken profitRecipient : Address) (steps : List V2SwapStep) :
    (startV2FlashSwap d msg pair borrowToken borrowAmount minProfit profitToken profitRecipient steps).Alike
      SharesWith (Executor.startV2FlashSwap d.toDeployment msg pair borrowToken borrowAmount minProfit profitToken
        profitRecipient steps) := by
  have sameId : d.deriveExecutionId .v2 = deriveExecutionId d.chain d.self := d.derives .v2
  unfold Executor.startV2FlashSwap
  rw [sameId]
  refine (onlyAuthorizedOperator_alike msg).bind fun _ => ?_
  refine (alike_refuse Iff.rfl).bind fun _ => ?_
  refine (alike_refuse Iff.rfl).bind fun _ => ?_
  refine Alike.read_bind fun s whole same => ?_
  subst same
  refine (alike_refuse Iff.rfl).bind fun _ => ?_
  refine (alike_refuse Iff.rfl).bind fun _ => ?_
  rw [validateV2Steps_eq]
  refine (ofExcept_alike _).bind fun _ => ?_
  refine (ask_alike _).bind fun (token0 : Address) => ?_
  refine (ask_alike _).bind fun (token1 : Address) => ?_
  refine (alike_refuse Iff.rfl).bind fun _ => ?_
  exact (beginExecution_alike _ _).bind fun _ => ask_alike _

/-- The V2 executor and the combined one, at the same address, run alike. -/
theorem contract_alike (d : ChainDeployment Data) :
    (contract d).Alike SharesWith combined (Executor.contract d.toDeployment) where
  body call := by
    obtain ⟨msg, entry⟩ := call
    cases entry with
    | startV2FlashSwap pair borrowToken borrowAmount minProfit profitToken profitRecipient steps =>
      exact startV2FlashSwap_alike d msg pair borrowToken borrowAmount minProfit profitToken profitRecipient steps
    | uniswapV2Call sender amount0 amount1 data => exact uniswapV2Call_alike msg sender amount0 amount1 data
  static := rfl
  refused := rfl

end Alike

end ArbitrageRuntime.SplitV2
