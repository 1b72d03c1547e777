import ArbitrageRuntime.Executor.Split

namespace ArbitrageRuntime.SplitV3

open Interaction Interaction.Prog Executor Split

variable {Data : Type}

/-- The storage of the V3 executor. -/
structure Storage where
  owner : Address
  authorizedOperators : Address → Bool
  allowedV3Pools : Address → Bool
  allowedRouters : Address → Bool
  allowedBorrowTokens : Address → Bool
  allowedFeeTiers : Nat → Bool
  activeExecutionId : Nat
  executionInProgress : Bool

/-- The flash-swap path of the V3 executor. -/
inductive Entry (Data : Type)
  | startV3FlashSwap (pool borrowToken : Address) (borrowAmount feeTier minProfit : Nat)
      (profitToken profitRecipient : Address) (steps : List V3SwapStep)
  | uniswapV3SwapCallback (amount0Delta amount1Delta : Int) (data : Data)

structure Call (Data : Type) where
  msg : Message
  entry : Entry Data

abbrev Exec (Data : Type) : Type → Type := Code Data Storage

def onlyAuthorizedOperator (msg : Message) : Exec Data Unit := do
  let s ← read
  refuse (s.authorizedOperators msg.sender = false) .onlyAuthorizedOperator

def validateV3Steps (allowedRouters : Address → Bool) (steps : List V3SwapStep) : Except Error Unit :=
  if steps.length = 0 then .error .invalidStep
  else steps.forM fun step =>
    if allowedRouters step.router = false then .error .invalidStep
    else if step.path.length < 43 then .error .invalidPath
    else if step.minOut = 0 then .error .zeroAmount
    else .ok ()

def beginExecution (executionId : Nat) : Exec Data Unit := do
  let s ← read
  refuse (s.executionInProgress = true) .executionAlreadyInProgress
  write { s with executionInProgress := true, activeExecutionId := executionId }

section Callback

variable (d : Deployment Data)

def v3PathTokenIn (path : Bytes) : Except Error Address :=
  if path.length < 43 then .error .invalidPath else .ok (addressOfBytes (path.take 20))

def v3PathTokenOut (path : Bytes) : Except Error Address :=
  if path.length < 43 then .error .invalidPath
  else
    let offset := path.length - 20
    .ok (addressOfBytes (path.drop offset))

def executeV3Step (msg : Message) (step : V3SwapStep) (stepIndex : Nat) : Exec Data Nat := do
  let tokenIn ← ofExcept (v3PathTokenIn step.path)
  let tokenOut ← ofExcept (v3PathTokenOut step.path)
  let amountIn ← currentAmountIn d step.amountIn tokenIn
  refuse (amountIn = 0) .zeroAmount
  forceApprove d tokenIn step.router amountIn
  let beforeOut ← balanceOf d tokenOut
  let reported : Nat ← ask (.exactInput step.router step.path d.self msg.timestamp amountIn step.minOut)
  let afterOut ← balanceOf d tokenOut
  refuse (afterOut < beforeOut) (.stepExecutionFailed stepIndex)
  let amountOut := if reported < afterOut - beforeOut then afterOut - beforeOut else reported
  refuse (amountOut < step.minOut) (.stepExecutionFailed stepIndex)
  .done amountOut

/-- The step loop, from step `stepIndex` on. -/
def runV3Steps (msg : Message) : Nat → List V3SwapStep → Exec Data Unit
  | _, [] => .done ()
  | stepIndex, step :: rest => do
    let _ ← executeV3Step d msg step stepIndex
    runV3Steps msg (stepIndex + 1) rest

/-- Pays one positive delta of the pool and nothing for the other. -/
def payDelta (token pool : Address) (delta : Int) : Exec Data Nat :=
  if 0 < delta then do
    transferToken token pool delta.toNat
    .done delta.toNat
  else .done 0

def settleV3PoolDebt (ctx : V3CallbackContext) (amount0Delta amount1Delta : Int) : Exec Data Nat := do
  let token0 : Address ← ask (.token0 ctx.pool)
  let token1 : Address ← ask (.token1 ctx.pool)
  let owed0 ← payDelta token0 ctx.pool amount0Delta
  let owed1 ← payDelta token1 ctx.pool amount1Delta
  checkedAdd owed0 owed1

def finalizeExecution (profitToken profitRecipient : Address) (grossProfit : Nat) : Exec Data Nat := do
  if 0 < grossProfit ∧ profitRecipient ≠ d.self then
    transferToken profitToken profitRecipient grossProfit
  let s ← read
  write { s with executionInProgress := false, activeExecutionId := 0 }
  .done grossProfit

def uniswapV3SwapCallback (msg : Message) (amount0Delta amount1Delta : Int) (data : Data) : Exec Data Unit := do
  let s ← read
  refuse (s.executionInProgress = false) .noExecutionInProgress
  match d.decodeV3 data with
  | none => .fail .abiDecoding
  | some ctx => do
    refuse (ctx.executionId ≠ s.activeExecutionId) .unknownExecution
    refuse (msg.sender ≠ ctx.pool) .invalidExecutionSource
    let preProfitBalance ← balanceOf d ctx.profitToken
    runV3Steps d msg 0 ctx.steps
    let _ ← settleV3PoolDebt ctx amount0Delta amount1Delta
    let postProfitBalance ← balanceOf d ctx.profitToken
    let grossProfit := if preProfitBalance < postProfitBalance then postProfitBalance - preProfitBalance else 0
    let netProfit ← finalizeExecution d ctx.profitToken ctx.profitRecipient grossProfit
    refuse (netProfit < ctx.minProfit) (.profitBelowMinimum netProfit ctx.minProfit)

end Callback

section Start

def deriveExecutionId (chain : Chain) (self pool borrowToken : Address) (borrowAmount minProfit : Nat)
    (profitToken profitRecipient : Address) (stepCount blockNumber : Nat) : Nat :=
  chain.keccak256 (encodePacked
    [.word (chain.keccak256 FlowKind.v3.text), .word chain.chainId, .address self, .address pool,
      .address borrowToken, .word borrowAmount, .word minProfit, .address profitToken, .address profitRecipient,
      .word stepCount, .word blockNumber])

/-- `-int256(amount)`, with a checked negation. -/
def negatedInt256 (amount : Nat) : Exec Data Int :=
  if wordAsInt256 amount = -2 ^ 255 then .fail .arithmeticPanic else .done (-wordAsInt256 amount)

def minSqrtRatioPlusOne : Nat := 4295128740

def maxSqrtRatioMinusOne : Nat := 1461446703485210103287273052203988822378723970341

variable (d : ChainDeployment Data)

def startV3PoolSwap (pool : Address) (zeroForOne : Bool) (borrowAmount : Nat) (ctx : V3CallbackContext) :
    Exec Data Unit := do
  let amountSpecified ← negatedInt256 borrowAmount
  let _ : Int × Int ← ask (.swapV3 pool d.self zeroForOne amountSpecified
    (if zeroForOne then minSqrtRatioPlusOne else maxSqrtRatioMinusOne) (d.encodeV3 ctx))
  .done ()

def startV3FlashSwap (msg : Message) (pool borrowToken : Address) (borrowAmount feeTier minProfit : Nat)
    (profitToken profitRecipient : Address) (steps : List V3SwapStep) : Exec Data Unit := do
  onlyAuthorizedOperator msg
  refuse (pool = 0 ∨ borrowToken = 0 ∨ profitToken = 0 ∨ profitRecipient = 0) .zeroAddress
  refuse (borrowAmount = 0) .zeroAmount
  let s ← read
  refuse (s.allowedV3Pools pool = false) .unsupportedPool
  refuse (s.allowedBorrowTokens borrowToken = false) .unsupportedBorrowToken
  refuse (s.allowedFeeTiers feeTier = false) .unsupportedFeeTier
  ofExcept (validateV3Steps s.allowedRouters steps)
  let token0 : Address ← ask (.token0 pool)
  let token1 : Address ← ask (.token1 pool)
  refuse (borrowToken ≠ token0 ∧ borrowToken ≠ token1) .unsupportedBorrowToken
  let executionId := deriveExecutionId d.chain d.self pool borrowToken borrowAmount minProfit profitToken
    profitRecipient steps.length msg.blockNumber
  beginExecution executionId
  let ctx : V3CallbackContext :=
    { executionId := executionId
      pool := pool
      borrowToken := borrowToken
      borrowAmount := borrowAmount
      feeTier := feeTier
      minProfit := minProfit
      profitToken := profitToken
      profitRecipient := profitRecipient
      steps := steps }
  startV3PoolSwap d pool (borrowToken = token1) borrowAmount ctx

def body (call : Call Data) : Exec Data Unit :=
  match call.entry with
  | .startV3FlashSwap pool borrowToken borrowAmount feeTier minProfit profitToken profitRecipient steps =>
    startV3FlashSwap d call.msg pool borrowToken borrowAmount feeTier minProfit profitToken profitRecipient steps
  | .uniswapV3SwapCallback amount0Delta amount1Delta data =>
    uniswapV3SwapCallback d.toDeployment call.msg amount0Delta amount1Delta data

def contract : CallMachine.Contract Storage (@Reply Data) Error (Call Data) where
  body := body d
  static := Request.isView
  refused
    | .sendNative .. => some false
    | _ => none

end Start

section Combined

/-- The part of the combined executor's storage that the V3 executor has too. -/
def shared (s : Executor.Storage Data) : Storage where
  owner := s.owner
  authorizedOperators := s.authorizedOperators
  allowedV3Pools := s.allowedV3Pools
  allowedRouters := s.allowedRouters
  allowedBorrowTokens := s.allowedBorrowTokens
  allowedFeeTiers := s.allowedFeeTiers
  activeExecutionId := s.activeExecutionId
  executionInProgress := s.executionInProgress

/-- The call of the combined executor with the same name and arguments. -/
def combined (call : Call Data) : Executor.Call Data where
  msg := call.msg
  entry :=
    match call.entry with
    | .startV3FlashSwap pool borrowToken borrowAmount feeTier minProfit profitToken profitRecipient steps =>
      .startV3FlashSwap pool borrowToken borrowAmount feeTier minProfit profitToken profitRecipient steps
    | .uniswapV3SwapCallback amount0Delta amount1Delta data => .uniswapV3SwapCallback amount0Delta amount1Delta data

def SharesWith (s : Storage) (whole : Executor.Storage Data) : Prop := shared whole = s

end Combined

section Alike

variable {d : Deployment Data} {related : Storage → Executor.Storage Data → Prop}

theorem executeV3Step_alike (msg : Message) (step : V3SwapStep) (stepIndex : Nat) :
    (executeV3Step d msg step stepIndex).Alike related (Executor.executeV3Step d msg step stepIndex) := by
  refine (ofExcept_alike _).bind fun tokenIn => ?_
  refine (ofExcept_alike _).bind fun tokenOut => ?_
  refine (currentAmountIn_alike _ _).bind fun amountIn => ?_
  refine (alike_refuse Iff.rfl).bind fun _ => ?_
  refine (forceApprove_alike _ _ _).bind fun _ => ?_
  refine (balanceOf_alike _).bind fun beforeOut => ?_
  refine (ask_alike _).bind fun (reported : Nat) => ?_
  refine (balanceOf_alike _).bind fun afterOut => ?_
  refine (alike_refuse Iff.rfl).bind fun _ => ?_
  exact (alike_refuse Iff.rfl).bind fun _ => alike_done

theorem runV3Steps_alike (msg : Message) (steps : List V3SwapStep) (stepIndex : Nat) :
    (runV3Steps d msg stepIndex steps).Alike related (Executor.runV3Steps d msg stepIndex steps) := by
  induction steps generalizing stepIndex with
  | nil => exact alike_done
  | cons step rest ih => exact (executeV3Step_alike msg step stepIndex).bind fun _ => ih (stepIndex + 1)

theorem payDelta_alike (token pool : Address) (delta : Int) :
    (payDelta token pool delta : Exec Data Nat).Alike related (Executor.payDelta token pool delta) := by
  refine alike_ite ?_ alike_done
  exact (transferToken_alike _ _ _).bind fun _ => alike_done

theorem settleV3PoolDebt_alike (ctx : V3CallbackContext) (amount0Delta amount1Delta : Int) :
    (settleV3PoolDebt ctx amount0Delta amount1Delta : Exec Data Nat).Alike related
      (Executor.settleV3PoolDebt ctx amount0Delta amount1Delta) := by
  refine (ask_alike _).bind fun (token0 : Address) => ?_
  refine (ask_alike _).bind fun (token1 : Address) => ?_
  refine (payDelta_alike _ _ _).bind fun owed0 => ?_
  exact (payDelta_alike _ _ _).bind fun owed1 => checkedAdd_alike _ _

theorem validateV3Steps_eq (allowedRouters : Address → Bool) (steps : List V3SwapStep) :
    validateV3Steps allowedRouters steps = Executor.validateV3Steps allowedRouters steps := by
  simp only [validateV3Steps, Executor.validateV3Steps, List.length_eq_zero_iff]

theorem onlyAuthorizedOperator_alike (msg : Message) :
    (onlyAuthorizedOperator msg : Exec Data Unit).Alike SharesWith (Executor.onlyAuthorizedOperator msg) := by
  refine Alike.read_bind fun s whole same => ?_
  subst same
  exact alike_refuse Iff.rfl

theorem beginExecution_alike (executionId : Nat) (opening : Opening Data) :
    (beginExecution executionId : Exec Data Unit).Alike SharesWith (Executor.beginExecution executionId opening) := by
  refine Alike.read_bind fun s whole same => ?_
  subst same
  exact (alike_refuse Iff.rfl).bind fun _ => alike_write rfl

theorem finalizeExecution_alike (profitToken profitRecipient : Address) (grossProfit : Nat) :
    (finalizeExecution d profitToken profitRecipient grossProfit).Alike SharesWith
      (Executor.finalizeExecution d profitToken profitRecipient grossProfit) := by
  refine finalize_alike ?_ profitToken profitRecipient grossProfit
  rintro s whole rfl
  rfl

theorem uniswapV3SwapCallback_alike (msg : Message) (amount0Delta amount1Delta : Int) (data : Data) :
    (uniswapV3SwapCallback d msg amount0Delta amount1Delta data).Alike SharesWith
      (Executor.uniswapV3SwapCallback d msg amount0Delta amount1Delta data) := by
  refine Alike.read_bind fun s whole same => ?_
  subst same
  refine guard_alike ?_
  cases d.decodeV3 data with
  | none => exact alike_fail
  | some ctx =>
    refine guard_alike (guard_alike ?_)
    simp only [Executor.ofExcept, v3Body, tradeV3, closeExecution, bind_assoc, done_bind, bind_unit]
    refine (balanceOf_alike _).bind fun preProfitBalance => ?_
    refine (runV3Steps_alike _ _ _).bind fun _ => ?_
    refine (settleV3PoolDebt_alike _ _ _).bind fun _ => ?_
    refine (balanceOf_alike _).bind fun postProfitBalance => ?_
    exact (finalizeExecution_alike _ _ _).bind fun netProfit => alike_refuse Iff.rfl

theorem startV3PoolSwap_alike (d : ChainDeployment Data) (pool : Address) (zeroForOne : Bool) (borrowAmount : Nat)
    (ctx : V3CallbackContext) :
    (startV3PoolSwap d pool zeroForOne borrowAmount ctx).Alike related
      (Executor.startV3PoolSwap d.toDeployment pool zeroForOne borrowAmount ctx) := by
  refine Alike.bind (alike_ite alike_fail alike_done) fun amountSpecified => ?_
  exact (ask_alike _).bind fun _ => alike_done

theorem startV3FlashSwap_alike (d : ChainDeployment Data) (msg : Message) (pool borrowToken : Address)
    (borrowAmount feeTier minProfit : Nat) (profitToken profitRecipient : Address) (steps : List V3SwapStep) :
    (startV3FlashSwap d msg pool borrowToken borrowAmount feeTier minProfit profitToken profitRecipient steps).Alike
      SharesWith (Executor.startV3FlashSwap d.toDeployment msg pool borrowToken borrowAmount feeTier minProfit
        profitToken profitRecipient steps) := by
  have sameId : d.deriveExecutionId .v3 = deriveExecutionId d.chain d.self := d.derives .v3
  unfold Executor.startV3FlashSwap
  rw [sameId]
  refine (onlyAuthorizedOperator_alike msg).bind fun _ => ?_
  refine (alike_refuse Iff.rfl).bind fun _ => ?_
  refine (alike_refuse Iff.rfl).bind fun _ => ?_
  refine Alike.read_bind fun s whole same => ?_
  subst same
  refine (alike_refuse Iff.rfl).bind fun _ => ?_
  refine (alike_refuse Iff.rfl).bind fun _ => ?_
  refine (alike_refuse Iff.rfl).bind fun _ => ?_
  rw [validateV3Steps_eq]
  refine (ofExcept_alike _).bind fun _ => ?_
  refine (ask_alike _).bind fun (token0 : Address) => ?_
  refine (ask_alike _).bind fun (token1 : Address) => ?_
  refine (alike_refuse Iff.rfl).bind fun _ => ?_
  exact (beginExecution_alike _ _).bind fun _ => startV3PoolSwap_alike d pool _ borrowAmount _

/-- The V3 executor and the combined one, at the same address, run alike. -/
theorem contract_alike (d : ChainDeployment Data) :
    (contract d).Alike SharesWith combined (Executor.contract d.toDeployment) where
  body call := by
    obtain ⟨msg, entry⟩ := call
    cases entry with
    | startV3FlashSwap pool borrowToken borrowAmount feeTier minProfit profitToken profitRecipient steps =>
      exact startV3FlashSwap_alike d msg pool borrowToken borrowAmount feeTier minProfit profitToken profitRecipient
        steps
    | uniswapV3SwapCallback amount0Delta amount1Delta data =>
      exact uniswapV3SwapCallback_alike msg amount0Delta amount1Delta data
  static := rfl
  refused := rfl

end Alike

end ArbitrageRuntime.SplitV3
