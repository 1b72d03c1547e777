import ArbitrageRuntime.Executor.State
import ArbitrageRuntime.Lib.CallMachine

namespace ArbitrageRuntime.Executor

open Interaction Interaction.Prog

variable {Data : Type}

abbrev Exec (Data : Type) : Type → Type := Prog (Storage Data) (@Reply Data) Error

def ask (request : Request Data) : Exec Data (Reply request) := .call request .done

def token0 (venue : Address) : Exec Data Address := ask (.token0 venue)

def token1 (venue : Address) : Exec Data Address := ask (.token1 venue)

def getReserves (pair : Address) : Exec Data (Nat × Nat) := ask (.getReserves pair)

def allowance (token owner spender : Address) : Exec Data Nat := ask (.allowance token owner spender)

def approve (token spender : Address) (amount : Nat) : Exec Data Bool := ask (.approve token spender amount)

def transfer (token recipient : Address) (amount : Nat) : Exec Data Bool := ask (.transfer token recipient amount)

def swapV2 (pair : Address) (amount0Out amount1Out : Nat) (recipient : Address) (data : Data) : Exec Data Unit :=
  ask (.swapV2 pair amount0Out amount1Out recipient data)

def swapV3 (pool recipient : Address) (zeroForOne : Bool) (amountSpecified : Int) (sqrtPriceLimitX96 : Nat)
    (data : Data) : Exec Data (Int × Int) :=
  ask (.swapV3 pool recipient zeroForOne amountSpecified sqrtPriceLimitX96 data)

def swapExactTokensForTokens (router : Address) (amountIn amountOutMin : Nat) (path : List Address)
    (recipient : Address) (deadline : Nat) : Exec Data (List Nat) :=
  ask (.swapExactTokensForTokens router amountIn amountOutMin path recipient deadline)

def exactInput (router : Address) (path : Bytes) (recipient : Address) (deadline amountIn amountOutMinimum : Nat) :
    Exec Data Nat :=
  ask (.exactInput router path recipient deadline amountIn amountOutMinimum)

def nativeBalance : Exec Data Nat := ask .nativeBalance

def sendNative (recipient : Address) (amount : Nat) : Exec Data Bool := ask (.sendNative recipient amount)

def ofExcept {α : Type} : Except Error α → Exec Data α
  | .ok value => .done value
  | .error error => .fail error

/-- Checked `uint256` arithmetic. -/
def checkedMul (a b : Nat) : Exec Data Nat :=
  if u256Max < a * b then .fail .arithmeticPanic else .done (a * b)

def checkedAdd (a b : Nat) : Exec Data Nat :=
  if u256Max < a + b then .fail .arithmeticPanic else .done (a + b)

def onlyOwner (msg : Message) : Exec Data Unit := do
  let s ← read
  refuse (msg.sender ≠ s.owner) .onlyOwner

def onlyAuthorizedOperator (msg : Message) : Exec Data Unit := do
  let s ← read
  refuse (s.authorizedOperators msg.sender = false) .onlyAuthorizedOperator

def transferOwnership (msg : Message) (newOwner : Address) : Exec Data Unit := do
  onlyOwner msg
  refuse (newOwner = 0) .zeroAddress
  let s ← read
  write { s with
    owner := newOwner
    authorizedOperators := Function.update s.authorizedOperators newOwner true }

section Allowlists

/-- One checked entry of an allowlist. -/
def setAllowedAddress (update : Storage Data → Address → Bool → Storage Data) (key : Address) (allowed : Bool) :
    Exec Data Unit := do
  refuse (key = 0) .zeroAddress
  let s ← read
  write (update s key allowed)

def setAllowedAddresses (update : Storage Data → Address → Bool → Storage Data) (allowed : Bool) :
    List Address → Exec Data Unit
  | [] => .done ()
  | key :: rest => do
    setAllowedAddress update key allowed
    setAllowedAddresses update allowed rest

def putOperator (s : Storage Data) (operator : Address) (allowed : Bool) : Storage Data :=
  { s with authorizedOperators := Function.update s.authorizedOperators operator allowed }

def putV2Pair (s : Storage Data) (pair : Address) (allowed : Bool) : Storage Data :=
  { s with allowedV2Pairs := Function.update s.allowedV2Pairs pair allowed }

def putV3Pool (s : Storage Data) (pool : Address) (allowed : Bool) : Storage Data :=
  { s with allowedV3Pools := Function.update s.allowedV3Pools pool allowed }

def putRouter (s : Storage Data) (router : Address) (allowed : Bool) : Storage Data :=
  { s with allowedRouters := Function.update s.allowedRouters router allowed }

def putBorrowToken (s : Storage Data) (token : Address) (allowed : Bool) : Storage Data :=
  { s with allowedBorrowTokens := Function.update s.allowedBorrowTokens token allowed }

def putFeeTier (s : Storage Data) (feeTier : Nat) (allowed : Bool) : Storage Data :=
  { s with allowedFeeTiers := Function.update s.allowedFeeTiers feeTier allowed }

def setAuthorizedOperator (msg : Message) (operator : Address) (allowed : Bool) : Exec Data Unit := do
  onlyOwner msg
  setAllowedAddress putOperator operator allowed

def setAllowedV2Pair (msg : Message) (pair : Address) (allowed : Bool) : Exec Data Unit := do
  onlyOwner msg
  setAllowedAddress putV2Pair pair allowed

def setAllowedV2Pairs (msg : Message) (pairs : List Address) (allowed : Bool) : Exec Data Unit := do
  onlyOwner msg
  setAllowedAddresses putV2Pair allowed pairs

def setAllowedV3Pool (msg : Message) (pool : Address) (allowed : Bool) : Exec Data Unit := do
  onlyOwner msg
  setAllowedAddress putV3Pool pool allowed

def setAllowedV3Pools (msg : Message) (pools : List Address) (allowed : Bool) : Exec Data Unit := do
  onlyOwner msg
  setAllowedAddresses putV3Pool allowed pools

def setAllowedRouter (msg : Message) (router : Address) (allowed : Bool) : Exec Data Unit := do
  onlyOwner msg
  setAllowedAddress putRouter router allowed

def setAllowedRouters (msg : Message) (routers : List Address) (allowed : Bool) : Exec Data Unit := do
  onlyOwner msg
  setAllowedAddresses putRouter allowed routers

def setAllowedBorrowToken (msg : Message) (token : Address) (allowed : Bool) : Exec Data Unit := do
  onlyOwner msg
  setAllowedAddress putBorrowToken token allowed

def setAllowedBorrowTokens (msg : Message) (tokens : List Address) (allowed : Bool) : Exec Data Unit := do
  onlyOwner msg
  setAllowedAddresses putBorrowToken allowed tokens

/-- Fee tiers are not addresses and have no zero check. -/
def setAllowedFeeTier (msg : Message) (feeTier : Nat) (allowed : Bool) : Exec Data Unit := do
  onlyOwner msg
  let s ← read
  write (putFeeTier s feeTier allowed)

def setAllowedFeeTiers (msg : Message) (feeTiers : List Nat) (allowed : Bool) : Exec Data Unit := do
  onlyOwner msg
  let s ← read
  write (feeTiers.foldl (fun s feeTier => putFeeTier s feeTier allowed) s)

end Allowlists

section Tokens

variable (d : Deployment Data)

def balanceOf (token : Address) : Exec Data Nat := ask (.balanceOf token d.self)

def transferToken (token recipient : Address) (amount : Nat) : Exec Data Unit :=
  if amount = 0 then .done ()
  else do
    let ok ← transfer token recipient amount
    refuse (ok = false) .repaymentFailed

def forceApprove (token spender : Address) (amount : Nat) : Exec Data Unit := do
  let current ← allowance token d.self spender
  if amount ≤ current then .done ()
  else do
    if current ≠ 0 then
      let resetOk ← approve token spender 0
      refuse (resetOk = false) (.stepExecutionFailed u256Max)
    let ok ← approve token spender amount
    refuse (ok = false) (.stepExecutionFailed u256Max)

/-- The largest word asks for the whole balance. -/
def currentAmountIn (requestedAmount : Nat) (tokenIn : Address) : Exec Data Nat :=
  if requestedAmount = u256Max then balanceOf d tokenIn else .done requestedAmount

def rescueToken (msg : Message) (token recipient : Address) (amount : Nat) : Exec Data Unit := do
  onlyOwner msg
  refuse (token = 0 ∨ recipient = 0) .zeroAddress
  refuse (amount = 0) .zeroAmount
  transferToken token recipient amount

def rescueNative (msg : Message) (recipient : Address) (amount : Nat) : Exec Data Unit := do
  onlyOwner msg
  refuse (recipient = 0) .zeroAddress
  refuse (amount = 0) .zeroAmount
  let balance ← nativeBalance
  refuse (balance < amount) .repaymentFailed
  let ok ← sendNative recipient amount
  refuse (ok = false) .repaymentFailed

end Tokens

section Start

variable (d : Deployment Data)

def validateV2Steps (allowedRouters : Address → Bool) (steps : List V2SwapStep) : Except Error Unit :=
  if steps = [] then .error .invalidStep
  else steps.forM fun step =>
    if allowedRouters step.router = false then .error .invalidStep
    else if step.path.length < 2 then .error .invalidPath
    else if step.minOut = 0 then .error .zeroAmount
    else .ok ()

def validateV3Steps (allowedRouters : Address → Bool) (steps : List V3SwapStep) : Except Error Unit :=
  if steps = [] then .error .invalidStep
  else steps.forM fun step =>
    if allowedRouters step.router = false then .error .invalidStep
    else if step.path.length < 43 then .error .invalidPath
    else if step.minOut = 0 then .error .zeroAmount
    else .ok ()

def beginExecution (executionId : Nat) (opening : Opening Data) : Exec Data Unit := do
  let s ← read
  refuse (s.executionInProgress = true) .executionAlreadyInProgress
  write { s with executionInProgress := true, activeExecutionId := executionId, opening := some opening }

def startV2FlashSwap (msg : Message) (pair borrowToken : Address) (borrowAmount minProfit : Nat)
    (profitToken profitRecipient : Address) (steps : List V2SwapStep) : Exec Data Unit := do
  onlyAuthorizedOperator msg
  refuse (pair = 0 ∨ borrowToken = 0 ∨ profitToken = 0 ∨ profitRecipient = 0) .zeroAddress
  refuse (borrowAmount = 0) .zeroAmount
  let s ← read
  refuse (s.allowedV2Pairs pair = false) .unsupportedPair
  refuse (s.allowedBorrowTokens borrowToken = false) .unsupportedBorrowToken
  ofExcept (validateV2Steps s.allowedRouters steps)
  let first ← token0 pair
  let second ← token1 pair
  refuse (borrowToken ≠ first ∧ borrowToken ≠ second) .unsupportedBorrowToken
  let ctx : V2CallbackContext :=
    { executionId := d.deriveExecutionId .v2 pair borrowToken borrowAmount minProfit profitToken profitRecipient
        steps.length msg.blockNumber
      pair := pair
      borrowToken := borrowToken
      borrowAmount := borrowAmount
      minProfit := minProfit
      profitToken := profitToken
      profitRecipient := profitRecipient
      steps := steps }
  beginExecution ctx.executionId (.v2 ctx (d.encodeV2 ctx) s.allowedRouters)
  swapV2 pair (if borrowToken = first then borrowAmount else 0) (if borrowToken = second then borrowAmount else 0)
    d.self (d.encodeV2 ctx)

def minSqrtRatioPlusOne : Nat := 4295128740

def maxSqrtRatioMinusOne : Nat := 1461446703485210103287273052203988822378723970341

/-- `int256(amount)`, which keeps the bits. -/
def wordAsInt256 (amount : Nat) : Int :=
  if amount < 2 ^ 255 then amount else amount - 2 ^ 256

/-- `-int256(amount)`, with a checked negation. -/
def negatedInt256 (amount : Nat) : Exec Data Int :=
  if wordAsInt256 amount = -2 ^ 255 then .fail .arithmeticPanic else .done (-wordAsInt256 amount)

def startV3PoolSwap (pool : Address) (zeroForOne : Bool) (borrowAmount : Nat) (ctx : V3CallbackContext) :
    Exec Data Unit := do
  let amountSpecified ← negatedInt256 borrowAmount
  let _ ← swapV3 pool d.self zeroForOne amountSpecified
    (if zeroForOne then minSqrtRatioPlusOne else maxSqrtRatioMinusOne) (d.encodeV3 ctx)
  .done ()

def startV3FlashSwap (msg : Message) (pool borrowToken : Address) (borrowAmount feeTier minProfit : Nat)
    (profitToken profitRecipient : Address) (steps : List V3SwapStep) : Exec Data Unit := do
  onlyAuthorizedOperator msg
  refuse (pool = 0 ∨ borrowToken = 0 ∨ profitToken = 0 ∨ profitRecipient = 0) .zeroAddress
  refuse (borrowAmount = 0) .zeroAmount
  let s ← read
  refuse (s.allowedV3Pools pool = false) .unsupportedPool
  refuse (s.allowedBorrowTokens borrowToken = false) .unsupportedBorrowToken
  refuse (s.allowedFeeTiers feeTier = false) .unsupportedFeeTier
  ofExcept (validateV3Steps s.allowedRouters steps)
  let first ← token0 pool
  let second ← token1 pool
  refuse (borrowToken ≠ first ∧ borrowToken ≠ second) .unsupportedBorrowToken
  let ctx : V3CallbackContext :=
    { executionId := d.deriveExecutionId .v3 pool borrowToken borrowAmount minProfit profitToken profitRecipient
        steps.length msg.blockNumber
      pool := pool
      borrowToken := borrowToken
      borrowAmount := borrowAmount
      feeTier := feeTier
      minProfit := minProfit
      profitToken := profitToken
      profitRecipient := profitRecipient
      steps := steps }
  beginExecution ctx.executionId (.v3 ctx (d.encodeV3 ctx) s.allowedRouters)
  startV3PoolSwap d pool (borrowToken = second) borrowAmount ctx

end Start

end ArbitrageRuntime.Executor
