import ArbitrageRuntime.Base
import ArbitrageRuntime.Lib.Interaction

namespace ArbitrageRuntime.Executor

structure V2SwapStep where
  router : Address
  path : List Address
  amountIn : Nat
  minOut : Nat
  deriving DecidableEq

structure V3SwapStep where
  router : Address
  path : Bytes
  amountIn : Nat
  minOut : Nat
  deriving DecidableEq

structure V2CallbackContext where
  executionId : Nat
  pair : Address
  borrowToken : Address
  borrowAmount : Nat
  minProfit : Nat
  profitToken : Address
  profitRecipient : Address
  steps : List V2SwapStep
  deriving DecidableEq

structure V3CallbackContext where
  executionId : Nat
  pool : Address
  borrowToken : Address
  borrowAmount : Nat
  feeTier : Nat
  minProfit : Nat
  profitToken : Address
  profitRecipient : Address
  steps : List V3SwapStep
  deriving DecidableEq

inductive FlowKind
  | v2
  | v3
  deriving DecidableEq

/-- The executor at its address, with the two parts of the language that stay abstract: the ABI coding
of the callback contexts, of which only the round trip is used, and the hash behind the
execution id. -/
structure Deployment (Data : Type) where
  self : Address
  encodeV2 : V2CallbackContext → Data
  decodeV2 : Data → Option V2CallbackContext
  decode_encodeV2 : ∀ ctx, decodeV2 (encodeV2 ctx) = some ctx
  encodeV3 : V3CallbackContext → Data
  decodeV3 : Data → Option V3CallbackContext
  decode_encodeV3 : ∀ ctx, decodeV3 (encodeV3 ctx) = some ctx
  deriveExecutionId : FlowKind → (venue borrowToken : Address) → (borrowAmount minProfit : Nat) →
    (profitToken profitRecipient : Address) → (stepCount blockNumber : Nat) → Nat

abbrev PlainData : Type := V2CallbackContext ⊕ V3CallbackContext

/-- Contexts as their own encoding. -/
def plain : Deployment PlainData where
  self := 100
  encodeV2 := .inl
  decodeV2 := Sum.getLeft?
  decode_encodeV2 := fun _ => rfl
  encodeV3 := .inr
  decodeV3 := Sum.getRight?
  decode_encodeV3 := fun _ => rfl
  deriveExecutionId := fun _ _ _ borrowAmount _ _ _ _ blockNumber => borrowAmount + blockNumber

/-- What a start call opened: the context it built, the bytes it handed to the venue, and the router
allowlist it validated the steps against. -/
inductive Opening (Data : Type)
  | v2 (ctx : V2CallbackContext) (data : Data) (allowedRouters : Address → Bool)
  | v3 (ctx : V3CallbackContext) (data : Data) (allowedRouters : Address → Bool)

def Opening.allowedRouters {Data : Type} : Opening Data → Address → Bool
  | .v2 _ _ allowed => allowed
  | .v3 _ _ allowed => allowed

/-- The storage of the contract. `opening` is not part of it: it remembers the start call behind the
execution in progress, for statements about it. -/
structure Storage (Data : Type) where
  owner : Address
  authorizedOperators : Address → Bool
  allowedV2Pairs : Address → Bool
  allowedV3Pools : Address → Bool
  allowedRouters : Address → Bool
  allowedBorrowTokens : Address → Bool
  allowedFeeTiers : Nat → Bool
  activeExecutionId : Nat
  executionInProgress : Bool
  opening : Option (Opening Data)

/-- The state after the constructor. -/
def deployed {Data : Type} (initialOwner : Address) : Storage Data where
  owner := initialOwner
  authorizedOperators := Function.update (fun _ => false) initialOwner true
  allowedV2Pairs := fun _ => false
  allowedV3Pools := fun _ => false
  allowedRouters := fun _ => false
  allowedBorrowTokens := fun _ => false
  allowedFeeTiers := fun _ => false
  activeExecutionId := 0
  executionInProgress := false
  opening := none

inductive Error
  | onlyOwner
  | onlyAuthorizedOperator
  | executionAlreadyInProgress
  | noExecutionInProgress
  | unknownExecution
  | invalidExecutionSource
  | zeroAddress
  | zeroAmount
  | invalidPath
  | invalidStep
  | invalidCaller
  | unsupportedPair
  | unsupportedPool
  | unsupportedBorrowToken
  | unsupportedFeeTier
  | stepExecutionFailed (stepIndex : Nat)
  | repaymentFailed
  | profitBelowMinimum (realizedProfit minimumProfit : Nat)
  | arithmeticPanic
  | indexPanic
  | abiDecoding
  deriving DecidableEq

/-- The calls the executor makes to other contracts. -/
inductive Request (Data : Type)
  | token0 (venue : Address)
  | token1 (venue : Address)
  | getReserves (pair : Address)
  | swapV2 (pair : Address) (amount0Out amount1Out : Nat) (recipient : Address) (data : Data)
  | swapV3 (pool recipient : Address) (zeroForOne : Bool) (amountSpecified : Int) (sqrtPriceLimitX96 : Nat)
      (data : Data)
  | balanceOf (token owner : Address)
  | allowance (token owner spender : Address)
  | approve (token spender : Address) (amount : Nat)
  | transfer (token recipient : Address) (amount : Nat)
  | swapExactTokensForTokens (router : Address) (amountIn amountOutMin : Nat) (path : List Address) (recipient : Address)
      (deadline : Nat)
  | exactInput (router : Address) (path : Bytes) (recipient : Address) (deadline amountIn amountOutMinimum : Nat)
  | nativeBalance
  | sendNative (recipient : Address) (amount : Nat)

/-- The calls that the compiler makes static. -/
def Request.isView {Data : Type} : Request Data → Bool
  | .token0 _ | .token1 _ | .getReserves _ | .balanceOf .. | .allowance .. | .nativeBalance => true
  | _ => false

def Reply {Data : Type} : Request Data → Type
  | .token0 _ | .token1 _ => Address
  | .getReserves _ => Nat × Nat
  | .swapV2 .. => Unit
  | .swapV3 .. => Int × Int
  | .balanceOf .. | .allowance .. | .exactInput .. | .nativeBalance => Nat
  | .approve .. | .transfer .. | .sendNative .. => Bool
  | .swapExactTokensForTokens .. => List Nat

/-- The caller and the block of an entry call. -/
structure Message where
  sender : Address
  blockNumber : Nat
  timestamp : Nat

/-- The entry points that write or that make calls. -/
inductive Entry (Data : Type)
  | transferOwnership (newOwner : Address)
  | setAuthorizedOperator (operator : Address) (allowed : Bool)
  | setAllowedV2Pair (pair : Address) (allowed : Bool)
  | setAllowedV2Pairs (pairs : List Address) (allowed : Bool)
  | setAllowedV3Pool (pool : Address) (allowed : Bool)
  | setAllowedV3Pools (pools : List Address) (allowed : Bool)
  | setAllowedRouter (router : Address) (allowed : Bool)
  | setAllowedRouters (routers : List Address) (allowed : Bool)
  | setAllowedBorrowToken (token : Address) (allowed : Bool)
  | setAllowedBorrowTokens (tokens : List Address) (allowed : Bool)
  | setAllowedFeeTier (feeTier : Nat) (allowed : Bool)
  | setAllowedFeeTiers (feeTiers : List Nat) (allowed : Bool)
  | rescueToken (token recipient : Address) (amount : Nat)
  | rescueNative (recipient : Address) (amount : Nat)
  | startV2FlashSwap (pair borrowToken : Address) (borrowAmount minProfit : Nat)
      (profitToken profitRecipient : Address) (steps : List V2SwapStep)
  | startV3FlashSwap (pool borrowToken : Address) (borrowAmount feeTier minProfit : Nat)
      (profitToken profitRecipient : Address) (steps : List V3SwapStep)
  | uniswapV2Call (sender : Address) (amount0 amount1 : Nat) (data : Data)
  | uniswapV3SwapCallback (amount0Delta amount1Delta : Int) (data : Data)

structure Call (Data : Type) where
  msg : Message
  entry : Entry Data

end ArbitrageRuntime.Executor
