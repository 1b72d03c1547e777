import ArbitrageRuntime.Lib.Abi
import ArbitrageRuntime.Config
import ArbitrageRuntime.Amm.StateSimulator

namespace ArbitrageRuntime

inductive AmmRouteKind
  | uniswapV2
  | uniswapV3 (feeTier : Nat) (path : Bytes)
  deriving DecidableEq

/-- The sizing figures of a payload's telemetry sample. The fields that only print a text are left
out. -/
structure EdgeMetadata where
  status : String
  gasEstimate : Nat
  bestSizeBps : Nat
  amountInWei : Nat
  amountOutWei : Nat
  grossEdgeWei : Int
  grossEdgeNative : ℚ
  repaymentWei : Nat
  repaymentNative : ℚ
  priceImpactBps : Nat
  selfSlippageBps : Nat

/-- Calldata before its words are laid out: the four selector bytes and the ABI arguments. -/
structure Calldata where
  selector : Bytes
  args : List Abi.Token

def Calldata.bytes (calldata : Calldata) : Bytes := calldata.selector ++ Abi.encode calldata.args

structure ExecutionPayload where
  tx : Bytes
  calldata : Calldata
  targetContract : Address
  value : Nat
  pair : Address
  ammKind : AmmRouteKind
  capitalCommittedWei : Nat
  expectedProfitWei : Nat
  gasLimit : Nat
  priceImpactBps : Nat
  profitToken : Address
  profitRecipient : Address
  contextPriorityScore : ℚ
  contextToxicityScore : ℚ
  edgeMetadata : Option EdgeMetadata
  poolStateBefore : AmmState

structure FeeExtractionBuildInput where
  router : Address
  pair : Address
  recipient : Address
  tokenIn : Address
  tokenOut : Address
  victimAmountIn : Nat
  stateBefore : AmmState
  capitalAvailableWei : Nat
  gasPriceWei : Nat
  contextPriorityScore : ℚ
  contextToxicityScore : ℚ
  routeKind : AmmRouteKind
  v2SwapPath : Option (List Address)
  v2SwapPools : List V2PoolState

/-- The error exits of the two builders, with the figures that their messages print. -/
inductive BuildError
  | notV3RouteKind
  | victimSimulationFailed
  | wrongSimulatedState
  | tickDataMissing
  | victimPriceImpactTooHigh (bps : Nat)
  | noReversePath
  | borrowTokenNormalization (token : Address)
  | profitTokenNormalization (token : Address)
  | repaymentTokenNormalization (token : Address)
  | noPositiveGrossEdge
  | noNormalizedGrossEdge
  | noRoiPositiveSize
  | minProfitNotParsed
  | profitBelowMinimum (simulated minimum : Nat)
  | zeroNetLiveEdge
  | executorMissing

/-- A builder stops with an error value, or by a division by zero that unwinds its task. -/
inductive BuildStop
  | refused (error : BuildError)
  | divisionByZero

/-- `?` on an option with the error that `ok_or_else` gives. -/
def orRefuse {α : Type} (value : Option α) (error : BuildError) : Except BuildStop α :=
  match value with
  | some a => .ok a
  | none => .error (.refused error)

theorem orRefuse_eq_ok {α : Type} {value : Option α} {error : BuildError} {a : α} :
    orRefuse value error = .ok a ↔ value = some a := by
  cases value <;> simp [orRefuse]

def refuseIf (condition : Prop) [Decidable condition] (error : BuildError) : Except BuildStop Unit :=
  if condition then .error (.refused error) else .ok ()

theorem refuseIf_eq_ok {condition : Prop} [Decidable condition] {error : BuildError} {u : Unit} :
    refuseIf condition error = .ok u ↔ ¬ condition := by
  by_cases holds : condition <;> simp [refuseIf, holds]

/-- One argument of the flash swap call: a routed V2 step. -/
structure EncodedSwapStep where
  router : Address
  path : List Address
  amountIn : Nat
  minOut : Nat
  deriving DecidableEq

structure EncodedV3SwapStep where
  router : Address
  path : Bytes
  amountIn : Nat
  minOut : Nat
  deriving DecidableEq

def stepToken (step : EncodedSwapStep) : Abi.Token :=
  .tuple [.address step.router, .array (step.path.map .address), .uint step.amountIn, .uint step.minOut]

def v3StepToken (step : EncodedV3SwapStep) : Abi.Token :=
  .tuple [.address step.router, .bytes step.path, .uint step.amountIn, .uint step.minOut]

/-- First four bytes of the Keccak hash of
`startV2FlashSwap(address,address,uint256,uint256,address,address,(address,address[],uint256,uint256)[])`. -/
def startV2FlashSwapSelector : Bytes := [0xb1, 0xd5, 0x64, 0x7b]

/-- First four bytes of the Keccak hash of
`startV3FlashSwap(address,address,uint256,uint24,uint256,address,address,(address,bytes,uint256,uint256)[])`. -/
def startV3FlashSwapSelector : Bytes := [0xf8, 0xd0, 0x86, 0x2a]

def encodeStartV2FlashSwap (pair borrowToken : Address) (borrowAmount minProfit : Nat)
    (profitToken profitRecipient : Address) (steps : List EncodedSwapStep) : Calldata where
  selector := startV2FlashSwapSelector
  args := [.address pair, .address borrowToken, .uint borrowAmount, .uint minProfit,
    .address profitToken, .address profitRecipient, .array (steps.map stepToken)]

def encodeStartV3FlashSwap (pool borrowToken : Address) (borrowAmount feeTier minProfit : Nat)
    (profitToken profitRecipient : Address) (steps : List EncodedV3SwapStep) : Calldata where
  selector := startV3FlashSwapSelector
  args := [.address pool, .address borrowToken, .uint borrowAmount, .uint feeTier, .uint minProfit,
    .address profitToken, .address profitRecipient, .array (steps.map v3StepToken)]

end ArbitrageRuntime
