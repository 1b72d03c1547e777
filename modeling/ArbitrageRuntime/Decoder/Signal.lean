import ArbitrageRuntime.Decoder.Path
import ArbitrageRuntime.Config
import Mathlib.Data.List.Sort

namespace ArbitrageRuntime

inductive SwapKind
  | v2
  | v3 (feeTier : Nat) (encodedPath : Bytes) (hops : Nat) (exactOut : Bool)
  deriving DecidableEq

structure SwapSignal where
  selector : Selector
  amountIn : Nat
  amountOutMin : Option Nat
  notionalWei : Nat
  path : List Address
  router : Address
  kind : SwapKind
  decodeConfidence : ℚ
  decodeSource : String
  deriving DecidableEq

def SwapSignal.pathLen (signal : SwapSignal) : Nat :=
  match signal.kind with
  | .v2 => signal.path.length
  | .v3 _ _ hops _ => max (hops + 1) signal.path.length

/-- How the wrappers around a nested swap relabel what they found. -/
def SwapSignal.relabel (signal : SwapSignal) (selector : Selector) (confidence : ℚ) (source : String) : SwapSignal :=
  { signal with
    selector := selector
    decodeConfidence := min signal.decodeConfidence confidence
    decodeSource := source }

namespace Selector

def swapExactTokensForTokens : Selector := ⟨0x38, 0xed, 0x17, 0x39⟩
def swapExactEthForTokens : Selector := ⟨0x7f, 0xf3, 0x6a, 0xb5⟩
def swapExactTokensForEth : Selector := ⟨0x18, 0xcb, 0xaf, 0xe5⟩
def swapExactTokensForTokensSupportingFee : Selector := ⟨0x5c, 0x11, 0xd7, 0x95⟩
def swapExactEthForTokensSupportingFee : Selector := ⟨0xb6, 0xf9, 0xde, 0x95⟩
def swapExactTokensForEthSupportingFee : Selector := ⟨0x79, 0x1a, 0xc9, 0x47⟩
def v3ExactInputSingle : Selector := ⟨0x41, 0x4b, 0xf3, 0x89⟩
def v3ExactInput : Selector := ⟨0xc0, 0x4b, 0x8d, 0x59⟩
def universalRouterExecute : Selector := ⟨0x35, 0x93, 0x56, 0x4c⟩
def universalRouterExecuteNoDeadline : Selector := ⟨0x24, 0x85, 0x6b, 0xc3⟩
def zeroExSellToUniswap : Selector := ⟨0xd9, 0x62, 0x7a, 0xa4⟩
def safeExecTransaction : Selector := ⟨0x6a, 0x76, 0x12, 0x02⟩
def transitSwapV5 : Selector := ⟨0xd8, 0x08, 0xd8, 0x89⟩
def transitExactInputV3Swap : Selector := ⟨0xb9, 0xb5, 0x14, 0x9b⟩
def transitExactInputV2Swap : Selector := ⟨0x0d, 0xc4, 0xbd, 0xae⟩
def aggregatorSelector0A2B8F36 : Selector := ⟨0x0a, 0x2b, 0x8f, 0x36⟩
def aggregatorSelector0060EA13 : Selector := ⟨0x00, 0x60, 0xea, 0x13⟩
def aggregatorSelector448E340E : Selector := ⟨0x44, 0x8e, 0x34, 0x0e⟩
def aggregatorSelector9265BB9D : Selector := ⟨0x92, 0x65, 0xbb, 0x9d⟩
def aggregatorSelectorC3192F1F : Selector := ⟨0xc3, 0x19, 0x2f, 0x1f⟩
def privateSearcherSelectorD00BA30B : Selector := ⟨0xd0, 0x0b, 0xa3, 0x0b⟩
def privateSwapWrapper2E35732F : Selector := ⟨0x2e, 0x35, 0x73, 0x2f⟩
def polymarketBatchExecute : Selector := ⟨0x02, 0x3e, 0x8d, 0x84⟩
def uniswapV3ExactInputSingleNoDeadline : Selector := ⟨0x04, 0xe4, 0x5a, 0xaf⟩
def algebraExactInputSingle : Selector := ⟨0xbc, 0x65, 0x11, 0x88⟩
def multicallBytes : Selector := ⟨0xac, 0x96, 0x50, 0xd8⟩
def multicallDeadlineBytes : Selector := ⟨0x5a, 0xe4, 0x01, 0xdc⟩
def safeInnerSelector8CC7104F : Selector := ⟨0x8c, 0xc7, 0x10, 0x4f⟩
def safeInnerSelector9E7212AD : Selector := ⟨0x9e, 0x72, 0x12, 0xad⟩

end Selector

/-- The arms of the dispatch on the selector. The selectors of different arms are different, so that the
order of the tests does not matter. -/
inductive CallKind
  | ethForTokens
  | tokensForAny
  | v3Single
  | v3SingleNoDeadline
  | algebraSingle
  | v3Input
  | universalRouter
  | zeroEx
  | safe
  | multicall
  | privateWrapper
  | batch
  | other
  deriving DecidableEq

open Selector in
def callKind (selector : Selector) : CallKind :=
  if selector = swapExactEthForTokens ∨ selector = swapExactEthForTokensSupportingFee then .ethForTokens
  else if selector = swapExactTokensForTokens ∨ selector = swapExactTokensForEth ∨
      selector = swapExactTokensForTokensSupportingFee ∨ selector = swapExactTokensForEthSupportingFee then .tokensForAny
  else if selector = v3ExactInputSingle then .v3Single
  else if selector = uniswapV3ExactInputSingleNoDeadline then .v3SingleNoDeadline
  else if selector = algebraExactInputSingle then .algebraSingle
  else if selector = v3ExactInput then .v3Input
  else if selector = universalRouterExecute ∨ selector = universalRouterExecuteNoDeadline then .universalRouter
  else if selector = zeroExSellToUniswap then .zeroEx
  else if selector = safeExecTransaction then .safe
  else if selector = multicallBytes ∨ selector = multicallDeadlineBytes then .multicall
  else if selector = privateSwapWrapper2E35732F then .privateWrapper
  else if selector = polymarketBatchExecute then .batch
  else .other

def tokenAsUint : Abi.Token → Option Nat
  | .uint value => some value
  | _ => none

def tokenAsAddress : Abi.Token → Option Address
  | .address value => some value
  | _ => none

def tokenAsBytes : Abi.Token → Option Bytes
  | .bytes value => some value
  | _ => none

def tokenAsAddressVec : Abi.Token → Option (List Address)
  | .array values => values.mapM tokenAsAddress
  | _ => none

def pathContainsMonitoredToken (path : List Address) (monitoredTokens : List MonitoredTokenConfig) : Bool :=
  path.any fun address => monitoredTokens.any fun token => token.address == address

/-- The value of an ether swap is its own notional. Another signal is priced by its first token. -/
def estimateNotionalWei (signal : SwapSignal) (monitoredTokens : List MonitoredTokenConfig) : Option Nat :=
  if signal.selector = Selector.swapExactEthForTokens ∨
      signal.selector = Selector.swapExactEthForTokensSupportingFee then some signal.amountIn
  else do
    let input ← signal.path.head?
    let token ← monitoredTokens.find? fun token => token.address == input
    parseEther (signal.amountIn / 10 ^ token.decimals * token.priceEth)

/-- Where the bytes of an address first stand in the input. -/
def addressPosition (input : Bytes) (address : Address) : Option Nat :=
  (List.range (input.length - 19)).find? fun i => (input.drop i).take 20 == addressBytes address

/-- The monitored tokens that occur in the input, in the order of their first occurrence, six at most. -/
def monitoredTokenAddressesInInput (monitoredTokens : List MonitoredTokenConfig) (input : Bytes) : List Address :=
  let found := monitoredTokens.filterMap fun token =>
    (addressPosition input token.address).map fun position => (position, token.address)
  ((found.insertionSort fun left right => left.1 ≤ right.1).map Prod.snd).take 6

/-- The smallest word of the input that looks like an amount. -/
def amountHintFromCalldata (input : Bytes) : Option Nat :=
  let words := (List.range (input.length / 32)).map fun i => natOfBytes ((input.drop (32 * i)).take 32)
  (words.filter fun value => 10000 ≤ value ∧ value ≤ 10 ^ 24).min?

def polygonPartialCounterpartTokens : List Address :=
  [0x2791bca1f2de4661ed88a30c99a7a9449aa84174, 0xc2132d05d31c914a87c6611c10748aeb04b58e8f,
    0x0d500b1d8e8ef31e21c99d1db9a6444d3adf1270, 0x7ceb23fd6bc0add59e62ac25578270cff1b9f619,
    0x8f3cf7ad23cd3cadbd9735aff958023239c6a063]

/-- A lone monitored token gets a counterpart: another monitored token, or else a known one. -/
def partialPathFromMonitoredTokens (monitoredTokens : List MonitoredTokenConfig) (args : Bytes) : List Address :=
  let path := (monitoredTokenAddressesInInput monitoredTokens args).eraseDups
  match path with
  | [anchor] =>
    match (monitoredTokens.map MonitoredTokenConfig.address ++ polygonPartialCounterpartTokens).find? fun address =>
        address ≠ anchor with
    | some counterpart => [anchor, counterpart]
    | none => path
  | _ => path

/-- The amount that a partial decode works with. -/
def amountOrHint (value : Nat) (args : Bytes) : Nat :=
  if 0 < value then value else (amountHintFromCalldata args).getD 1

def decodePartialSwapFromMonitoredTokens (selector : Selector) (router : Address) (value : Nat) (args : Bytes)
    (monitoredTokens : List MonitoredTokenConfig) (decodeConfidence : ℚ) (decodeSource : String) : Option SwapSignal :=
  match partialPathFromMonitoredTokens monitoredTokens args with
  | first :: second :: rest =>
    if first = second then none
    else some
      { selector := selector
        amountIn := amountOrHint value args
        amountOutMin := none
        notionalWei := 0
        path := first :: second :: rest
        router := router
        kind := .v2
        decodeConfidence := decodeConfidence
        decodeSource := decodeSource }
  | _ => none

end ArbitrageRuntime
