import ArbitrageRuntime.Decoder.Leaf

namespace ArbitrageRuntime

open Abi (Token ParamType)

/-- The call in a piece of calldata. -/
def innerCall (router : Address) (value : Nat) (calldata : Bytes) : Except Panic SwapCall := do
  let selector ← selectorAt calldata 0
  let args ← sliceFrom calldata 4
  return { selector := selector, router := router, value := value, args := args }

section

variable (abi : Abi.Decoder)

def safeInnerCall (args : Bytes) : Decoding SwapCall := do
  let decoded ← .ofOption (abi.decode [.address, .uint 256, .bytes, .uint 8, .uint 256, .uint 256, .uint 256, .address,
    .address, .bytes] args)
  let target ← .ofOption (decoded[0]?.bind tokenAsAddress)
  let value ← .ofOption (decoded[1]?.bind tokenAsUint)
  let inner ← .ofOption (decoded[2]?.bind tokenAsBytes)
  let operation ← .ofOption (decoded[3]?.bind tokenAsUint)
  .require (operation = 0 ∧ 4 ≤ inner.length)
  .ofExcept (innerCall target value inner)

/-- The elements of a multicall, with or without a deadline before them. -/
def multicallElements (selector : Selector) (args : Bytes) : Option (List Token) :=
  if selector = .multicallBytes then do
    let decoded ← abi.decode [.array .bytes] args
    decoded[0]?.bind tokenAsArray
  else do
    let decoded ← abi.decode [.uint 256, .array .bytes] args
    decoded[1]?.bind tokenAsArray

def multicallElement (router : Address) (value : Nat) (element : Token) : Decoding SwapCall := do
  let calldata ← .ofOption (tokenAsBytes element)
  .require (4 ≤ calldata.length)
  .ofExcept (innerCall router value calldata)

def batchElements (args : Bytes) : List Token :=
  match abi.decode [.array (.tuple [.address, .uint 256, .bytes])] args with
  | some decoded => (decoded[0]?.bind tokenAsArray).getD []
  | none => []

def batchElement (element : Token) : Decoding SwapCall := do
  let fields ← .ofOption (tokenAsTuple element)
  let target ← .ofOption (fields[0]?.bind tokenAsAddress)
  let value := (fields[1]?.bind tokenAsUint).getD 0
  let calldata ← .ofOption (fields[2]?.bind tokenAsBytes)
  .require (4 ≤ calldata.length)
  .ofExcept (innerCall target value calldata)

end

/-- The selectors that the byte scan looks for. None of them nests another call. -/
def childSelectors : List Selector :=
  [.v3ExactInputSingle, .uniswapV3ExactInputSingleNoDeadline, .algebraExactInputSingle, .swapExactTokensForTokens,
    .swapExactTokensForTokensSupportingFee]

section

-- `decode` stands for the recursive call of `decode_swap_signal`.
variable (abi : Abi.Decoder) (monitoredTokens : List MonitoredTokenConfig) (decode : SwapCall → Decoding SwapSignal)

def decodeSafeExecTransactionSwap (call : SwapCall) : Decoding SwapSignal := do
  let inner ← safeInnerCall abi call.args
  decode inner <|> .ofOption (decodeSafeInnerAggregatorPartial monitoredTokens inner)

/-- One offset of the byte scan. -/
def scanAt (router : Address) (value : Nat) (input : Bytes) (offset : Nat) : Decoding SwapSignal := do
  let selector ← .ofExcept (selectorAt input offset)
  .require (selector ∈ childSelectors)
  let args ← .ofExcept (sliceFrom input (offset + 4))
  let signal ← decode { selector := selector, router := router, value := value, args := args }
  .require (pathContainsMonitoredToken signal.path monitoredTokens)
  return signal

def decodeNestedSwapFromCalldata (router : Address) (value : Nat) (input : Bytes) : Decoding SwapSignal :=
  .first (scanAt monitoredTokens decode router value input) (List.range (input.length - 3))

/-- The byte scan of a wrapper's arguments, with the wrapper's own label on the result. -/
def scanLabelled (call : SwapCall) (confidence : ℚ) (source : String) : Decoding SwapSignal := do
  let signal ← decodeNestedSwapFromCalldata monitoredTokens decode call.router call.value call.args
  return signal.relabel call.selector confidence source

def decodeMulticallNestedSwap (call : SwapCall) : Decoding SwapSignal := do
  let elements ← .ofOption (multicallElements abi call.selector call.args)
  .first (fun element => do
      let inner ← multicallElement call.router call.value element
      let signal ← decode inner
      return signal.relabel call.selector (92 / 100) "multicall_nested") elements <|>
    scanLabelled monitoredTokens decode call (68 / 100) "multicall_selector_scan"

def decodePrivateSwapWrapper (call : SwapCall) : Decoding SwapSignal :=
  scanLabelled monitoredTokens decode call (88 / 100) "private_swap_wrapper_nested"

def decodeBatchExecuteNestedSwap (call : SwapCall) : Decoding SwapSignal :=
  .first (fun element => do
      let inner ← batchElement element
      let signal ← decode inner
      return signal.relabel call.selector (82 / 100) "batch_execute_nested") (batchElements abi call.args) <|>
    scanLabelled monitoredTokens decode call (58 / 100) "batch_execute_selector_scan"

def decodePrivateSearcherFingerprint (call : SwapCall) : Decoding SwapSignal :=
  scanLabelled monitoredTokens decode call (62 / 100) "private_searcher_nested_fingerprint" <|>
    .ofOption (partialSignal monitoredTokens call (42 / 100) "private_searcher_token_fingerprint")

open Selector in
def decodeKnownAggregatorPartial (call : SwapCall) : Decoding SwapSignal :=
  if call.selector = transitExactInputV3Swap then
    decodeTransitV5V3Partial abi monitoredTokens call <|>
      .ofOption (partialSignal monitoredTokens call (45 / 100) "transit_v5_token_order_partial")
  else if call.selector = transitExactInputV2Swap then
    .ofOption ((decodeTransitV5V2Partial abi monitoredTokens call).or
      (partialSignal monitoredTokens call (52 / 100) "transit_v5_v2_token_order_partial"))
  else if call.selector = transitSwapV5 ∨ call.selector = aggregatorSelector0A2B8F36 ∨
      call.selector = aggregatorSelector0060EA13 ∨ call.selector = aggregatorSelector448E340E ∨
      call.selector = aggregatorSelector9265BB9D then
    .ofOption (partialSignal monitoredTokens call (35 / 100) "token_order_partial")
  else if call.selector = aggregatorSelectorC3192F1F then
    .ofOption ((decodeSwapExactEthForTokenPartial abi monitoredTokens call).or
      (partialSignal monitoredTokens call (35 / 100) "token_order_partial"))
  else if call.selector = privateSearcherSelectorD00BA30B then decodePrivateSearcherFingerprint monitoredTokens decode call
  else .declines

/-- The dispatch of `decode_swap_signal`. -/
def decodeSwapSignalWith (call : SwapCall) : Decoding SwapSignal :=
  match callKind call.selector with
  | .ethForTokens => .ofOption (decodeSwapExactEth abi call)
  | .tokensForAny => .ofOption (decodeSwapExactTokens abi call)
  | .v3Single => decodeV3ExactInputSingleWithDeadline abi call
  | .v3SingleNoDeadline => decodeV3ExactInputSingleNoDeadline abi call
  | .algebraSingle => .ofOption (decodeAlgebraExactInputSingle abi call)
  | .v3Input => decodeV3ExactInput abi call
  | .universalRouter => decodeUniversalRouterCall abi call monitoredTokens
  | .zeroEx => .ofOption (decodeZeroExSellToUniswap abi call)
  | .safe => decodeSafeExecTransactionSwap abi monitoredTokens decode call
  | .multicall => decodeMulticallNestedSwap abi monitoredTokens decode call
  | .privateWrapper => decodePrivateSwapWrapper monitoredTokens decode call
  | .batch => decodeBatchExecuteNestedSwap abi monitoredTokens decode call
  | .other => decodeKnownAggregatorPartial abi monitoredTokens decode call

end

section

variable (abi : Abi.Decoder) (monitoredTokens : List MonitoredTokenConfig)

/-- Decoding with a bound on the nesting. -/
def decodeSwapSignalFuel : Nat → SwapCall → Decoding SwapSignal
  | 0, _ => .fails .endless
  | fuel + 1, call => decodeSwapSignalWith abi monitoredTokens (decodeSwapSignalFuel fuel) call

/-- Every nested call is shorter than the call around it, so that its length bounds the nesting. -/
def decodeSwapSignal (call : SwapCall) : Decoding SwapSignal :=
  decodeSwapSignalFuel abi monitoredTokens (call.args.length + 1) call

end

end ArbitrageRuntime
