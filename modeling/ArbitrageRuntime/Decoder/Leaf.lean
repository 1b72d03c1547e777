import ArbitrageRuntime.Decoder.UniversalRouter

namespace ArbitrageRuntime

open Abi (Token ParamType)

/-- What `decode_swap_signal` is called with: a call and the ether that goes with it. -/
structure SwapCall where
  selector : Selector
  router : Address
  value : Nat
  args : Bytes
  deriving DecidableEq

/-- The signal of a call, not yet priced. -/
def SwapCall.signal (call : SwapCall) (amountIn : Nat) (amountOutMin : Option Nat) (path : List Address) (kind : SwapKind)
    (confidence : ℚ) (source : String) : SwapSignal where
  selector := call.selector
  amountIn := amountIn
  amountOutMin := amountOutMin
  notionalWei := 0
  path := path
  router := call.router
  kind := kind
  decodeConfidence := confidence
  decodeSource := source

def tokenAsTuple : Token → Option (List Token)
  | .tuple values => some values
  | _ => none

def tokenAsArray : Token → Option (List Token)
  | .array values => some values
  | _ => none

/-- `U256::as_u32` -/
def asU32 (value : Nat) : Except Panic Nat :=
  if value < 2 ^ 32 then .ok value else .error (.narrowing value)

/-- The kind of a signal that sells on one pool only: the encoded path runs backwards. -/
def SwapKind.single (tokenIn tokenOut : Address) (feeTier hops : Nat) (exactOut : Bool) : SwapKind :=
  .v3 feeTier (encodeV3Path tokenOut feeTier tokenIn) hops exactOut

section

variable (abi : Abi.Decoder)

/-- The arm of `SWAP_EXACT_ETH_FOR_TOKENS` and of its variant for tokens that take a fee. -/
def decodeSwapExactEth (call : SwapCall) : Option SwapSignal := do
  let decoded ← abi.decode [.uint 256, .array .address, .address, .uint 256] call.args
  let path ← decoded[1]?.bind tokenAsAddressVec
  some { call.signal call.value (decoded[0]?.bind tokenAsUint) path .v2 1 "abi" with notionalWei := call.value }

/-- The arm of `SWAP_EXACT_TOKENS_FOR_TOKENS` and of its three siblings. -/
def decodeSwapExactTokens (call : SwapCall) : Option SwapSignal := do
  let decoded ← abi.decode [.uint 256, .uint 256, .array .address, .address, .uint 256] call.args
  let amountIn ← decoded[0]?.bind tokenAsUint
  let path ← decoded[2]?.bind tokenAsAddressVec
  some (call.signal amountIn (decoded[1]?.bind tokenAsUint) path .v2 1 "abi")

def decodeV3ExactInputSingleValues (call : SwapCall) (values : List Token) (amountInIndex amountOutMinIndex : Nat)
    (confidence : ℚ) (source : String) : Decoding SwapSignal := do
  let tokenIn ← .ofOption (values[0]?.bind tokenAsAddress)
  let tokenOut ← .ofOption (values[1]?.bind tokenAsAddress)
  let feeWord ← .ofOption (values[2]?.bind tokenAsUint)
  let feeTier ← .ofExcept (asU32 feeWord)
  let amountIn ← .ofOption (values[amountInIndex]?.bind tokenAsUint)
  return call.signal amountIn (values[amountOutMinIndex]?.bind tokenAsUint) [tokenIn, tokenOut]
    (.single tokenIn tokenOut feeTier 1 false) confidence source

def v3SingleTypes : List ParamType :=
  [.tuple [.address, .address, .uint 24, .address, .uint 256, .uint 256, .uint 256, .uint 160]]

def v3SingleNoDeadlineTypes : List ParamType :=
  [.tuple [.address, .address, .uint 24, .address, .uint 256, .uint 256, .uint 160]]

/-- The fields of the one struct that a call takes. -/
def structFields (types : List ParamType) (args : Bytes) : Option (List Token) := do
  let decoded ← abi.decode types args
  decoded[0]?.bind tokenAsTuple

def decodeV3ExactInputSingleWithDeadline (call : SwapCall) : Decoding SwapSignal := do
  let values ← .ofOption (structFields abi v3SingleTypes call.args)
  decodeV3ExactInputSingleValues call values 5 6 1 "abi"

def decodeV3ExactInputSingleNoDeadline (call : SwapCall) : Decoding SwapSignal := do
  let values ← .ofOption (structFields abi v3SingleNoDeadlineTypes call.args)
  decodeV3ExactInputSingleValues call values 4 5 (98 / 100) "uniswap_v3_exact_input_single_no_deadline"

def decodeAlgebraExactInputSingle (call : SwapCall) : Option SwapSignal := do
  let values ← structFields abi [.tuple [.address, .address, .address, .uint 256, .uint 256, .uint 160]] call.args
  let tokenIn ← values[0]?.bind tokenAsAddress
  let tokenOut ← values[1]?.bind tokenAsAddress
  let amountIn ← values[3]?.bind tokenAsUint
  some (call.signal amountIn (values[4]?.bind tokenAsUint) [tokenIn, tokenOut] (.single tokenIn tokenOut 3000 1 false)
    (86 / 100) "algebra_exact_input_single")

/-- The arm of `V3_EXACT_INPUT`. -/
def decodeV3ExactInput (call : SwapCall) : Decoding SwapSignal := do
  let values ← .ofOption (structFields abi [.tuple [.bytes, .address, .uint 256, .uint 256, .uint 256]] call.args)
  let pathBytes ← .ofOption (values[0]?.bind tokenAsBytes)
  let parsed ← parseV3Path pathBytes
  let amountIn ← .ofOption (values[3]?.bind tokenAsUint)
  return call.signal amountIn (values[4]?.bind tokenAsUint) [parsed.tokenIn, parsed.edgeTokenOut]
    (.single parsed.tokenIn parsed.edgeTokenOut parsed.firstFeeTier parsed.hops false) 1 "abi"

def decodeZeroExSellToUniswap (call : SwapCall) : Option SwapSignal := do
  let decoded ← abi.decode [.array .address, .uint 256, .uint 256, .bool] call.args
  let path ← decoded[0]?.bind tokenAsAddressVec
  let amountIn ← decoded[1]?.bind tokenAsUint
  some (call.signal amountIn (decoded[2]?.bind tokenAsUint) path .v2 1 "0x_uniswap")

/-- The arm of the Universal Router: the candidate with the largest notional, or else the first one. -/
def decodeUniversalRouterCall (call : SwapCall) (monitoredTokens : List MonitoredTokenConfig) : Decoding SwapSignal :=
  decodeUniversalRouterSwapForMonitored abi call.selector call.router call.args monitoredTokens <|>
    decodeUniversalRouterSwap abi call.selector call.router call.args

end

/-! The partial decoders of aggregator calls. -/

mutual

/-- The first byte string of a value that reads as a path. -/
def tokenFindV3PathBytes : Token → Decoding Bytes
  | .bytes value | .fixedBytes value => do
    let _ ← parseV3Path value
    return value
  | .array values | .fixedArray values | .tuple values => tokenTreeFindV3PathBytes values
  | _ => .declines

def tokenTreeFindV3PathBytes : List Token → Decoding Bytes
  | [] => .declines
  | token :: rest => tokenFindV3PathBytes token <|> tokenTreeFindV3PathBytes rest

end

mutual

/-- The first list of addresses in a value that has at least two of them and a monitored one. -/
def tokenFindAddressPath (monitoredTokens : List MonitoredTokenConfig) : Token → Option (List Address)
  | .array values | .fixedArray values =>
    match values.mapM tokenAsAddress with
    | some path =>
      if 2 ≤ path.length ∧ pathContainsMonitoredToken path monitoredTokens then some path
      else tokenTreeFindAddressPath monitoredTokens values
    | none => tokenTreeFindAddressPath monitoredTokens values
  | .tuple values => tokenTreeFindAddressPath monitoredTokens values
  | _ => none

def tokenTreeFindAddressPath (monitoredTokens : List MonitoredTokenConfig) : List Token → Option (List Address)
  | [] => none
  | token :: rest => (tokenFindAddressPath monitoredTokens token).or (tokenTreeFindAddressPath monitoredTokens rest)

end

section

variable (abi : Abi.Decoder) (monitoredTokens : List MonitoredTokenConfig)

def decodeTransitV5V3Partial (call : SwapCall) : Decoding SwapSignal := do
  let values ← .ofOption (structFields abi [.tuple [.address, .address, .address, .address, .uint 256, .uint 256,
    .uint 256, .uint 256, .array (.uint 256), .bytes, .string]] call.args)
  let pathBytes ← tokenTreeFindV3PathBytes values
  let parsed ← parseV3Path pathBytes
  let segments ← .ofExcept (parseV3PathSegments pathBytes)
  let path := match segments.head? with
    | some segment => [segment.tokenIn, segment.tokenOut]
    | none => [parsed.tokenIn, parsed.edgeTokenOut]
  .require (pathContainsMonitoredToken path monitoredTokens)
  return call.signal (amountOrHint call.value call.args) none path
    (.single parsed.tokenIn parsed.edgeTokenOut parsed.firstFeeTier parsed.hops false) (72 / 100)
    "transit_v5_v3_path_partial"

def decodeTransitV5V2Partial (call : SwapCall) : Option SwapSignal := do
  let values ← structFields abi [.tuple [.address, .address, .uint 256, .uint 256, .uint 256, .uint 256, .array .address,
    .array .address, .bytes, .string], .uint 256] call.args
  let found ← tokenTreeFindAddressPath monitoredTokens values
  let path := found.eraseDups
  if path.length < 2 ∨ ¬ pathContainsMonitoredToken path monitoredTokens then none
  else some (call.signal (amountOrHint call.value call.args) none path .v2 (68 / 100) "transit_v5_v2_path_partial")

def decodeSwapExactEthForTokenPartial (call : SwapCall) : Option SwapSignal := do
  let decoded ← abi.decode [.uint 256, .uint 256, .address, .address, .bytes, .uint 256] call.args
  let amountIn ← decoded[0]?.bind tokenAsUint
  let amountOutMin := decoded[1]?.bind tokenAsUint
  let tokenOut ← decoded[2]?.bind tokenAsAddress
  let pathBytes ← decoded[4]?.bind tokenAsBytes
  let found := monitoredTokenAddressesInInput monitoredTokens pathBytes
  let path := (if tokenOut ∈ found then found else found ++ [tokenOut]).eraseDups
  if path.length < 2 ∨ ¬ pathContainsMonitoredToken path monitoredTokens then none
  else some (call.signal (if 0 < call.value then call.value else max amountIn 1) amountOutMin path .v2 (62 / 100)
    "swap_exact_eth_for_token_path_partial")

/-- The partial decode of a call, from the monitored tokens that occur in its arguments. -/
def partialSignal (call : SwapCall) (confidence : ℚ) (source : String) : Option SwapSignal :=
  decodePartialSwapFromMonitoredTokens call.selector call.router call.value call.args monitoredTokens confidence source

def decodeSafeInnerAggregatorPartial (call : SwapCall) : Option SwapSignal :=
  if call.selector = .safeInnerSelector9E7212AD then none
  else if call.selector = .safeInnerSelector8CC7104F then
    partialSignal monitoredTokens call (75 / 100) "safe_inner_partial"
  else partialSignal monitoredTokens call (55 / 100) "safe_inner_token_hint"

end

end ArbitrageRuntime
