import ArbitrageRuntime.Lib.AbiDecoder
import ArbitrageRuntime.Decoder.Signal

namespace ArbitrageRuntime

open Abi (Token ParamType)

variable (abi : Abi.Decoder)

/-- The part of a signal that all Universal Router commands fill in alike. -/
def universalRouterSignal (selector : Selector) (router : Address) (amountIn : Nat) (amountOutMin : Option Nat)
    (path : List Address) (kind : SwapKind) : SwapSignal where
  selector := selector
  amountIn := amountIn
  amountOutMin := amountOutMin
  notionalWei := 0
  path := path
  router := router
  kind := kind
  decodeConfidence := 1
  decodeSource := "universal_router"

def v2CommandTypes : List ParamType := [.address, .uint 256, .uint 256, .array .address, .bool]

def v3CommandTypes : List ParamType := [.address, .uint 256, .uint 256, .bytes, .bool]

def decodeUniversalRouterV2ExactIn (selector : Selector) (router : Address) (input : Bytes) : Decoding SwapSignal := do
  let decoded ← .ofOption (abi.decode v2CommandTypes input)
  let amountIn ← .ofOption (decoded[1]?.bind tokenAsUint)
  let amountOutMin := decoded[2]?.bind tokenAsUint
  let path ← .ofOption (decoded[3]?.bind tokenAsAddressVec)
  return universalRouterSignal selector router amountIn amountOutMin path .v2

def decodeUniversalRouterV2ExactOut (selector : Selector) (router : Address) (input : Bytes) : Decoding SwapSignal := do
  let decoded ← .ofOption (abi.decode v2CommandTypes input)
  let amountOut ← .ofOption (decoded[1]?.bind tokenAsUint)
  let amountInMax ← .ofOption (decoded[2]?.bind tokenAsUint)
  let path ← .ofOption (decoded[3]?.bind tokenAsAddressVec)
  return universalRouterSignal selector router amountInMax (some amountOut) path .v2

def decodeUniversalRouterV3ExactIn (selector : Selector) (router : Address) (input : Bytes) : Decoding SwapSignal := do
  let decoded ← .ofOption (abi.decode v3CommandTypes input)
  let amountIn ← .ofOption (decoded[1]?.bind tokenAsUint)
  let amountOutMin := decoded[2]?.bind tokenAsUint
  let pathBytes ← .ofOption (decoded[3]?.bind tokenAsBytes)
  let parsed ← parseV3Path pathBytes
  return universalRouterSignal selector router amountIn amountOutMin [parsed.tokenIn, parsed.edgeTokenOut]
    (.v3 parsed.firstFeeTier (encodeV3Path parsed.edgeTokenOut parsed.firstFeeTier parsed.tokenIn) parsed.hops false)

def decodeUniversalRouterV3ExactOut (selector : Selector) (router : Address) (input : Bytes) : Decoding SwapSignal := do
  let decoded ← .ofOption (abi.decode v3CommandTypes input)
  let amountOut ← .ofOption (decoded[1]?.bind tokenAsUint)
  let amountInMax ← .ofOption (decoded[2]?.bind tokenAsUint)
  let pathBytes ← .ofOption (decoded[3]?.bind tokenAsBytes)
  let parsed ← parseV3ExactOutPath pathBytes
  return universalRouterSignal selector router amountInMax (some amountOut) [parsed.tokenIn, parsed.edgeTokenOut]
    (.v3 parsed.firstFeeTier (encodeV3Path parsed.edgeTokenOut parsed.firstFeeTier parsed.tokenIn) parsed.hops true)

def decodeUniversalRouterSubPlan (input : Bytes) : Option (Bytes × List Token) := do
  let decoded ← abi.decode [.bytes, .array .bytes] input
  let commands ← decoded[0]?.bind tokenAsBytes
  let inputs ← decoded[1]?.bind fun token =>
    match token with
    | .array values => some values
    | _ => none
  some (commands, inputs)

/-- The loop over a plan: every command with the input at its place. An input that is not a byte string
is skipped, and the first missing input ends the loop. -/
def forCommands {α : Type} (visit : UInt8 → Bytes → Except Panic (List α)) :
    Bytes → List Token → Except Panic (List α)
  | command :: commands, .bytes input :: inputs => do
    let here ← visit (command &&& 0x7f) input
    let later ← forCommands visit commands inputs
    return here ++ later
  | _ :: commands, _ :: inputs => forCommands visit commands inputs
  | _, _ => .ok []

/-- What an attempt adds to the list of signals. -/
def pushed (attempt : Decoding SwapSignal) : Except Panic (List SwapSignal) :=
  match attempt with
  | .gives signal => .ok [signal]
  | .declines => .ok []
  | .fails error => .error error

/-- `levels` is the number of nesting levels still allowed, four at the top: a plan at depth four is not
read any more. -/
def decodeUniversalRouterParts (selector : Selector) (router : Address) :
    Nat → Bytes → List Token → Except Panic (List SwapSignal)
  | 0, _, _ => .ok []
  | levels + 1, commands, inputs =>
    forCommands (fun opcode input =>
      if opcode = 0x00 then pushed (decodeUniversalRouterV3ExactIn abi selector router input)
      else if opcode = 0x01 then pushed (decodeUniversalRouterV3ExactOut abi selector router input)
      else if opcode = 0x08 then pushed (decodeUniversalRouterV2ExactIn abi selector router input)
      else if opcode = 0x09 then pushed (decodeUniversalRouterV2ExactOut abi selector router input)
      else if opcode = 0x21 then
        match decodeUniversalRouterSubPlan abi input with
        | some (subCommands, subInputs) => decodeUniversalRouterParts selector router levels subCommands subInputs
        | none => .ok []
      else .ok []) commands inputs

inductive Dex
  | v2
  | v3
  deriving DecidableEq

/-- The fields of a hop that its signal is made of. -/
structure UniversalRouterHop where
  dex : Dex
  tokenIn : Address
  tokenOut : Address
  amountIn : Option Nat
  amountOut : Option Nat
  feeTier : Option Nat
  exactOut : Bool
  deriving DecidableEq

/-- `path.windows(2)` as pairs. -/
def pathPairs : List Address → List (Address × Address)
  | first :: second :: rest => (first, second) :: pathPairs (second :: rest)
  | _ => []

def universalRouterV2Hops (input : Bytes) (exactOut : Bool) : List UniversalRouterHop :=
  match abi.decode v2CommandTypes input with
  | none => []
  | some decoded =>
    let amountPrimary := decoded[1]?.bind tokenAsUint
    let amountSecondary := decoded[2]?.bind tokenAsUint
    match decoded[3]?.bind tokenAsAddressVec with
    | none => []
    | some path => (pathPairs path).map fun tokens =>
        { dex := .v2
          tokenIn := tokens.1
          tokenOut := tokens.2
          amountIn := if exactOut then amountSecondary else amountPrimary
          amountOut := if exactOut then amountPrimary else amountSecondary
          feeTier := none
          exactOut := exactOut }

def universalRouterV3Hops (input : Bytes) (exactOut : Bool) : Except Panic (List UniversalRouterHop) :=
  match abi.decode v3CommandTypes input with
  | none => .ok []
  | some decoded =>
    let amountPrimary := decoded[1]?.bind tokenAsUint
    let amountSecondary := decoded[2]?.bind tokenAsUint
    match decoded[3]?.bind tokenAsBytes with
    | none => .ok []
    | some path => do
      let segments ← parseV3PathSegments path
      if exactOut then
        return segments.reverse.map fun segment =>
          { dex := .v3, tokenIn := segment.tokenOut, tokenOut := segment.tokenIn, amountIn := amountSecondary,
            amountOut := amountPrimary, feeTier := some segment.feeTier, exactOut := exactOut }
      else
        return segments.map fun segment =>
          { dex := .v3, tokenIn := segment.tokenIn, tokenOut := segment.tokenOut, amountIn := amountPrimary,
            amountOut := amountSecondary, feeTier := some segment.feeTier, exactOut := exactOut }

/-- The hops that `collect_universal_router_graph` collects. Its counters and its list of unsupported
commands only go to the telemetry. -/
def collectUniversalRouterGraph : Nat → Bytes → List Token → Except Panic (List UniversalRouterHop)
  | 0, _, _ => .ok []
  | levels + 1, commands, inputs =>
    forCommands (fun opcode input =>
      if opcode = 0x00 then universalRouterV3Hops abi input false
      else if opcode = 0x01 then universalRouterV3Hops abi input true
      else if opcode = 0x08 then .ok (universalRouterV2Hops abi input false)
      else if opcode = 0x09 then .ok (universalRouterV2Hops abi input true)
      else if opcode = 0x21 then
        match decodeUniversalRouterSubPlan abi input with
        | some (subCommands, subInputs) => collectUniversalRouterGraph levels subCommands subInputs
        | none => .ok []
      else .ok []) commands inputs

def universalRouterHopToSignal (selector : Selector) (router : Address) (hop : UniversalRouterHop) :
    Option SwapSignal := do
  let amountIn ← hop.amountIn
  if amountIn = 0 then none
  else
    match hop.dex with
    | .v3 => do
      let feeTier ← hop.feeTier
      some (universalRouterSignal selector router amountIn hop.amountOut [hop.tokenIn, hop.tokenOut]
        (.v3 feeTier (encodeV3Path hop.tokenOut feeTier hop.tokenIn) 1 hop.exactOut))
    | .v2 => some (universalRouterSignal selector router amountIn hop.amountOut [hop.tokenIn, hop.tokenOut] .v2)

def decodeUniversalRouterGraphCandidates (selector : Selector) (router : Address) (commands : Bytes)
    (inputs : List Token) : Except Panic (List SwapSignal) := do
  let hops ← collectUniversalRouterGraph abi 4 commands inputs
  return hops.filterMap (universalRouterHopToSignal selector router)

/-- The plan in the arguments, with or without a deadline behind it. -/
def universalRouterPlan (args : Bytes) : Option (Bytes × List Token) := do
  let decoded ← (abi.decode [.bytes, .array .bytes, .uint 256] args).or (abi.decode [.bytes, .array .bytes] args)
  let commands ← decoded[0]?.bind tokenAsBytes
  let inputs ← decoded[1]?.bind fun token =>
    match token with
    | .array values => some values
    | _ => none
  some (commands, inputs)

/-- The signals of a plan: those of the commands themselves, or those of the single hops if there are
none. -/
def planCandidates (selector : Selector) (router : Address) (commands : Bytes) (inputs : List Token) :
    Except Panic (List SwapSignal) := do
  let signals ← decodeUniversalRouterParts abi selector router 4 commands inputs
  if signals.isEmpty then decodeUniversalRouterGraphCandidates abi selector router commands inputs
  else return signals

def decodeUniversalRouterSwapCandidates (selector : Selector) (router : Address) (args : Bytes) :
    Except Panic (List SwapSignal) :=
  match universalRouterPlan abi args with
  | none => .ok []
  | some (commands, inputs) => planCandidates abi selector router commands inputs

def decodeUniversalRouterSwap (selector : Selector) (router : Address) (args : Bytes) : Decoding SwapSignal := do
  let candidates ← .ofExcept (decodeUniversalRouterSwapCandidates abi selector router args)
  .ofOption candidates.head?

/-- The order of candidates: by notional, exact input before exact output, shorter paths first. -/
def universalRouterCandidateRank (signal : SwapSignal) : Nat × Nat × Int :=
  let exactInScore := match signal.kind with
    | .v3 _ _ _ true => 0
    | _ => 1
  (signal.notionalWei, exactInScore, -(signal.pathLen : Int))

def rankLe (left right : Nat × Nat × Int) : Bool :=
  left.1 < right.1 || (left.1 == right.1 &&
    (left.2.1 < right.2.1 || (left.2.1 == right.2.1 && left.2.2 ≤ right.2.2)))

/-- `max_by_key`, which keeps the last of equals. -/
def bestCandidate (best : Option SwapSignal) (signal : SwapSignal) : Option SwapSignal :=
  match best with
  | none => some signal
  | some current =>
    if rankLe (universalRouterCandidateRank current) (universalRouterCandidateRank signal) then some signal
    else some current

def decodeUniversalRouterSwapForMonitored (selector : Selector) (router : Address) (args : Bytes)
    (monitoredTokens : List MonitoredTokenConfig) : Decoding SwapSignal := do
  let candidates ← .ofExcept (decodeUniversalRouterSwapCandidates abi selector router args)
  let priced := candidates.filterMap fun signal =>
    (estimateNotionalWei signal monitoredTokens).map fun notionalWei => { signal with notionalWei := notionalWei }
  .ofOption (priced.foldl bestCandidate none)

end ArbitrageRuntime
