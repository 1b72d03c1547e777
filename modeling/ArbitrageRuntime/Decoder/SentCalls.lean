import ArbitrageRuntime.Decoder.Outcome
import ArbitrageRuntime.Decoder.PathSegments
import ArbitrageRuntime.Lib.AbiRoundTrip

namespace ArbitrageRuntime

open Abi (Token ParamType)

/-- A swap in the words of the router function that it calls. -/
inductive RouterSwap
  | exactEth (selector : Selector) (amountOutMin : Nat) (path : List Address) (recipient : Address) (deadline : Nat)
  | exactTokens (selector : Selector) (amountIn amountOutMin : Nat) (path : List Address) (recipient : Address) (deadline : Nat)
  | v3Single (tokenIn tokenOut : Address) (fee : Nat) (recipient : Address)
    (deadline amountIn amountOutMin sqrtPriceLimit : Nat)
  | v3SingleNoDeadline (tokenIn tokenOut : Address) (fee : Nat) (recipient : Address)
    (amountIn amountOutMin sqrtPriceLimit : Nat)
  | algebraSingle (tokenIn tokenOut recipient : Address) (amountIn amountOutMin sqrtPriceLimit : Nat)
  | v3Input (chain : HopChain) (recipient : Address) (deadline amountIn amountOutMin : Nat)
  | sellToUniswap (path : List Address) (sellAmount minBuyAmount : Nat) (isSushi : Bool)

namespace RouterSwap

def selector : RouterSwap → Selector
  | exactEth selector .. | exactTokens selector .. => selector
  | v3Single .. => .v3ExactInputSingle
  | v3SingleNoDeadline .. => .uniswapV3ExactInputSingleNoDeadline
  | algebraSingle .. => .algebraExactInputSingle
  | v3Input .. => .v3ExactInput
  | sellToUniswap .. => .zeroExSellToUniswap

/-- The parameters that the function declares. -/
def types : RouterSwap → List ParamType
  | exactEth .. => [.uint 256, .array .address, .address, .uint 256]
  | exactTokens .. => [.uint 256, .uint 256, .array .address, .address, .uint 256]
  | v3Single .. => v3SingleTypes
  | v3SingleNoDeadline .. => v3SingleNoDeadlineTypes
  | algebraSingle .. => [.tuple [.address, .address, .address, .uint 256, .uint 256, .uint 160]]
  | v3Input .. => [.tuple [.bytes, .address, .uint 256, .uint 256, .uint 256]]
  | sellToUniswap .. => [.array .address, .uint 256, .uint 256, .bool]

def args : RouterSwap → List Token
  | exactEth _ amountOutMin path recipient deadline =>
    [.uint amountOutMin, .array (path.map .address), .address recipient, .uint deadline]
  | exactTokens _ amountIn amountOutMin path recipient deadline =>
    [.uint amountIn, .uint amountOutMin, .array (path.map .address), .address recipient, .uint deadline]
  | v3Single tokenIn tokenOut fee recipient deadline amountIn amountOutMin limit =>
    [.tuple [.address tokenIn, .address tokenOut, .uint fee, .address recipient, .uint deadline, .uint amountIn,
      .uint amountOutMin, .uint limit]]
  | v3SingleNoDeadline tokenIn tokenOut fee recipient amountIn amountOutMin limit =>
    [.tuple [.address tokenIn, .address tokenOut, .uint fee, .address recipient, .uint amountIn, .uint amountOutMin,
      .uint limit]]
  | algebraSingle tokenIn tokenOut recipient amountIn amountOutMin limit =>
    [.tuple [.address tokenIn, .address tokenOut, .address recipient, .uint amountIn, .uint amountOutMin, .uint limit]]
  | v3Input chain recipient deadline amountIn amountOutMin =>
    [.tuple [.bytes (packedPath chain.hops), .address recipient, .uint deadline, .uint amountIn, .uint amountOutMin]]
  | sellToUniswap path sellAmount minBuyAmount isSushi =>
    [.array (path.map .address), .uint sellAmount, .uint minBuyAmount, .bool isSushi]

/-- What the function does with the sender's tokens, as the bot means to see it. -/
def signal (router : Address) (value : Nat) : RouterSwap → SwapSignal
  | exactEth selector amountOutMin path _ _ =>
    ⟨selector, value, some amountOutMin, value, path, router, .v2, 1, "abi"⟩
  | exactTokens selector amountIn amountOutMin path _ _ =>
    ⟨selector, amountIn, some amountOutMin, 0, path, router, .v2, 1, "abi"⟩
  | v3Single tokenIn tokenOut fee _ _ amountIn amountOutMin _ =>
    ⟨.v3ExactInputSingle, amountIn, some amountOutMin, 0, [tokenIn, tokenOut], router,
      .single tokenIn tokenOut fee 1 false, 1, "abi"⟩
  | v3SingleNoDeadline tokenIn tokenOut fee _ amountIn amountOutMin _ =>
    ⟨.uniswapV3ExactInputSingleNoDeadline, amountIn, some amountOutMin, 0, [tokenIn, tokenOut], router,
      .single tokenIn tokenOut fee 1 false, 98 / 100, "uniswap_v3_exact_input_single_no_deadline"⟩
  | algebraSingle tokenIn tokenOut _ amountIn amountOutMin _ =>
    ⟨.algebraExactInputSingle, amountIn, some amountOutMin, 0, [tokenIn, tokenOut], router,
      .single tokenIn tokenOut 3000 1 false, 86 / 100, "algebra_exact_input_single"⟩
  | v3Input chain _ _ amountIn amountOutMin =>
    let first := chain.hops.head chain.nonempty
    ⟨.v3ExactInput, amountIn, some amountOutMin, 0, [first.tokenIn, first.tokenOut], router,
      .single first.tokenIn first.tokenOut first.feeTier chain.hops.length false, 1, "abi"⟩
  | sellToUniswap path sellAmount minBuyAmount _ =>
    ⟨.zeroExSellToUniswap, sellAmount, some minBuyAmount, 0, path, router, .v2, 1, "0x_uniswap"⟩

/-- The arguments are values of the declared types, and a fee fits the bot's `u32`. -/
def Fits (swap : RouterSwap) : Prop :=
  List.Forall₂ ParamType.Takes swap.types swap.args ∧
    match swap with
    | exactEth selector .. => callKind selector = .ethForTokens
    | exactTokens selector .. => callKind selector = .tokensForAny
    | v3Single _ _ fee .. | v3SingleNoDeadline _ _ fee .. => fee < 2 ^ 32
    | _ => True

end RouterSwap

def callBytes (selector : Selector) (args : List Token) : Bytes :=
  selector.b0 :: selector.b1 :: selector.b2 :: selector.b3 :: Abi.encode args

theorem callOf_callBytes (router : Address) (value : Nat) (selector : Selector) (args : List Token) :
    callOf router value (callBytes selector args) = some ⟨selector, router, value, Abi.encode args⟩ := rfl

/-- A call that reaches a swap through wrappers, each with what else it carries. -/
inductive SentCall
  | swap (sale : RouterSwap)
  | multicall (before : List Bytes) (inner : SentCall) (after : List Bytes)
  | multicallDeadline (deadline : Nat) (before : List Bytes) (inner : SentCall) (after : List Bytes)
  | safe (target : Address) (value : Nat) (inner : SentCall) (safeTxGas baseGas gasPrice : Nat)
    (gasToken refundReceiver : Address) (signatures : Bytes)
  | batch (before : List (Address × Nat × Bytes)) (target : Address) (value : Nat) (inner : SentCall)
    (after : List (Address × Nat × Bytes))

/-- One entry of a batch. -/
def batchToken (entry : Address × Nat × Bytes) : Token :=
  .tuple [.address entry.1, .uint entry.2.1, .bytes entry.2.2]

namespace SentCall

def calldata : SentCall → Bytes
  | swap sale => callBytes sale.selector sale.args
  | multicall before inner after =>
    callBytes .multicallBytes [.array ((before ++ inner.calldata :: after).map .bytes)]
  | multicallDeadline deadline before inner after =>
    callBytes .multicallDeadlineBytes [.uint deadline, .array ((before ++ inner.calldata :: after).map .bytes)]
  | safe target value inner safeTxGas baseGas gasPrice gasToken refundReceiver signatures =>
    callBytes .safeExecTransaction [.address target, .uint value, .bytes inner.calldata, .uint 0, .uint safeTxGas,
      .uint baseGas, .uint gasPrice, .address gasToken, .address refundReceiver, .bytes signatures]
  | batch before target value inner after =>
    callBytes .polymarketBatchExecute [.array ((before ++ (target, value, inner.calldata) :: after).map batchToken)]

/-- The swap at the bottom, under the label of the wrapper around it. A Safe passes a signal on as it is. -/
def signal (router : Address) (value : Nat) : SentCall → SwapSignal
  | swap sale => sale.signal router value
  | multicall _ inner _ => (inner.signal router value).relabel .multicallBytes (92 / 100) "multicall_nested"
  | multicallDeadline _ _ inner _ =>
    (inner.signal router value).relabel .multicallDeadlineBytes (92 / 100) "multicall_nested"
  | safe target value inner .. => inner.signal target value
  | batch _ target value inner _ =>
    (inner.signal target value).relabel .polymarketBatchExecute (82 / 100) "batch_execute_nested"

end SentCall

section

variable (abi : Abi.Decoder) (monitoredTokens : List MonitoredTokenConfig)

/-- A piece of calldata that the decoder finds nothing in. -/
def SilentData (router : Address) (value : Nat) (data : Bytes) : Prop :=
  ∀ call, callOf router value data = some call → decodeSwapSignal abi monitoredTokens call = .declines

/-- The numbers are words, and what stands before the swap is silent. -/
def SentCall.Fits (router : Address) (value : Nat) : SentCall → Prop
  | .swap sale => sale.Fits
  | .multicall before inner _ =>
    (∀ data ∈ before, SilentData abi monitoredTokens router value data) ∧ inner.Fits router value
  | .multicallDeadline deadline before inner _ =>
    deadline < 2 ^ 256 ∧ (∀ data ∈ before, SilentData abi monitoredTokens router value data) ∧ inner.Fits router value
  | .safe target value inner safeTxGas baseGas gasPrice .. =>
    value < 2 ^ 256 ∧ safeTxGas < 2 ^ 256 ∧ baseGas < 2 ^ 256 ∧ gasPrice < 2 ^ 256 ∧ inner.Fits target value
  | .batch before target value inner after =>
    (∀ entry ∈ before ++ (target, value, inner.calldata) :: after, entry.2.1 < 2 ^ 256) ∧
      (∀ entry ∈ before, SilentData abi monitoredTokens entry.1 entry.2.1 entry.2.2) ∧ inner.Fits target value

/-- The parameter lists of the functions that these calls are of. None of them has a text in it. -/
inductive SentTypes : List ParamType → Prop
  | swap (sale : RouterSwap) : SentTypes sale.types
  | multicall : SentTypes [.array .bytes]
  | multicallDeadline : SentTypes [.uint 256, .array .bytes]
  | safe : SentTypes [.address, .uint 256, .bytes, .uint 8, .uint 256, .uint 256, .uint 256, .address, .address, .bytes]
  | batch : SentTypes [.array (.tuple [.address, .uint 256, .bytes])]

/-- The decoder reads back what an encoder of the contract ABI writes for these functions. -/
def ReadsBack : Prop :=
  ∀ types tokens, SentTypes types → List.Forall₂ ParamType.Takes types tokens →
    (Abi.encode tokens).length < 2 ^ 32 → abi.decode types (Abi.encode tokens) = some tokens

end

section

variable {abi : Abi.Decoder} {monitoredTokens : List MonitoredTokenConfig}

theorem tokenAsAddressVec_map (path : List Address) : tokenAsAddressVec (.array (path.map .address)) = some path := by
  have composed : tokenAsAddress ∘ Token.address = fun address => pure address := rfl
  rw [tokenAsAddressVec, List.mapM_map, composed, List.mapM_pure, List.map_id']
  rfl

/-- A packed path is parsed as its first hop. -/
theorem HopChain.parse_packedPath (chain : HopChain) :
    parseV3Path (packedPath chain.hops) = .gives
      { tokenIn := (chain.hops.head chain.nonempty).tokenIn
        edgeTokenOut := (chain.hops.head chain.nonempty).tokenOut
        firstFeeTier := (chain.hops.head chain.nonempty).feeTier
        hops := chain.hops.length } := by
  have segments : pathSegments (packedPath chain.hops) = chain.hops := by
    rw [pathSegments, chain.segments_packedPath]
  rw [parseV3Path_eq, segments, List.head?_eq_some_head chain.nonempty]
  rfl

theorem decodeV3ExactInputSingleValues_of_tokens {call : SwapCall} {tokenIn tokenOut : Address} {fee amountIn : Nat}
    {rest : List Token} {amountInIndex amountOutMinIndex : Nat} {amountOutMin : Option Nat} {confidence : ℚ}
    {source : String} (narrow : asU32 fee = .ok fee)
    (input : (Token.address tokenIn :: .address tokenOut :: .uint fee :: rest)[amountInIndex]?.bind tokenAsUint =
      some amountIn)
    (output : (Token.address tokenIn :: .address tokenOut :: .uint fee :: rest)[amountOutMinIndex]?.bind tokenAsUint =
      amountOutMin) :
    decodeV3ExactInputSingleValues call (.address tokenIn :: .address tokenOut :: .uint fee :: rest) amountInIndex
        amountOutMinIndex confidence source =
      .gives (call.signal amountIn amountOutMin [tokenIn, tokenOut] (.single tokenIn tokenOut fee 1 false) confidence
        source) := by
  simp only [decodeV3ExactInputSingleValues, List.getElem?_cons_zero, List.getElem?_cons_succ, Option.bind_some,
    tokenAsAddress, tokenAsUint, Attempt.ofOption_some, Attempt.gives_bind, narrow, Attempt.ofExcept_ok, input, output]
  rfl

/-- The dispatch reads a swap back from the call of its router function. -/
theorem decodeSwapSignal_swap (reads : ReadsBack abi) {sale : RouterSwap} (fits : sale.Fits) (router : Address)
    (value : Nat) (small : (Abi.encode sale.args).length < 2 ^ 32) :
    decodeSwapSignal abi monitoredTokens ⟨sale.selector, router, value, Abi.encode sale.args⟩ =
      .gives (sale.signal router value) := by
  obtain ⟨takes, fits⟩ := fits
  have read := reads _ _ (.swap sale) takes small
  rw [decodeSwapSignal_eq, decodeSwapSignalWith]
  cases sale with
  | exactEth selector amountOutMin path recipient deadline =>
    have kind : callKind selector = .ethForTokens := fits
    simp only [RouterSwap.types, RouterSwap.args] at read
    simp only [RouterSwap.selector, RouterSwap.args, kind, decodeSwapExactEth, read, Option.bind_eq_bind,
      Option.bind_some, List.getElem?_cons_zero, List.getElem?_cons_succ, tokenAsAddressVec_map]
    rfl
  | exactTokens selector amountIn amountOutMin path recipient deadline =>
    have kind : callKind selector = .tokensForAny := fits
    simp only [RouterSwap.types, RouterSwap.args] at read
    simp only [RouterSwap.selector, RouterSwap.args, kind, decodeSwapExactTokens, read, Option.bind_eq_bind,
      Option.bind_some, List.getElem?_cons_zero, List.getElem?_cons_succ, tokenAsAddressVec_map]
    rfl
  | v3Single tokenIn tokenOut fee recipient deadline amountIn amountOutMin limit =>
    have kind : callKind .v3ExactInputSingle = .v3Single := by decide
    have narrow : asU32 fee = .ok fee := if_pos fits
    simp only [RouterSwap.types, RouterSwap.args] at read
    simp only [RouterSwap.selector, RouterSwap.args, kind, decodeV3ExactInputSingleWithDeadline, structFields, read]
    exact decodeV3ExactInputSingleValues_of_tokens narrow rfl rfl
  | v3SingleNoDeadline tokenIn tokenOut fee recipient amountIn amountOutMin limit =>
    have kind : callKind .uniswapV3ExactInputSingleNoDeadline = .v3SingleNoDeadline := by decide
    have narrow : asU32 fee = .ok fee := if_pos fits
    simp only [RouterSwap.types, RouterSwap.args] at read
    simp only [RouterSwap.selector, RouterSwap.args, kind, decodeV3ExactInputSingleNoDeadline, structFields, read]
    exact decodeV3ExactInputSingleValues_of_tokens narrow rfl rfl
  | algebraSingle tokenIn tokenOut recipient amountIn amountOutMin limit =>
    have kind : callKind .algebraExactInputSingle = .algebraSingle := by decide
    simp only [RouterSwap.types, RouterSwap.args] at read
    simp only [RouterSwap.selector, RouterSwap.args, kind, decodeAlgebraExactInputSingle, structFields, read]
    rfl
  | v3Input chain recipient deadline amountIn amountOutMin =>
    have kind : callKind .v3ExactInput = .v3Input := by decide
    have bytes : tokenAsBytes (.bytes (packedPath chain.hops)) = some (packedPath chain.hops) := rfl
    simp only [RouterSwap.types, RouterSwap.args] at read
    simp only [RouterSwap.selector, RouterSwap.args, kind, decodeV3ExactInput, structFields, read, Option.bind_eq_bind,
      Option.bind_some, List.getElem?_cons_zero, List.getElem?_cons_succ, tokenAsTuple, bytes, Attempt.ofOption_some,
      Attempt.gives_bind, chain.parse_packedPath]
    rfl
  | sellToUniswap path sellAmount minBuyAmount isSushi =>
    have kind : callKind .zeroExSellToUniswap = .zeroEx := by decide
    simp only [RouterSwap.types, RouterSwap.args] at read
    simp only [RouterSwap.selector, RouterSwap.args, kind, decodeZeroExSellToUniswap, read, Option.bind_eq_bind,
      Option.bind_some, List.getElem?_cons_zero, List.getElem?_cons_succ, tokenAsAddressVec_map]
    rfl

/-- The first entry of a wrapper whose call gives a signal decides. -/
theorem decodeSwapSignal_entry {α : Type} {call child : SwapCall} {f : α → Option SwapCall} {before after : List α}
    {entry : α} {signal : SwapSignal} (entries : children abi call = (before ++ entry :: after).filterMap f)
    (silent : ∀ earlier ∈ before, ∀ other, f earlier = some other →
      decodeSwapSignal abi monitoredTokens other = .declines) (found : f entry = some child)
    (gives : decodeSwapSignal abi monitoredTokens child = .gives signal) :
    decodeSwapSignal abi monitoredTokens call = .gives (childLabel call signal) := by
  have split : children abi call = before.filterMap f ++ child :: after.filterMap f := by
    rw [entries, List.filterMap_append, List.filterMap_cons, found]
  rw [decodeSwapSignal_search, Attempt.orElse_eq_gives]
  refine .inl (Attempt.first_eq_gives.mpr
    ⟨_, child, _, split, fun earlier member => ?_, Attempt.map_eq_gives.mpr ⟨signal, gives, rfl⟩⟩)
  obtain ⟨other, inside, same⟩ := List.mem_filterMap.mp member
  exact Attempt.map_eq_declines.mpr (silent other inside earlier same)

theorem children_multicall {selector : Selector} {args : Bytes} {elements : List Bytes} {router : Address} {value : Nat}
    (kind : callKind selector = .multicall)
    (read : multicallElements abi selector args = some (elements.map .bytes)) :
    children abi ⟨selector, router, value, args⟩ = elements.filterMap (callOf router value) := by
  simp only [children, kind, read, Option.getD_some, List.filterMap_map]
  rfl

theorem children_batch {args : Bytes} {entries : List (Address × Nat × Bytes)} {router : Address} {value : Nat}
    (read : batchElements abi args = entries.map batchToken) :
    children abi ⟨.polymarketBatchExecute, router, value, args⟩ =
      entries.filterMap fun entry => callOf entry.1 entry.2.1 entry.2.2 := by
  have kind : callKind .polymarketBatchExecute = .batch := by decide
  simp only [children, kind, read, List.filterMap_map]
  rfl

theorem callBytes_length (selector : Selector) (args : List Token) :
    (callBytes selector args).length = (Abi.encode args).length + 4 := rfl

theorem argument_length_lt {args : List Token} (data : Bytes) (argument : .bytes data ∈ args)
    (small : (Abi.encode args).length + 4 < 2 ^ 32) : data.length < 2 ^ 32 := by
  have own := Abi.bytes_length_le data
  have inside : (Token.bytes data).body.length ≤ (Abi.encode args).length := Abi.body_length_le argument
  omega

/-- The elements of a multicall are values of their type, and each is shorter than the whole. -/
theorem takes_multicall {args : List Token} {elements : List Bytes} (argument : .array (elements.map .bytes) ∈ args)
    (small : (Abi.encode args).length < 2 ^ 32) :
    (ParamType.array .bytes).Takes (.array (elements.map .bytes)) ∧
      ∀ data ∈ elements, data.length ≤ (Abi.encode args).length := by
  have room : (Token.array (elements.map .bytes)).body.length ≤ (Abi.encode args).length := Abi.body_length_le argument
  have counted := Abi.dynamic_length_le (elements.map .bytes) fun value member => by
    obtain ⟨data, _, rfl⟩ := List.mem_map.mp member
    rfl
  constructor
  · refine .array (by omega) fun value member => ?_
    obtain ⟨data, _, rfl⟩ := List.mem_map.mp member
    exact .bytes
  · intro data member
    have own := Abi.bytes_length_le data
    have inside := Abi.element_length_le (List.mem_map_of_mem (f := Token.bytes) member)
    omega

theorem takes_batch {args : List Token} {entries : List (Address × Nat × Bytes)}
    (argument : .array (entries.map batchToken) ∈ args) (fits : ∀ entry ∈ entries, entry.2.1 < 2 ^ 256)
    (small : (Abi.encode args).length < 2 ^ 32) :
    (ParamType.array (.tuple [.address, .uint 256, .bytes])).Takes (.array (entries.map batchToken)) ∧
      ∀ entry ∈ entries, entry.2.2.length ≤ (Abi.encode args).length := by
  have room : (Token.array (entries.map batchToken)).body.length ≤ (Abi.encode args).length :=
    Abi.body_length_le argument
  have counted := Abi.dynamic_length_le (entries.map batchToken) fun value member => by
    obtain ⟨entry, _, rfl⟩ := List.mem_map.mp member
    rfl
  constructor
  · refine .array (by omega) fun value member => ?_
    obtain ⟨entry, inside, rfl⟩ := List.mem_map.mp member
    exact .tuple (.cons .address (.cons (.uint (fits entry inside)) (.cons .bytes .nil)))
  · intro entry member
    have own := Abi.bytes_length_le entry.2.2
    have third : (Token.bytes entry.2.2).body.length ≤ (batchToken entry).body.length :=
      Abi.field_length_le (List.mem_cons_of_mem _ (List.mem_cons_of_mem _ List.mem_cons_self))
    have inside := Abi.element_length_le (List.mem_map_of_mem (f := batchToken) member)
    omega

/-- Whatever wrappers a swap is sent in, the decoder finds it with the amounts and the path that it was sent with. -/
theorem decodeSwapSignal_sent (reads : ReadsBack abi) (sent : SentCall) (router : Address) (value : Nat)
    (fits : sent.Fits abi monitoredTokens router value) (small : sent.calldata.length < 2 ^ 32) :
    ∃ call, callOf router value sent.calldata = some call ∧
      decodeSwapSignal abi monitoredTokens call = .gives (sent.signal router value) := by
  induction sent generalizing router value with
  | swap sale =>
    rw [SentCall.calldata, callBytes_length] at small
    exact ⟨_, callOf_callBytes _ _ _ _, decodeSwapSignal_swap reads fits router value (by omega)⟩
  | multicall before inner after ih =>
    obtain ⟨silent, innerFits⟩ := fits
    rw [SentCall.calldata, callBytes_length] at small
    obtain ⟨takes, shorter⟩ := takes_multicall List.mem_cons_self (Nat.lt_of_add_right_lt small)
    have room := shorter inner.calldata List.mem_append_cons_self
    obtain ⟨call, found, gives⟩ := ih router value innerFits (by omega)
    have read := reads _ _ .multicall (.cons takes .nil) (by omega)
    have elements : multicallElements abi .multicallBytes
        (Abi.encode [.array ((before ++ inner.calldata :: after).map .bytes)]) =
        some ((before ++ inner.calldata :: after).map .bytes) := by
      simp only [multicallElements, if_true, read, Option.bind_eq_bind, Option.bind_some, List.getElem?_cons_zero,
        tokenAsArray]
    exact ⟨_, callOf_callBytes _ _ _ _,
      decodeSwapSignal_entry (children_multicall (by decide) elements) silent found gives⟩
  | multicallDeadline deadline before inner after ih =>
    obtain ⟨deadlineFits, silent, innerFits⟩ := fits
    rw [SentCall.calldata, callBytes_length] at small
    obtain ⟨takes, shorter⟩ := takes_multicall (List.mem_cons_of_mem _ List.mem_cons_self) (Nat.lt_of_add_right_lt small)
    have room := shorter inner.calldata List.mem_append_cons_self
    obtain ⟨call, found, gives⟩ := ih router value innerFits (by omega)
    have read := reads _ _ .multicallDeadline (.cons (.uint deadlineFits) (.cons takes .nil)) (by omega)
    have other : Selector.multicallDeadlineBytes ≠ .multicallBytes := by decide
    have elements : multicallElements abi .multicallDeadlineBytes
        (Abi.encode [.uint deadline, .array ((before ++ inner.calldata :: after).map .bytes)]) =
        some ((before ++ inner.calldata :: after).map .bytes) := by
      simp only [multicallElements, if_neg other, read, Option.bind_eq_bind, Option.bind_some,
        List.getElem?_cons_zero, List.getElem?_cons_succ, tokenAsArray]
    exact ⟨_, callOf_callBytes _ _ _ _,
      decodeSwapSignal_entry (children_multicall (by decide) elements) silent found gives⟩
  | safe target amount inner safeTxGas baseGas gasPrice gasToken refundReceiver signatures ih =>
    obtain ⟨amountFits, safeTxGasFits, baseGasFits, gasPriceFits, innerFits⟩ := fits
    rw [SentCall.calldata, callBytes_length] at small
    have innerSmall := argument_length_lt inner.calldata
      (List.mem_cons_of_mem _ (List.mem_cons_of_mem _ List.mem_cons_self)) small
    obtain ⟨call, found, gives⟩ := ih target amount innerFits innerSmall
    have read := reads _ _ .safe (.cons .address (.cons (.uint amountFits) (.cons .bytes (.cons
      (.uint (Nat.two_pow_pos 256)) (.cons (.uint safeTxGasFits) (.cons (.uint baseGasFits) (.cons (.uint gasPriceFits)
        (.cons .address (.cons .address (.cons .bytes .nil)))))))))) (Nat.lt_of_add_right_lt small)
    have child : safeCall abi (Abi.encode [.address target, .uint amount, .bytes inner.calldata, .uint 0,
        .uint safeTxGas, .uint baseGas, .uint gasPrice, .address gasToken, .address refundReceiver,
        .bytes signatures]) = some call := by
      simp only [safeCall, read, Option.bind_eq_bind, Option.bind_some, List.getElem?_cons_zero,
        List.getElem?_cons_succ, tokenAsAddress, tokenAsUint, tokenAsBytes, if_pos trivial, found]
    refine ⟨_, callOf_callBytes _ _ _ _, ?_⟩
    refine @decodeSwapSignal_entry _ _ Unit _ _ (fun _ => some call) [] [] () _ ?_ (by simp) rfl gives
    simp only [children, show callKind .safeExecTransaction = .safe by decide, child]
    rfl
  | batch before target amount inner after ih =>
    obtain ⟨amountsFit, silent, innerFits⟩ := fits
    rw [SentCall.calldata, callBytes_length] at small
    obtain ⟨takes, shorter⟩ := takes_batch List.mem_cons_self amountsFit (Nat.lt_of_add_right_lt small)
    have room : inner.calldata.length ≤ _ := shorter (target, amount, inner.calldata) List.mem_append_cons_self
    obtain ⟨call, found, gives⟩ := ih target amount innerFits (by omega)
    have read := reads _ _ .batch (.cons takes .nil) (by omega)
    have elements : batchElements abi
        (Abi.encode [.array ((before ++ (target, amount, inner.calldata) :: after).map batchToken)]) =
        (before ++ (target, amount, inner.calldata) :: after).map batchToken := by
      simp only [batchElements, read, List.getElem?_cons_zero, Option.bind_some, tokenAsArray, Option.getD_some]
    exact ⟨_, callOf_callBytes _ _ _ _, decodeSwapSignal_entry (children_batch elements) silent found gives⟩

/-- A Safe that approves and then swaps in one multicall. -/
def approveAndSwap : SentCall :=
  .safe 40 0 (.multicall [[0x09, 0x5e, 0xa7, 0xb3]]
    (.swap (.exactTokens .swapExactTokensForTokens 1000 900 [0xa1, 0xb2] 12 7)) [[]]) 0 0 0 0 0 []

theorem decodeSwapSignal_sent_approveAndSwap :
    ∃ call, callOf 50 3 approveAndSwap.calldata = some call ∧
      decodeSwapSignal Abi.headTailDecoder [] call = .gives
        ⟨.multicallBytes, 1000, some 900, 0, [0xa1, 0xb2], 40, .v2, min 1 (92 / 100), "multicall_nested"⟩ := by
  have reads : ReadsBack Abi.headTailDecoder :=
    fun types tokens _ takes small => Abi.headTailDecoder_encode takes small
  have silent : ∀ data ∈ [([0x09, 0x5e, 0xa7, 0xb3] : Bytes)], SilentData Abi.headTailDecoder [] 40 0 data := by
    intro data member call found
    rw [List.mem_singleton.mp member] at found
    cases Option.some.inj found
    decide +kernel
  have path : (ParamType.array .address).Takes (.array ([0xa1, 0xb2].map .address)) := by
    refine .array (by decide) fun value member => ?_
    obtain ⟨address, _, rfl⟩ := List.mem_map.mp member
    exact .address
  have fits : approveAndSwap.Fits Abi.headTailDecoder [] 50 3 :=
    ⟨by decide, by decide, by decide, by decide, silent, .cons (.uint (by decide)) (.cons (.uint (by decide))
      (.cons path (.cons .address (.cons (.uint (by decide)) .nil)))), by decide⟩
  exact decodeSwapSignal_sent reads approveAndSwap 50 3 fits (by decide +kernel)

end

end ArbitrageRuntime
