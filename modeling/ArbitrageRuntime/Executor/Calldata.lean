import ArbitrageRuntime.Builder.FlashRepayment
import ArbitrageRuntime.Lib.AbiRoundTrip

namespace ArbitrageRuntime.Executor

open Abi (Token ParamType)

def startV2Types : List ParamType :=
  [.address, .address, .uint 256, .uint 256, .address, .address,
    .array (.tuple [.address, .array .address, .uint 256, .uint 256])]

def startV3Types : List ParamType :=
  [.address, .address, .uint 256, .uint 24, .uint 256, .address, .address,
    .array (.tuple [.address, .bytes, .uint 256, .uint 256])]

def readAddress : Token → Option Address
  | .address value => some value
  | _ => none

def readV2Step : Token → Option V2SwapStep
  | .tuple [.address router, .array path, .uint amountIn, .uint minOut] => do
    let path ← path.mapM readAddress
    some ⟨router, path, amountIn, minOut⟩
  | _ => none

def readV3Step : Token → Option V3SwapStep
  | .tuple [.address router, .bytes path, .uint amountIn, .uint minOut] => some ⟨router, path, amountIn, minOut⟩
  | _ => none

/-- The call that the contract makes of its calldata. A `uint24` that does not fit reverts before the function runs. -/
def readStart (Data : Type) (calldata : Bytes) : Option (Entry Data) :=
  if calldata.take 4 = startV2FlashSwapSelector then do
    match ← Abi.headTailDecoder.decode startV2Types (calldata.drop 4) with
    | [.address pair, .address borrowToken, .uint borrowAmount, .uint minProfit, .address profitToken,
        .address profitRecipient, .array steps] =>
      let steps ← steps.mapM readV2Step
      some (.startV2FlashSwap pair borrowToken borrowAmount minProfit profitToken profitRecipient steps)
    | _ => none
  else if calldata.take 4 = startV3FlashSwapSelector then do
    match ← Abi.headTailDecoder.decode startV3Types (calldata.drop 4) with
    | [.address pool, .address borrowToken, .uint borrowAmount, .uint feeTier, .uint minProfit, .address profitToken,
        .address profitRecipient, .array steps] =>
      if 2 ^ 24 ≤ feeTier then none
      else
        let steps ← steps.mapM readV3Step
        some (.startV3FlashSwap pool borrowToken borrowAmount feeTier minProfit profitToken profitRecipient steps)
    | _ => none
  else none

/-- A step as the bot encodes it. -/
def V2SwapStep.encoded (step : V2SwapStep) : EncodedSwapStep := ⟨step.router, step.path, step.amountIn, step.minOut⟩

/-- The numbers of a step are words. -/
def V2SwapStep.Fits (step : V2SwapStep) : Prop := step.amountIn < 2 ^ 256 ∧ step.minOut < 2 ^ 256

def V3SwapStep.Fits (step : V3SwapStep) : Prop := step.amountIn < 2 ^ 256 ∧ step.minOut < 2 ^ 256

theorem path_length_le (path : List Address) :
    path.length ≤ (Token.array (path.map .address)).body.length := by
  have counted := Abi.length_le_array (path.map Token.address) fun value member => by
    obtain ⟨address, _, rfl⟩ := List.mem_map.mp member
    have width : Abi.headSize ((Token.address address).isDynamic, (Token.address address).body) = 32 :=
      Abi.word_length address.toNat
    omega
  rwa [List.length_map] at counted

theorem path_lt_of_step {step : V2SwapStep} (small : (stepToken step.encoded).body.length < 2 ^ 32) :
    step.path.length < 2 ^ 32 := by
  have counted := path_length_le step.path
  have inside : (Token.array (step.path.map .address)).body.length ≤ (stepToken step.encoded).body.length :=
    @Abi.body_length_le [.address step.router, .array (step.path.map .address), .uint step.amountIn,
      .uint step.minOut] _ (List.mem_cons_of_mem _ List.mem_cons_self)
  omega

theorem takes_stepToken {step : V2SwapStep} (fits : step.Fits) (small : (stepToken step.encoded).body.length < 2 ^ 32) :
    (ParamType.tuple [.address, .array .address, .uint 256, .uint 256]).Takes (stepToken step.encoded) := by
  obtain ⟨amountIn, minOut⟩ := fits
  have short := path_lt_of_step small
  have addresses : (ParamType.array .address).Takes (.array (step.path.map .address)) := by
    refine .array (by rwa [List.length_map]) fun value member => ?_
    obtain ⟨address, _, rfl⟩ := List.mem_map.mp member
    exact .address
  exact .tuple (.cons .address (.cons addresses (.cons (.uint amountIn) (.cons (.uint minOut) .nil))))

theorem takes_v3StepToken {step : V3SwapStep} (fits : step.Fits) :
    (ParamType.tuple [.address, .bytes, .uint 256, .uint 256]).Takes (v3StepToken (encodedStep step)) :=
  .tuple (.cons .address (.cons .bytes (.cons (.uint fits.1) (.cons (.uint fits.2) .nil))))

theorem mapM_map_some {α β γ : Type} (f : β → Option γ) (g : α → β) (h : α → γ) (each : ∀ a, f (g a) = some (h a))
    (list : List α) : (list.map g).mapM f = some (list.map h) := by
  have composed : f ∘ g = fun a => pure (h a) := funext each
  rw [List.mapM_map, composed, List.mapM_pure]
  rfl

theorem readV2Step_stepToken (step : V2SwapStep) : readV2Step (stepToken step.encoded) = some step := by
  have path : (step.path.map Token.address).mapM readAddress = some (step.path.map id) :=
    mapM_map_some readAddress Token.address id (fun _ => rfl) step.path
  rw [List.map_id] at path
  simp only [readV2Step, stepToken, V2SwapStep.encoded, path, Option.bind_eq_bind, Option.bind_some]

theorem take_selector {selector args : Bytes} (four : selector.length = 4) : (selector ++ args).take 4 = selector := by
  rw [← four, List.take_left]

theorem drop_selector {selector args : Bytes} (four : selector.length = 4) : (selector ++ args).drop 4 = args := by
  rw [← four, List.drop_left]

section RoundTrip

variable {Data : Type} {venue borrowToken profitToken profitRecipient : Address} {borrowAmount feeTier minProfit : Nat}

/-- The contract reads its V2 start call back from the calldata that the bot sends. -/
theorem readStart_v2 {steps : List V2SwapStep} (borrowFits : borrowAmount < 2 ^ 256) (profitFits : minProfit < 2 ^ 256)
    (stepsFit : ∀ step ∈ steps, step.Fits)
    (small : (encodeStartV2FlashSwap venue borrowToken borrowAmount minProfit profitToken profitRecipient
      (steps.map V2SwapStep.encoded)).bytes.length < 2 ^ 32) :
    readStart Data (encodeStartV2FlashSwap venue borrowToken borrowAmount minProfit profitToken profitRecipient
        (steps.map V2SwapStep.encoded)).bytes =
      some (.startV2FlashSwap venue borrowToken borrowAmount minProfit profitToken profitRecipient steps) := by
  rw [Calldata.bytes, List.length_append] at small
  have room : (Token.array ((steps.map V2SwapStep.encoded).map stepToken)).body.length < 2 ^ 32 := by
    have inside := @Abi.body_length_le (encodeStartV2FlashSwap venue borrowToken borrowAmount minProfit profitToken profitRecipient
      (steps.map V2SwapStep.encoded)).args (.array ((steps.map V2SwapStep.encoded).map stepToken))
      (by simp [encodeStartV2FlashSwap])
    exact lt_of_le_of_lt inside (by rw [← Abi.encode]; omega)
  have array : (ParamType.array (.tuple [.address, .array .address, .uint 256, .uint 256])).Takes
      (.array ((steps.map V2SwapStep.encoded).map stepToken)) := by
    have counted := Abi.dynamic_length_le ((steps.map V2SwapStep.encoded).map stepToken) fun value member => by
      obtain ⟨step, _, rfl⟩ := List.mem_map.mp member
      rfl
    refine .array (by omega) fun value member => ?_
    have shorter := Abi.element_length_le member
    rw [List.map_map] at member
    obtain ⟨step, inside, rfl⟩ := List.mem_map.mp member
    exact takes_stepToken (stepsFit step inside) (lt_of_le_of_lt shorter room)
  have takes : List.Forall₂ ParamType.Takes startV2Types (encodeStartV2FlashSwap venue borrowToken borrowAmount
      minProfit profitToken profitRecipient (steps.map V2SwapStep.encoded)).args :=
    .cons .address (.cons .address (.cons (.uint borrowFits) (.cons (.uint profitFits)
      (.cons .address (.cons .address (.cons array .nil))))))
  have read := Abi.headTailDecoder_encode takes (by omega)
  have back : ((steps.map V2SwapStep.encoded).map stepToken).mapM readV2Step = some steps := by
    have each := mapM_map_some readV2Step (stepToken ∘ V2SwapStep.encoded) id readV2Step_stepToken steps
    rwa [← List.map_map, List.map_id] at each
  have selector : (encodeStartV2FlashSwap venue borrowToken borrowAmount minProfit profitToken profitRecipient
      (steps.map V2SwapStep.encoded)).selector.length = 4 := rfl
  rw [readStart, Calldata.bytes, take_selector selector, drop_selector selector]
  simp only [encodeStartV2FlashSwap] at read ⊢
  rw [if_pos trivial, read]
  simp only [Option.bind_eq_bind, Option.bind_some, back]

/-- The same for the V3 start call, as long as its fee tier fits the contract's `uint24`. -/
theorem readStart_v3 {steps : List V3SwapStep} (borrowFits : borrowAmount < 2 ^ 256) (feeFits : feeTier < 2 ^ 32)
    (profitFits : minProfit < 2 ^ 256) (stepsFit : ∀ step ∈ steps, step.Fits)
    (small : (encodeStartV3FlashSwap venue borrowToken borrowAmount feeTier minProfit profitToken profitRecipient
      (steps.map encodedStep)).bytes.length < 2 ^ 32) :
    readStart Data (encodeStartV3FlashSwap venue borrowToken borrowAmount feeTier minProfit profitToken
        profitRecipient (steps.map encodedStep)).bytes =
      if feeTier < 2 ^ 24 then
        some (.startV3FlashSwap venue borrowToken borrowAmount feeTier minProfit profitToken profitRecipient steps)
      else none := by
  rw [Calldata.bytes, List.length_append] at small
  have room : (Token.array ((steps.map encodedStep).map v3StepToken)).body.length < 2 ^ 32 := by
    have inside := @Abi.body_length_le (encodeStartV3FlashSwap venue borrowToken borrowAmount feeTier minProfit profitToken profitRecipient
      (steps.map encodedStep)).args (.array ((steps.map encodedStep).map v3StepToken))
      (by simp [encodeStartV3FlashSwap])
    exact lt_of_le_of_lt inside (by rw [← Abi.encode]; omega)
  have array : (ParamType.array (.tuple [.address, .bytes, .uint 256, .uint 256])).Takes
      (.array ((steps.map encodedStep).map v3StepToken)) := by
    have counted := Abi.dynamic_length_le ((steps.map encodedStep).map v3StepToken) fun value member => by
      obtain ⟨step, _, rfl⟩ := List.mem_map.mp member
      rfl
    refine .array (by omega) fun value member => ?_
    rw [List.map_map] at member
    obtain ⟨step, inside, rfl⟩ := List.mem_map.mp member
    exact takes_v3StepToken (stepsFit step inside)
  have feeWord : feeTier < 2 ^ 256 := feeFits.trans (by decide)
  have takes : List.Forall₂ ParamType.Takes startV3Types (encodeStartV3FlashSwap venue borrowToken borrowAmount
      feeTier minProfit profitToken profitRecipient (steps.map encodedStep)).args :=
    .cons .address (.cons .address (.cons (.uint borrowFits) (.cons (.uint feeWord) (.cons (.uint profitFits)
      (.cons .address (.cons .address (.cons array .nil)))))))
  have read := Abi.headTailDecoder_encode takes (by omega)
  have back : ((steps.map encodedStep).map v3StepToken).mapM readV3Step = some steps := by
    have each := mapM_map_some readV3Step (v3StepToken ∘ encodedStep) id (fun _ => rfl) steps
    rwa [← List.map_map, List.map_id] at each
  have selector : (encodeStartV3FlashSwap venue borrowToken borrowAmount feeTier minProfit profitToken
      profitRecipient (steps.map encodedStep)).selector.length = 4 := rfl
  have other : startV3FlashSwapSelector ≠ startV2FlashSwapSelector := by decide
  rw [readStart, Calldata.bytes, take_selector selector, drop_selector selector]
  simp only [encodeStartV3FlashSwap] at read ⊢
  rw [if_neg other, if_pos trivial, read]
  by_cases fits : feeTier < 2 ^ 24
  · simp only [Option.bind_eq_bind, Option.bind_some, back, if_neg (Nat.not_le.mpr fits), if_pos fits]
  · simp only [Option.bind_eq_bind, Option.bind_some, if_pos (Nat.not_lt.mp fits), if_neg fits]

end RoundTrip

theorem u256Mul_div_lt (a b c : Nat) : u256Mul a b / c < 2 ^ 256 := by
  have product : u256Mul a b ≤ u256Max := Nat.min_le_right _ _
  have quotient := Nat.div_le_self (u256Mul a b) c
  have top : u256Max = 2 ^ 256 - 1 := rfl
  omega

theorem effectivePayloadMinProfitWei_lt {config : Config} {minProfitWei : Nat}
    (minimum : effectivePayloadMinProfitWei config = .ok minProfitWei) : minProfitWei < 2 ^ 256 := by
  unfold effectivePayloadMinProfitWei at minimum
  split at minimum
  · cases Except.ok.inj minimum
    decide
  · have parsed := orRefuse_eq_ok.mp minimum
    unfold parseEther at parsed
    split at parsed
    · obtain ⟨negated, _, wrapped⟩ := Option.map_eq_some_iff.mp parsed
      rw [← wrapped]
      exact Nat.mod_lt _ (by decide)
    · have fits := (Rounding.floorWithin_eq_some parsed).2.1
      have top : u256Max = 2 ^ 256 - 1 := rfl
      omega

section Payload

theorem payloadV2_calldata (config : Config) (input : FeeExtractionBuildInput) (prepared : V2Prepared)
    (selected : SizeCandidate) (repaymentNative : ℚ) (minProfitWei : Nat) (executor : Address) :
    (payloadV2 config input prepared selected repaymentNative minProfitWei executor).calldata =
      encodeStartV2FlashSwap input.pair input.tokenOut selected.amountIn minProfitWei input.tokenIn input.recipient
        (List.map V2SwapStep.encoded
          [⟨input.router, swapPathV2 input, selected.amountIn, minAmountOut config selected.amountOut⟩]) := rfl

theorem payloadV3_calldata (config : Config) (input : FeeExtractionBuildInput) (prepared : V3Prepared)
    (selected : NormalizedV3Candidate) (repaymentNative : ℚ) (minProfitWei : Nat) (executor : Address) :
    (payloadV3 config input prepared selected repaymentNative minProfitWei executor).calldata =
      encodeStartV3FlashSwap input.pair input.tokenOut selected.candidate.amountIn prepared.feeTier minProfitWei
        input.tokenIn input.recipient
        (List.map encodedStep [⟨input.router, prepared.path, selected.candidate.amountIn,
          minAmountOut config selected.candidate.amountOut⟩]) := rfl

variable {Data : Type} {config : Config} {input : FeeExtractionBuildInput} {payload : ExecutionPayload}

/-- The contract runs a V2 payload as the builder meant it: one sale of the whole loan on the victim's router. -/
theorem payloadV2_starts (built : buildFeeExtractionV2 config input = .ok payload)
    (small : payload.calldata.bytes.length < 2 ^ 32) :
    ∃ minProfitWei edge, effectivePayloadMinProfitWei config = .ok minProfitWei ∧ payload.edgeMetadata = some edge ∧
      readStart Data payload.calldata.bytes = some (.startV2FlashSwap payload.pair input.tokenOut
        payload.capitalCommittedWei minProfitWei payload.profitToken payload.profitRecipient
        [⟨input.router, swapPathV2 input, payload.capitalCommittedWei, minAmountOut config edge.amountOutWei⟩]) := by
  obtain ⟨prepared, selected, repaymentNative, minProfitWei, executor, bps, _, _, sized, _, minimum, _, _, rfl⟩ :=
    buildFeeExtractionV2_spec built
  obtain ⟨_, amount, _⟩ := V2SizingInput.candidate_spec sized
  have amountFits : selected.amountIn < 2 ^ 256 := amount ▸ u256Mul_div_lt _ _ _
  rw [payloadV2_calldata] at small
  refine ⟨minProfitWei, _, minimum, rfl, ?_⟩
  rw [payloadV2_calldata, readStart_v2 amountFits (effectivePayloadMinProfitWei_lt minimum) _ small]
  · rfl
  · intro step only
    rw [List.mem_singleton.mp only]
    exact ⟨amountFits, u256Mul_div_lt _ _ _⟩

/-- The same for a V3 payload, whose fee tier the builder takes over from the victim's call: the contract refuses
one that does not fit its `uint24`. -/
theorem payloadV3_starts (built : buildFeeExtractionV3 config input = .ok payload)
    (tierFits : ∀ tier path, input.routeKind = .uniswapV3 tier path → tier < 2 ^ 32)
    (small : payload.calldata.bytes.length < 2 ^ 32) :
    ∃ feeTier path minProfitWei edge, input.routeKind = .uniswapV3 feeTier path ∧
      effectivePayloadMinProfitWei config = .ok minProfitWei ∧ payload.edgeMetadata = some edge ∧
      readStart Data payload.calldata.bytes =
        if feeTier < 2 ^ 24 then
          some (.startV3FlashSwap payload.pair input.tokenOut payload.capitalCommittedWei feeTier minProfitWei
            payload.profitToken payload.profitRecipient
            [⟨input.router, path, payload.capitalCommittedWei, minAmountOut config edge.amountOutWei⟩])
        else none := by
  obtain ⟨prepared, selected, repaymentNative, minProfitWei, executor, bps, _, prepares, sized, _, minimum, _, _, rfl⟩ :=
    buildFeeExtractionV3_spec built
  obtain ⟨_, _, route, _⟩ := prepareV3_eq_ok.mp prepares
  obtain ⟨amount, _⟩ := normalizedV3Candidate_spec sized
  have amountFits : selected.candidate.amountIn < 2 ^ 256 := amount ▸ u256Mul_div_lt _ _ _
  rw [payloadV3_calldata] at small
  refine ⟨prepared.feeTier, prepared.path, minProfitWei, _, route, minimum, rfl, ?_⟩
  rw [payloadV3_calldata,
    readStart_v3 amountFits (tierFits _ _ route) (effectivePayloadMinProfitWei_lt minimum) _ small]
  · rfl
  · intro step only
    rw [List.mem_singleton.mp only]
    exact ⟨amountFits, u256Mul_div_lt _ _ _⟩

theorem payloadV2_starts_secondPair : ∃ payload, buildFeeExtractionV2 testConfig secondPairInput = .ok payload ∧
    ∃ minProfitWei edge, effectivePayloadMinProfitWei testConfig = .ok minProfitWei ∧
      payload.edgeMetadata = some edge ∧
      readStart Unit payload.calldata.bytes = some (.startV2FlashSwap payload.pair 2
        payload.capitalCommittedWei minProfitWei payload.profitToken payload.profitRecipient
        [⟨40, [2, 1], payload.capitalCommittedWei, minAmountOut testConfig edge.amountOutWei⟩]) := by
  have accepted : ∃ payload, buildFeeExtractionV2 testConfig secondPairInput = .ok payload ∧
      decide (payload.calldata.bytes.length < 2 ^ 32) = true := Collect.exists_of_holdsOf (by decide +kernel)
  obtain ⟨payload, built, small⟩ := accepted
  exact ⟨payload, built, payloadV2_starts built (of_decide_eq_true small)⟩

theorem payloadV3_starts_mispriced : ∃ payload, buildFeeExtractionV3 mispricedConfig mispricedInput = .ok payload ∧
    ∃ feeTier path minProfitWei edge, mispricedInput.routeKind = .uniswapV3 feeTier path ∧
      effectivePayloadMinProfitWei mispricedConfig = .ok minProfitWei ∧ payload.edgeMetadata = some edge ∧
      readStart Unit payload.calldata.bytes =
        if feeTier < 2 ^ 24 then
          some (.startV3FlashSwap payload.pair 2 payload.capitalCommittedWei feeTier minProfitWei
            payload.profitToken payload.profitRecipient
            [⟨40, path, payload.capitalCommittedWei, minAmountOut mispricedConfig edge.amountOutWei⟩])
        else none := by
  have accepted : ∃ payload, buildFeeExtractionV3 mispricedConfig mispricedInput = .ok payload ∧
      decide (payload.calldata.bytes.length < 2 ^ 32) = true := Collect.exists_of_holdsOf (by decide +kernel)
  obtain ⟨payload, built, small⟩ := accepted
  have tiers : ∀ tier path, mispricedInput.routeKind = .uniswapV3 tier path → tier < 2 ^ 32 := by
    intro tier path route
    obtain ⟨same, _⟩ := AmmRouteKind.uniswapV3.inj route
    rw [← same]
    decide
  exact ⟨payload, built, payloadV3_starts built tiers (of_decide_eq_true small)⟩

end Payload

end ArbitrageRuntime.Executor
