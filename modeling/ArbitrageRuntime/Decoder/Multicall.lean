import ArbitrageRuntime.Decoder.V3Signal

namespace ArbitrageRuntime

open Abi (Token)

section

variable {abi : Abi.Decoder} {monitoredTokens : List MonitoredTokenConfig}

theorem decodeSwapSignal_safe {call inner : SwapCall} (safe : callKind call.selector = .safe)
    (found : safeCall abi call.args = some inner) :
    decodeSwapSignal abi monitoredTokens call = (decodeSwapSignal abi monitoredTokens inner <|>
      .ofOption (decodeSafeInnerAggregatorPartial monitoredTokens inner)) := by
  rw [decodeSwapSignal_eq, decodeSwapSignalWith, safe]
  simp only [decodeSafeExecTransactionSwap_eq, found]
  rfl

theorem decodeSwapSignal_ethForTokens {call : SwapCall} (ether : callKind call.selector = .ethForTokens) :
    decodeSwapSignal abi monitoredTokens call = .ofOption (decodeSwapExactEth abi call) := by
  rw [decodeSwapSignal_eq, decodeSwapSignalWith, ether]

theorem decodeSafeInnerAggregatorPartial_selector {call : SwapCall} {signal : SwapSignal}
    (found : decodeSafeInnerAggregatorPartial monitoredTokens call = some signal) : signal.selector = call.selector := by
  unfold decodeSafeInnerAggregatorPartial at found
  split_ifs at found
  · exact (partialSignal_spec found).1
  · exact (partialSignal_spec found).1

variable (abi monitoredTokens) in
/-- The signal of an ether swap that is sent as it is or inside Safe transactions. The innermost Safe takes the
tokens in the calldata where the arguments of the swap do not decode. -/
inductive EtherSignal : SwapCall → SwapSignal → Prop
  | swap {call : SwapCall} {signal : SwapSignal} : callKind call.selector = .ethForTokens →
    decodeSwapExactEth abi call = some signal → EtherSignal call signal
  | hint {call inner : SwapCall} {signal : SwapSignal} : callKind call.selector = .safe →
    safeCall abi call.args = some inner → callKind inner.selector = .ethForTokens → decodeSwapExactEth abi inner = none →
    decodeSafeInnerAggregatorPartial monitoredTokens inner = some signal → EtherSignal call signal
  | safe {call inner : SwapCall} {signal : SwapSignal} : callKind call.selector = .safe →
    safeCall abi call.args = some inner → EtherSignal inner signal → EtherSignal call signal

theorem EtherSignal.decoded {call : SwapCall} {signal : SwapSignal} (ether : EtherSignal abi monitoredTokens call signal) :
    decodeSwapSignal abi monitoredTokens call = .gives signal ∧ callKind signal.selector = .ethForTokens := by
  induction ether with
  | @swap call signal ether swap =>
    refine ⟨?_, ?_⟩
    · rw [decodeSwapSignal_ethForTokens ether, swap]
      rfl
    · rw [(decodeSwapExactEth_spec swap).1]
      exact ether
  | @hint call inner signal safe found ether undecoded hint =>
    refine ⟨?_, ?_⟩
    · rw [decodeSwapSignal_safe safe found, decodeSwapSignal_ethForTokens ether, undecoded, hint]
      rfl
    · rw [decodeSafeInnerAggregatorPartial_selector hint]
      exact ether
  | @safe call inner signal safe found _ ih =>
    refine ⟨?_, ih.2⟩
    rw [decodeSwapSignal_safe safe found, ih.1]
    rfl

end

end ArbitrageRuntime
