import ArbitrageRuntime.Decoder.Outcome
import ArbitrageRuntime.Decoder.Candidates
import ArbitrageRuntime.Decoder.Relevant

namespace ArbitrageRuntime

open Abi (Token)

/-- The fee word of a call's struct, where the code gets to read it. -/
def feeField (values : List Token) : Option Nat := do
  let _ ← values[0]?.bind tokenAsAddress
  let _ ← values[1]?.bind tokenAsAddress
  values[2]?.bind tokenAsUint

theorem asU32_error {value : Nat} : (∃ panic, asU32 value = .error panic) ↔ 2 ^ 32 ≤ value := by
  unfold asU32
  split
  · rename_i small
    simp only [reduceCtorEq, exists_false, false_iff]
    omega
  · rename_i large
    exact ⟨fun _ => by omega, fun _ => ⟨_, rfl⟩⟩

theorem decodeV3ExactInputSingleValues_fails {call : SwapCall} {values : List Token} {amountInIndex amountOutMinIndex : Nat}
    {confidence : ℚ} {source : String} :
    (decodeV3ExactInputSingleValues call values amountInIndex amountOutMinIndex confidence source).Fails ↔
      ∃ word, feeField values = some word ∧ 2 ^ 32 ≤ word := by
  simp only [decodeV3ExactInputSingleValues, feeField, Attempt.fails_ofOption_bind, Attempt.fails_ofExcept_bind, asU32_error,
    Attempt.not_fails_pure, and_false, exists_false, or_false, Option.bind_eq_bind, Option.bind_eq_some_iff]
  constructor
  · rintro ⟨tokenIn, first, tokenOut, second, word, third, large⟩
    exact ⟨word, ⟨tokenIn, first, tokenOut, second, third⟩, large⟩
  · rintro ⟨word, ⟨tokenIn, first, tokenOut, second, third⟩, large⟩
    exact ⟨tokenIn, first, tokenOut, second, word, third, large⟩

mutual

theorem tokenFindV3PathBytes_not_fails (token : Token) : ¬ (tokenFindV3PathBytes token).Fails := by
  cases token with
  | bytes value => simp [tokenFindV3PathBytes, parseV3Path_not_fails]
  | fixedBytes value => simp [tokenFindV3PathBytes, parseV3Path_not_fails]
  | array values => simpa [tokenFindV3PathBytes] using tokenTreeFindV3PathBytes_not_fails values
  | fixedArray values => simpa [tokenFindV3PathBytes] using tokenTreeFindV3PathBytes_not_fails values
  | tuple values => simpa [tokenFindV3PathBytes] using tokenTreeFindV3PathBytes_not_fails values
  | _ => simp [tokenFindV3PathBytes]

theorem tokenTreeFindV3PathBytes_not_fails (tokens : List Token) : ¬ (tokenTreeFindV3PathBytes tokens).Fails := by
  cases tokens with
  | nil => simp [tokenTreeFindV3PathBytes]
  | cons token rest =>
    simp [tokenTreeFindV3PathBytes, Attempt.fails_orElse, tokenFindV3PathBytes_not_fails token,
      tokenTreeFindV3PathBytes_not_fails rest]

end

section

variable (abi : Abi.Decoder) (monitoredTokens : List MonitoredTokenConfig)

/-- The fee word of an exactInputSingle call of Uniswap. -/
def feeWord (call : SwapCall) : Option Nat :=
  match callKind call.selector with
  | .v3Single => (structFields abi v3SingleTypes call.args).bind feeField
  | .v3SingleNoDeadline => (structFields abi v3SingleNoDeadlineTypes call.args).bind feeField
  | _ => none

theorem decodeTransitV5V3Partial_not_fails (call : SwapCall) :
    ¬ (decodeTransitV5V3Partial abi monitoredTokens call).Fails := by
  unfold decodeTransitV5V3Partial
  simp only [Attempt.fails_ofOption_bind, not_exists, not_and]
  intro values _
  rw [Attempt.fails_bind]
  simp only [tokenTreeFindV3PathBytes_not_fails, false_or, not_exists, not_and]
  intro pathBytes _
  rw [Attempt.fails_bind]
  simp only [parseV3Path_not_fails, false_or, not_exists, not_and, parseV3PathSegments_eq]
  intro parsed _
  simp

theorem decodeV3ExactInput_not_fails (call : SwapCall) : ¬ (decodeV3ExactInput abi call).Fails := by
  unfold decodeV3ExactInput
  simp only [Attempt.fails_ofOption_bind, not_exists, not_and]
  intro values _ pathBytes _
  rw [Attempt.fails_bind]
  simp [parseV3Path_not_fails]

theorem decodeUniversalRouterCall_not_fails (call : SwapCall) :
    ¬ (decodeUniversalRouterCall abi call monitoredTokens).Fails := by
  simp [decodeUniversalRouterCall, decodeUniversalRouterSwapForMonitored, decodeUniversalRouterSwap, Attempt.fails_orElse,
    decodeUniversalRouterSwapCandidates_eq]

/-- A leaf call fails on a fee word outside 32 bits and on nothing else. -/
theorem decodeLeaf_fails {call : SwapCall} (leaf : isWrapper call = false) :
    (decodeLeaf abi monitoredTokens call).Fails ↔ ∃ word, feeWord abi call = some word ∧ 2 ^ 32 ≤ word := by
  unfold isWrapper at leaf
  rw [decodeLeaf, decodeSwapSignalWith, feeWord]
  cases kind : callKind call.selector with
  | safe => simp [kind] at leaf
  | multicall => simp [kind] at leaf
  | privateWrapper => simp [kind] at leaf
  | batch => simp [kind] at leaf
  | v3Single =>
    simp only [decodeV3ExactInputSingleWithDeadline, Attempt.fails_ofOption_bind, decodeV3ExactInputSingleValues_fails,
      Option.bind_eq_some_iff]
    constructor
    · rintro ⟨values, fields, word, read, large⟩
      exact ⟨word, ⟨values, fields, read⟩, large⟩
    · rintro ⟨word, ⟨values, fields, read⟩, large⟩
      exact ⟨values, fields, word, read, large⟩
  | v3SingleNoDeadline =>
    simp only [decodeV3ExactInputSingleNoDeadline, Attempt.fails_ofOption_bind, decodeV3ExactInputSingleValues_fails,
      Option.bind_eq_some_iff]
    constructor
    · rintro ⟨values, fields, word, read, large⟩
      exact ⟨word, ⟨values, fields, read⟩, large⟩
    · rintro ⟨word, ⟨values, fields, read⟩, large⟩
      exact ⟨values, fields, word, read, large⟩
  | other =>
    have notSearcher : call.selector ≠ .privateSearcherSelectorD00BA30B := by simpa [kind] using leaf
    simp only [decodeKnownAggregatorPartial, if_neg notSearcher]
    split_ifs
    all_goals simp [Attempt.fails_orElse, decodeTransitV5V3Partial_not_fails]
  | v3Input => simp [decodeV3ExactInput_not_fails]
  | universalRouter => simp [decodeUniversalRouterCall_not_fails]
  | _ => simp

theorem probe_fails {p : Probe} (leaf : isWrapper p.call = false) :
    (probe abi monitoredTokens p).Fails ↔ ∃ word, feeWord abi p.call = some word ∧ 2 ^ 32 ≤ word := by
  rw [← decodeLeaf_fails abi monitoredTokens leaf]
  unfold probe
  split
  · simp [scanProbe, Attempt.fails_bind]
  · rfl

/-- Every exactInputSingle call that the decoding comes to has a fee word of at most 32 bits. -/
def FeesFit (call : SwapCall) : Prop :=
  ∀ p, Tries abi monitoredTokens call p → ∀ word, feeWord abi p.call = some word → word < 2 ^ 32

theorem decodeSwapSignal_not_fails {call : SwapCall} :
    ¬ (decodeSwapSignal abi monitoredTokens call).Fails ↔ FeesFit abi monitoredTokens call := by
  rw [decodeSwapSignal_fails]
  constructor
  · intro never p tried word read
    by_contra large
    exact never ⟨p, tried, (probe_fails abi monitoredTokens tried.leaf).mpr ⟨word, read, by omega⟩⟩
  · rintro fits ⟨p, tried, fails⟩
    obtain ⟨word, read, large⟩ := (probe_fails abi monitoredTokens tried.leaf).mp fails
    have small := fits p tried word read
    omega

/-- The narrowing of the fee word is the only way to stop the decoder. -/
theorem decoder_not_panics_iff (call : SwapCall) (tx : PendingTransaction) (minLargeSwapWei : Nat) (mode : OpportunityMode) :
    (¬ (decodeSwapSignal abi monitoredTokens call).Fails ↔ FeesFit abi monitoredTokens call) ∧
      (¬ (decodeRelevantSwap abi tx monitoredTokens minLargeSwapWei mode).Fails ↔
        ∀ inner, tx.call = some inner → FeesFit abi monitoredTokens inner) := by
  refine ⟨decodeSwapSignal_not_fails abi monitoredTokens, ?_⟩
  rw [decodeRelevantSwap_fails, not_exists]
  refine forall_congr' fun inner => ?_
  rw [not_and, decodeSwapSignal_not_fails]

end

/-- An exactInputSingle call to 0x99 that sells 1000 of 0xa1 for 0xb2, with 2 ^ 32 for its fee. -/
def wideFeeTransaction : PendingTransaction where
  recipient := some 0x99
  value := 0
  input := [0x41, 0x4b, 0xf3, 0x89] ++ Abi.encode [.tuple [.address 0xa1, .address 0xb2, .uint (2 ^ 32), .address 1,
    .uint 9, .uint 1000, .uint 1, .uint 0]]

/-- One such transaction stops the worker that decodes it. -/
theorem wideFeeTransaction_panics :
    (decodeRelevantSwap Abi.headTailDecoder wideFeeTransaction [] 0 .conservative).Fails := by
  refine ⟨.narrowing (2 ^ 32), ?_⟩
  decide +kernel

end ArbitrageRuntime
