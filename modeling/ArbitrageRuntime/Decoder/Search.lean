import ArbitrageRuntime.Lib.Recursion
import ArbitrageRuntime.Decoder.Nested

namespace ArbitrageRuntime

open Abi (Token ParamType)

/-- The call in a piece of calldata that has room for a selector. -/
def callOf (router : Address) (value : Nat) : Bytes → Option SwapCall
  | b0 :: b1 :: b2 :: b3 :: args =>
    some { selector := ⟨b0, b1, b2, b3⟩, router := router, value := value, args := args }
  | _ => none

/-- The length checks before the slices are enough for them. -/
theorem innerCall_checked (router : Address) (value : Nat) (calldata : Bytes) :
    (do .require (4 ≤ calldata.length); .ofExcept (innerCall router value calldata)) =
      (.ofOption (callOf router value calldata) : Decoding SwapCall) := by
  match calldata with
  | [] => rfl
  | [_] => rfl
  | [_, _] => rfl
  | [_, _, _] => rfl
  | b0 :: b1 :: b2 :: b3 :: args => 
    have long : 4 ≤ (b0 :: b1 :: b2 :: b3 :: args).length := by simp
    rw [Attempt.require, if_pos long]
    simp [innerCall, selectorAt, byteAt, sliceFrom, callOf]
    rfl

theorem callOf_length {router : Address} {value : Nat} {calldata : Bytes} {call : SwapCall}
    (found : callOf router value calldata = some call) : call.args.length + 4 = calldata.length := by
  unfold callOf at found
  split at found
  · cases Option.some.inj found
    simp
  · exact absurd found (by simp)

theorem carries_of_tokenAsBytes {decoded : List Token} {i : Nat} {value : Bytes}
    (found : decoded[i]?.bind tokenAsBytes = some value) : ∃ token ∈ decoded, token.Carries value := by
  obtain ⟨token, place, bytes⟩ := Option.bind_eq_some_iff.mp found
  refine ⟨token, List.mem_of_getElem? place, ?_⟩
  cases token with
  | bytes inner =>
    cases Option.some.inj bytes
    exact .bytes
  | _ => exact absurd bytes (by simp [tokenAsBytes])

section

variable (abi : Abi.Decoder)

/-- The call inside a Safe transaction. -/
def safeCall (args : Bytes) : Option SwapCall := do
  let decoded ← abi.decode [.address, .uint 256, .bytes, .uint 8, .uint 256, .uint 256, .uint 256, .address,
    .address, .bytes] args
  let target ← decoded[0]?.bind tokenAsAddress
  let value ← decoded[1]?.bind tokenAsUint
  let inner ← decoded[2]?.bind tokenAsBytes
  let operation ← decoded[3]?.bind tokenAsUint
  if operation = 0 then callOf target value inner else none

def multicallCall (router : Address) (value : Nat) (element : Token) : Option SwapCall :=
  tokenAsBytes element >>= callOf router value

def batchCall (element : Token) : Option SwapCall := do
  let fields ← tokenAsTuple element
  let target ← fields[0]?.bind tokenAsAddress
  let calldata ← fields[2]?.bind tokenAsBytes
  callOf target ((fields[1]?.bind tokenAsUint).getD 0) calldata

/-- The call that the scan finds at an offset. -/
def scanCall (router : Address) (value : Nat) (input : Bytes) (offset : Nat) : Option SwapCall :=
  match callOf router value (input.drop offset) with
  | some call => if call.selector ∈ childSelectors then some call else none
  | none => none

theorem safeInnerCall_eq (args : Bytes) : safeInnerCall abi args = .ofOption (safeCall abi args) := by
  unfold safeInnerCall safeCall
  simp only [Attempt.ofOption_bind]
  refine bind_congr fun decoded => bind_congr fun target => bind_congr fun value => bind_congr fun inner =>
    bind_congr fun operation => ?_
  by_cases plain : operation = 0
  · simp only [plain, true_and, if_true]
    exact innerCall_checked target value inner
  · simp only [plain, false_and, if_false]
    rfl

theorem multicallElement_eq (router : Address) (value : Nat) (element : Token) :
    multicallElement router value element = .ofOption (multicallCall router value element) := by
  unfold multicallElement multicallCall
  rw [Attempt.ofOption_bind]
  exact bind_congr fun calldata => innerCall_checked router value calldata

theorem batchElement_eq (element : Token) : batchElement element = .ofOption (batchCall element) := by
  unfold batchElement batchCall
  simp only [Attempt.ofOption_bind]
  exact bind_congr fun fields => bind_congr fun target => bind_congr fun calldata =>
    innerCall_checked target _ calldata

/-- Four bytes at an offset, as the scan reads them. -/
theorem selectorAt_of_drop {input args : Bytes} {offset : Nat} {b0 b1 b2 b3 : UInt8}
    (rest : input.drop offset = b0 :: b1 :: b2 :: b3 :: args) : selectorAt input offset = .ok ⟨b0, b1, b2, b3⟩ := by
  have get : ∀ i, input[offset + i]? = (b0 :: b1 :: b2 :: b3 :: args)[i]? := by
    intro i
    rw [← rest, List.getElem?_drop]
  have at0 := get 0
  rw [Nat.add_zero] at at0
  simp only [selectorAt, byteAt, at0, get 1, get 2, get 3]
  rfl

theorem sliceFrom_of_drop {input args : Bytes} {offset : Nat} {b0 b1 b2 b3 : UInt8}
    (rest : input.drop offset = b0 :: b1 :: b2 :: b3 :: args) : sliceFrom input (offset + 4) = .ok args := by
  have length := congrArg List.length rest
  simp only [List.length_drop, List.length_cons] at length
  rw [sliceFrom_ok (by omega), ← List.drop_drop, rest]
  rfl

variable (monitoredTokens : List MonitoredTokenConfig) (decode : SwapCall → Decoding SwapSignal)

/-- What the scan makes of a call that it finds. -/
def scanProbe (call : SwapCall) : Decoding SwapSignal := do
  let signal ← decode call
  .require (pathContainsMonitoredToken signal.path monitoredTokens)
  return signal

theorem scanAt_eq {router : Address} {value : Nat} {input : Bytes} {offset : Nat} (inside : offset + 4 ≤ input.length) :
    scanAt monitoredTokens decode router value input offset =
      .ofOption (scanCall router value input offset) >>= scanProbe monitoredTokens decode := by
  have length : 4 ≤ (input.drop offset).length := by
    rw [List.length_drop]
    omega
  match rest : input.drop offset, length with
  | b0 :: b1 :: b2 :: b3 :: args, _ =>
    simp only [scanAt, selectorAt_of_drop rest, sliceFrom_of_drop rest, scanCall, rest, callOf, Attempt.ofExcept_ok,
      Attempt.gives_bind]
    by_cases child : (⟨b0, b1, b2, b3⟩ : Selector) ∈ childSelectors
    · rw [Attempt.require_pos child, if_pos child]
      rfl
    · rw [Attempt.require_neg child, if_neg child]
      rfl

/-- The calls that the scan of a wrapper's arguments finds, from left to right. -/
def scanCalls (call : SwapCall) : List SwapCall :=
  (List.range (call.args.length - 3)).filterMap (scanCall call.router call.value call.args)

theorem decodeNestedSwapFromCalldata_eq (call : SwapCall) :
    decodeNestedSwapFromCalldata monitoredTokens decode call.router call.value call.args =
      .first (scanProbe monitoredTokens decode) (scanCalls call) := by
  refine Attempt.first_filterMap ?_
  intro offset member
  have inside := List.mem_range.mp member
  exact scanAt_eq monitoredTokens decode (by omega)

theorem decodeSafeExecTransactionSwap_eq (call : SwapCall) :
    decodeSafeExecTransactionSwap abi monitoredTokens decode call =
      .ofOption (safeCall abi call.args) >>= fun inner =>
        decode inner <|> .ofOption (decodeSafeInnerAggregatorPartial monitoredTokens inner) := by
  rw [decodeSafeExecTransactionSwap, safeInnerCall_eq]

theorem decodeMulticallNestedSwap_eq (call : SwapCall) :
    decodeMulticallNestedSwap abi monitoredTokens decode call =
      .ofOption (multicallElements abi call.selector call.args) >>= fun elements =>
        .first (fun inner => do
            let signal ← decode inner
            return signal.relabel call.selector (92 / 100) "multicall_nested")
          (elements.filterMap (multicallCall call.router call.value)) <|>
        scanLabelled monitoredTokens decode call (68 / 100) "multicall_selector_scan" := by
  refine bind_congr fun elements => ?_
  rw [Attempt.first_filterMap]
  intro element _
  rw [multicallElement_eq]

theorem decodeBatchExecuteNestedSwap_eq (call : SwapCall) :
    decodeBatchExecuteNestedSwap abi monitoredTokens decode call =
      (.first (fun inner => do
          let signal ← decode inner
          return signal.relabel call.selector (82 / 100) "batch_execute_nested")
        ((batchElements abi call.args).filterMap batchCall) <|>
        scanLabelled monitoredTokens decode call (58 / 100) "batch_execute_selector_scan") := by
  rw [decodeBatchExecuteNestedSwap, Attempt.first_filterMap]
  intro element _
  rw [batchElement_eq]

end

section

variable (abi : Abi.Decoder)

/-- The calls that a call hands to the decoder as a whole. -/
def children (call : SwapCall) : List SwapCall :=
  match callKind call.selector with
  | .safe => (safeCall abi call.args).toList
  | .multicall =>
    ((multicallElements abi call.selector call.args).getD []).filterMap (multicallCall call.router call.value)
  | .batch => (batchElements abi call.args).filterMap batchCall
  | _ => []

theorem scanCalls_shorter {call inner : SwapCall} (member : inner ∈ scanCalls call) :
    inner.args.length < call.args.length := by
  obtain ⟨offset, _, found⟩ := List.mem_filterMap.mp member
  unfold scanCall at found
  split at found
  · rename_i child read
    have length := callOf_length read
    rw [List.length_drop] at length
    split at found
    · cases Option.some.inj found
      omega
    · exact absurd found (by simp)
  · exact absurd found (by simp)

theorem safeCall_shorter {args : Bytes} {inner : SwapCall} (found : safeCall abi args = some inner) :
    inner.args.length < args.length := by
  obtain ⟨decoded, decodes, found⟩ := Option.bind_eq_some_iff.mp found
  obtain ⟨target, _, found⟩ := Option.bind_eq_some_iff.mp found
  obtain ⟨value, _, found⟩ := Option.bind_eq_some_iff.mp found
  obtain ⟨calldata, bytes, found⟩ := Option.bind_eq_some_iff.mp found
  obtain ⟨operation, _, found⟩ := Option.bind_eq_some_iff.mp found
  obtain ⟨token, member, carried⟩ := carries_of_tokenAsBytes bytes
  have bound := abi.carries_length decodes member carried
  split at found
  · have length := callOf_length found
    omega
  · exact absurd found (by simp)

/-- What an element of a decoded array carries, the array carries. -/
theorem carries_of_tokenAsArray {decoded elements : List Token} {i : Nat} {element : Token} {value : Bytes}
    (found : decoded[i]?.bind tokenAsArray = some elements) (member : element ∈ elements)
    (carried : element.Carries value) : ∃ token ∈ decoded, token.Carries value := by
  obtain ⟨token, place, array⟩ := Option.bind_eq_some_iff.mp found
  refine ⟨token, List.mem_of_getElem? place, ?_⟩
  cases token with
  | array values =>
    cases Option.some.inj array
    exact .array member carried
  | _ => exact absurd array (by simp [tokenAsArray])

theorem multicallElements_carries {selector : Selector} {args value : Bytes} {elements : List Token} {element : Token}
    (found : multicallElements abi selector args = some elements) (member : element ∈ elements)
    (carried : element.Carries value) : value.length + 32 ≤ args.length := by
  unfold multicallElements at found
  split at found
  all_goals
    obtain ⟨decoded, decodes, array⟩ := Option.bind_eq_some_iff.mp found
    obtain ⟨token, inside, carries⟩ := carries_of_tokenAsArray array member carried
    exact abi.carries_length decodes inside carries

theorem multicallCall_carries {router : Address} {value : Nat} {element : Token} {inner : SwapCall}
    (found : multicallCall router value element = some inner) :
    ∃ calldata, element.Carries calldata ∧ inner.args.length + 4 = calldata.length := by
  obtain ⟨calldata, bytes, read⟩ := Option.bind_eq_some_iff.mp found
  cases element with
  | bytes _ =>
    cases Option.some.inj bytes
    exact ⟨calldata, .bytes, callOf_length read⟩
  | _ => exact absurd bytes (by simp [tokenAsBytes])

theorem batchElements_carries {args value : Bytes} {element : Token} (member : element ∈ batchElements abi args)
    (carried : element.Carries value) : value.length + 32 ≤ args.length := by
  unfold batchElements at member
  split at member
  · rename_i decoded decodes
    cases array : decoded[0]?.bind tokenAsArray with
    | none => simp [array] at member
    | some elements =>
      rw [array, Option.getD_some] at member
      obtain ⟨token, inside, carries⟩ := carries_of_tokenAsArray array member carried
      exact abi.carries_length decodes inside carries
  · exact absurd member (by simp)

theorem batchCall_carries {element : Token} {inner : SwapCall} (found : batchCall element = some inner) :
    ∃ calldata, element.Carries calldata ∧ inner.args.length + 4 = calldata.length := by
  obtain ⟨fields, tuple, found⟩ := Option.bind_eq_some_iff.mp found
  obtain ⟨target, _, found⟩ := Option.bind_eq_some_iff.mp found
  obtain ⟨calldata, bytes, read⟩ := Option.bind_eq_some_iff.mp found
  obtain ⟨token, member, carried⟩ := carries_of_tokenAsBytes bytes
  cases element with
  | tuple _ =>
    cases Option.some.inj tuple
    exact ⟨calldata, .tuple member carried, callOf_length read⟩
  | _ => exact absurd tuple (by simp [tokenAsTuple])

theorem multicallCalls_shorter {call inner : SwapCall} {elements : List Token}
    (found : multicallElements abi call.selector call.args = some elements)
    (member : inner ∈ elements.filterMap (multicallCall call.router call.value)) :
    inner.args.length < call.args.length := by
  obtain ⟨element, inside, read⟩ := List.mem_filterMap.mp member
  obtain ⟨calldata, carried, length⟩ := multicallCall_carries read
  have bound := multicallElements_carries abi found inside carried
  omega

theorem batchCalls_shorter {call inner : SwapCall}
    (member : inner ∈ (batchElements abi call.args).filterMap batchCall) : inner.args.length < call.args.length := by
  obtain ⟨element, inside, read⟩ := List.mem_filterMap.mp member
  obtain ⟨calldata, carried, length⟩ := batchCall_carries read
  have bound := batchElements_carries abi inside carried
  omega

theorem children_shorter {call child : SwapCall} (member : child ∈ children abi call) :
    child.args.length < call.args.length := by
  unfold children at member
  split at member
  · exact safeCall_shorter abi (Option.mem_toList.mp member)
  · cases found : multicallElements abi call.selector call.args with
    | none => simp [found] at member
    | some elements =>
      rw [found, Option.getD_some] at member
      exact multicallCalls_shorter abi found member
  · exact batchCalls_shorter abi member
  · exact absurd member (by simp)

/-- The calls that the byte scan of a call's arguments hands to the decoder. -/
def scannedCalls (call : SwapCall) : List SwapCall :=
  match callKind call.selector with
  | .multicall | .privateWrapper | .batch => scanCalls call
  | .other => if call.selector = .privateSearcherSelectorD00BA30B then scanCalls call else []
  | _ => []

/-- Every call that a call hands to the decoder. -/
def nestedCalls (call : SwapCall) : List SwapCall := children abi call ++ scannedCalls call

theorem nestedCalls_shorter {call inner : SwapCall} (member : inner ∈ nestedCalls abi call) :
    inner.args.length < call.args.length := by
  rcases List.mem_append.mp member with child | scanned
  · exact children_shorter abi child
  · unfold scannedCalls at scanned
    split at scanned
    · exact scanCalls_shorter scanned
    · exact scanCalls_shorter scanned
    · exact scanCalls_shorter scanned
    · split at scanned
      · exact scanCalls_shorter scanned
      · exact absurd scanned (by simp)
    · exact absurd scanned (by simp)

variable (monitoredTokens : List MonitoredTokenConfig)

theorem scanLabelled_congr {decode decode' : SwapCall → Decoding SwapSignal} {call : SwapCall} {confidence : ℚ}
    {source : String} (same : ∀ inner ∈ scanCalls call, decode inner = decode' inner) :
    scanLabelled monitoredTokens decode call confidence source =
      scanLabelled monitoredTokens decode' call confidence source := by
  unfold scanLabelled
  rw [decodeNestedSwapFromCalldata_eq, decodeNestedSwapFromCalldata_eq, Attempt.first_congr]
  intro inner member
  rw [scanProbe, scanProbe, same inner member]

/-- The dispatch calls the decoder on the nested calls only. -/
theorem decodeSwapSignalWith_callsOnly (call : SwapCall) :
    Recursion.CallsOnly (decodeSwapSignalWith abi monitoredTokens) call (· ∈ nestedCalls abi call) := by
  intro decode decode' same
  have child : ∀ inner ∈ children abi call, decode inner = decode' inner :=
    fun inner member => same inner (List.mem_append_left _ member)
  have scanned : ∀ inner ∈ scannedCalls call, decode inner = decode' inner :=
    fun inner member => same inner (List.mem_append_right _ member)
  unfold children at child
  unfold scannedCalls at scanned
  unfold decodeSwapSignalWith
  cases kind : callKind call.selector with
  | safe =>
    rw [kind] at child
    simp only [decodeSafeExecTransactionSwap_eq]
    cases found : safeCall abi call.args with
    | none => rfl
    | some inner =>
      rw [Attempt.ofOption_some, Attempt.gives_bind, Attempt.gives_bind,
        child inner (Option.mem_toList.mpr found)]
  | multicall =>
    rw [kind] at child scanned
    simp only [decodeMulticallNestedSwap_eq]
    cases found : multicallElements abi call.selector call.args with
    | none => rfl
    | some elements =>
      rw [Attempt.ofOption_some, Attempt.gives_bind, Attempt.gives_bind, scanLabelled_congr monitoredTokens scanned,
        Attempt.first_congr]
      intro inner member
      rw [child inner (by simpa only [found, Option.getD_some] using member)]
  | privateWrapper =>
    rw [kind] at scanned
    exact scanLabelled_congr monitoredTokens scanned
  | batch =>
    rw [kind] at child scanned
    simp only [decodeBatchExecuteNestedSwap_eq]
    rw [scanLabelled_congr monitoredTokens scanned, Attempt.first_congr]
    intro inner member
    rw [child inner member]
  | other =>
    rw [kind] at scanned
    simp only [decodeKnownAggregatorPartial, decodePrivateSearcherFingerprint]
    by_cases searcher : call.selector = .privateSearcherSelectorD00BA30B
    · simp only [if_pos searcher] at scanned
      rw [scanLabelled_congr monitoredTokens scanned]
    · simp only [if_neg searcher]
  | _ => rfl

theorem decodeSwapSignalWith_shrinks (call : SwapCall) :
    Recursion.CallsOnly (decodeSwapSignalWith abi monitoredTokens) call
      fun inner => inner.args.length < call.args.length :=
  (decodeSwapSignalWith_callsOnly abi monitoredTokens call).mono fun _ member => nestedCalls_shorter abi member

theorem decodeSwapSignalFuel_eq_unroll (fuel : Nat) :
    decodeSwapSignalFuel abi monitoredTokens fuel =
      Recursion.unroll (decodeSwapSignalWith abi monitoredTokens) (fun _ => .fails .endless) fuel := by
  induction fuel with
  | zero => rfl
  | succ fuel ih =>
    funext call
    rw [decodeSwapSignalFuel, ih]
    rfl

theorem decodeSwapSignalFuel_enough {fuel : Nat} {call : SwapCall} (enough : call.args.length < fuel) :
    decodeSwapSignalFuel abi monitoredTokens fuel call = decodeSwapSignal abi monitoredTokens call := by
  rw [decodeSwapSignal, decodeSwapSignalFuel_eq_unroll, decodeSwapSignalFuel_eq_unroll]
  exact Recursion.unroll_enough (decodeSwapSignalWith_shrinks abi monitoredTokens) enough (Nat.lt_succ_self _)

/-- The equation of the decoder. The nesting never runs out. -/
theorem decodeSwapSignal_eq (call : SwapCall) :
    decodeSwapSignal abi monitoredTokens call =
      decodeSwapSignalWith abi monitoredTokens (decodeSwapSignal abi monitoredTokens) call :=
  decodeSwapSignalWith_shrinks abi monitoredTokens call _ _ fun _ shorter =>
    decodeSwapSignalFuel_enough abi monitoredTokens shorter

end

end ArbitrageRuntime
