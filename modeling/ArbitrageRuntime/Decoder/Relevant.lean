import ArbitrageRuntime.Decoder.Search

namespace ArbitrageRuntime

/-- The fields of a pending transaction that the decoder reads. -/
structure PendingTransaction where
  recipient : Option Address
  value : Nat
  input : Bytes
  deriving DecidableEq

/-- The table of `find_selector`. -/
def selectorTable : List Selector :=
  [.swapExactTokensForTokens, .swapExactEthForTokens, .swapExactTokensForEth, .swapExactTokensForTokensSupportingFee,
    .swapExactEthForTokensSupportingFee, .swapExactTokensForEthSupportingFee, .v3ExactInputSingle, .v3ExactInput]

def findSelector (input : Bytes) : Decoding Nat := do
  .require (4 ≤ input.length)
  let selector ← .ofExcept (selectorAt input 0)
  .ofOption (selectorTable.findIdx? fun candidate => candidate = selector)

/-- `SELECTORS[index]` -/
def selectorTableAt (index : Nat) : Except Panic Selector :=
  match selectorTable[index]? with
  | some selector => .ok selector
  | none => .error (.outOfRange index selectorTable.length)

def selectorOf (input : Bytes) : Decoding Selector :=
  (do
    let index ← findSelector input
    .ofExcept (selectorTableAt index)) <|>
  (do
    .require (4 ≤ input.length)
    .ofExcept (selectorAt input 0))

def modeAllowsPartialShadowDecode (mode : OpportunityMode) : Bool :=
  match mode with
  | .aggressive | .scavenger => true
  | .conservative => false

/-- The notional of a signal. In the shadow modes a path with a monitored token stands in for a price. -/
def relevantNotionalWei (monitoredTokens : List MonitoredTokenConfig) (minLargeSwapWei : Nat) (mode : OpportunityMode)
    (signal : SwapSignal) : Option Nat :=
  (estimateNotionalWei signal monitoredTokens).or
    (if modeAllowsPartialShadowDecode mode ∧ pathContainsMonitoredToken signal.path monitoredTokens then
      some (max minLargeSwapWei 1)
    else none)

/-- The checks on a decoded signal. -/
def relevantSignal (monitoredTokens : List MonitoredTokenConfig) (minLargeSwapWei : Nat) (mode : OpportunityMode)
    (signal : SwapSignal) : Option SwapSignal := do
  let notionalWei ← relevantNotionalWei monitoredTokens minLargeSwapWei mode signal
  if signal.path.length < 2 then none
  else if mode ≠ .scavenger ∧ notionalWei < minLargeSwapWei then none
  else some { signal with notionalWei := notionalWei }

def decodeRelevantSwap (abi : Abi.Decoder) (tx : PendingTransaction) (monitoredTokens : List MonitoredTokenConfig)
    (minLargeSwapWei : Nat) (mode : OpportunityMode) : Decoding SwapSignal := do
  let selector ← selectorOf tx.input
  let router ← .ofOption tx.recipient
  let args ← .ofExcept (sliceFrom tx.input 4)
  let signal ← decodeSwapSignal abi monitoredTokens
    { selector := selector, router := router, value := tx.value, args := args }
  .ofOption (relevantSignal monitoredTokens minLargeSwapWei mode signal)

/-- The call in a transaction. -/
def PendingTransaction.call (tx : PendingTransaction) : Option SwapCall :=
  tx.recipient.bind fun router => callOf router tx.value tx.input

theorem selectorTableAt_of_findIdx {index : Nat} {selector : Selector}
    (found : selectorTable.findIdx? (fun candidate => candidate = selector) = some index) :
    selectorTableAt index = .ok selector := by
  obtain ⟨inside, same, _⟩ := List.findIdx?_eq_some_iff_getElem.mp found
  rw [selectorTableAt, List.getElem?_eq_getElem inside]
  exact congrArg Except.ok (of_decide_eq_true same)

/-- The table only names a selector that stands in the calldata anyway. -/
theorem selectorOf_cons (b0 b1 b2 b3 : UInt8) (args : Bytes) :
    selectorOf (b0 :: b1 :: b2 :: b3 :: args) = .gives ⟨b0, b1, b2, b3⟩ := by
  have long : 4 ≤ (b0 :: b1 :: b2 :: b3 :: args).length := by simp
  have read : selectorAt (b0 :: b1 :: b2 :: b3 :: args) 0 = .ok ⟨b0, b1, b2, b3⟩ := rfl
  rw [selectorOf, findSelector, Attempt.require_pos long, read]
  simp only [Attempt.gives_bind, Attempt.ofExcept_ok]
  cases found : selectorTable.findIdx? (fun candidate => candidate = ⟨b0, b1, b2, b3⟩) with
  | none => rfl
  | some index =>
    rw [Attempt.ofOption_some, Attempt.gives_bind, selectorTableAt_of_findIdx found]
    rfl

theorem selectorOf_short {input : Bytes} (short : ¬ 4 ≤ input.length) : selectorOf input = .declines := by
  rw [selectorOf, findSelector, Attempt.require_neg short]
  rfl

/-- A transaction is decoded as the call in it, and judged by the signal. -/
theorem decodeRelevantSwap_eq (abi : Abi.Decoder) (tx : PendingTransaction) (monitoredTokens : List MonitoredTokenConfig)
    (minLargeSwapWei : Nat) (mode : OpportunityMode) :
    decodeRelevantSwap abi tx monitoredTokens minLargeSwapWei mode = (do
      let call ← .ofOption tx.call
      let signal ← decodeSwapSignal abi monitoredTokens call
      .ofOption (relevantSignal monitoredTokens minLargeSwapWei mode signal)) := by
  obtain ⟨recipient, value, input⟩ := tx
  by_cases long : 4 ≤ input.length
  · match input, long with
    | b0 :: b1 :: b2 :: b3 :: args, _ =>
      rw [decodeRelevantSwap, selectorOf_cons]
      cases recipient with
      | none => rfl
      | some router => rfl
  · have none : ∀ router, callOf router value input = none := by
      intro router
      match input with
      | [] => rfl
      | [_] => rfl
      | [_, _] => rfl
      | [_, _, _] => rfl
      | _ :: _ :: _ :: _ :: _ => exact absurd long (by simp)
    rw [decodeRelevantSwap, selectorOf_short long, PendingTransaction.call]
    cases recipient with
    | none => rfl
    | some router =>
      rw [Option.bind_some, none]
      rfl

theorem decodeRelevantSwap_fails {abi : Abi.Decoder} {tx : PendingTransaction}
    {monitoredTokens : List MonitoredTokenConfig} {minLargeSwapWei : Nat} {mode : OpportunityMode} :
    (decodeRelevantSwap abi tx monitoredTokens minLargeSwapWei mode).Fails ↔
      ∃ call, tx.call = some call ∧ (decodeSwapSignal abi monitoredTokens call).Fails := by
  rw [decodeRelevantSwap_eq, Attempt.fails_ofOption_bind]
  refine exists_congr fun call => and_congr_right fun _ => ?_
  rw [Attempt.fails_bind]
  simp

end ArbitrageRuntime
