import ArbitrageRuntime.Engine.Handle

namespace ArbitrageRuntime

/-- The configuration with the number of blocks that have to follow a receipt. -/
structure FinalityConfig extends Config where
  finalityConfirmations : Nat

/-- A receipt; its gas fits the word to which the engine narrows it. -/
structure TransactionReceipt where
  blockNumber : Option Nat
  gasUsed : Option Nat
  effectiveGasPrice : Option Nat
  status : Option Nat
  gas_fits : gasUsed.getD 0 ≤ u64Max

/-- What one endpoint answers when it is asked for the receipt of a transaction. -/
structure ReceiptReading where
  receipt : Except String (Option TransactionReceipt)
  blockNumber : Except String Nat
  balanceAt : Nat → Except String Nat

/-- What the wait for a transaction reads: in every round the endpoints that are offered for reading, and
the answers of the endpoints. -/
structure Polling where
  preferredEndpointId : Nat
  allHandles : List RpcHandle
  readCandidates : Nat → List RpcHandle
  reading : Nat → RpcHandle → ReceiptReading

def receiptHasRequiredConfirmations (config : FinalityConfig) (receipt : TransactionReceipt)
    (blockNumber : Except String Nat) : Bool :=
  if config.finalityConfirmations = 0 then true
  else
    match receipt.blockNumber with
    | none => false
    | some receiptBlock =>
      match blockNumber with
      | .ok current => u64Add receiptBlock config.finalityConfirmations ≤ current
      | .error _ => false

/-- What the balance of the profit recipient has gained in the block of the receipt, less the gas. -/
def realizedProfitEth (config : FinalityConfig) (payload : ExecutionPayload) (receipt : TransactionReceipt)
    (gasPaidWei : Nat) (balanceAt : Nat → Except String Nat) : Option ℚ :=
  match receipt.blockNumber with
  | none => none
  | some blockNumber =>
    match balanceAt (blockNumber - 1), balanceAt blockNumber with
    | .ok preBalance, .ok postBalance =>
      (config.monitoredTokens.find? fun token => token.address == payload.profitToken).map fun tokenMeta =>
        ((postBalance - preBalance : Nat) : ℚ) / 10 ^ tokenMeta.decimals * tokenMeta.priceEth - weiToEth gasPaidWei
    | _, _ => none

def TransactionReceipt.gasPaidWei (receipt : TransactionReceipt) : Nat :=
  u256Mul (receipt.gasUsed.getD 0) (receipt.effectiveGasPrice.getD 0)

/-- The result of a transaction whose receipt is final. -/
def finalResult (config : FinalityConfig) (payload : ExecutionPayload) (reading : ReceiptReading)
    (receipt : TransactionReceipt) : ExecutionResult :=
  let success := receipt.status == some 1
  { realizedProfit :=
      if success then
        (realizedProfitEth config payload receipt receipt.gasPaidWei reading.balanceAt).getD
          (weiToEth payload.expectedProfitWei - weiToEth receipt.gasPaidWei)
      else -weiToEth receipt.gasPaidWei
    gasUsed := receipt.gasUsed.getD 0
    success := success }

/-- An endpoint that fails, knows no receipt or knows too young a one is passed over. -/
def ReceiptReading.finalReceipt (config : FinalityConfig) (reading : ReceiptReading) : Option TransactionReceipt :=
  match reading.receipt with
  | .error _ => none
  | .ok none => none
  | .ok (some receipt) =>
    if receiptHasRequiredConfirmations config receipt reading.blockNumber then some receipt else none

namespace Polling

/-- `read_probe_handles`: the preferred endpoint first, each endpoint once. -/
def probeHandles (polling : Polling) (round : Nat) : List RpcHandle :=
  let primary := polling.allHandles.find? fun handle => handle.id == polling.preferredEndpointId
  (polling.readCandidates round).foldl pushNew primary.toList

/-- The first final receipt of one round. -/
def probe (config : FinalityConfig) (payload : ExecutionPayload) (polling : Polling) (round : Nat) :
    List RpcHandle → Option ExecutionResult
  | [] => none
  | handle :: rest =>
    match (polling.reading round handle).finalReceipt config with
    | some receipt => some (finalResult config payload (polling.reading round handle) receipt)
    | none => probe config payload polling round rest

/-- The rounds that are left, with a pause behind each. -/
def rounds (config : FinalityConfig) (payload : ExecutionPayload) (polling : Polling) :
    Nat → Nat → Option ExecutionResult
  | _, 0 => none
  | round, left + 1 =>
    match probe config payload polling round (polling.probeHandles round) with
    | some result => some result
    | none => rounds config payload polling (round + 1) left

/-- The outcome of ten rounds, if one of them shows it. -/
def finalization (config : FinalityConfig) (payload : ExecutionPayload) (polling : Polling) : Option ExecutionResult :=
  polling.rounds config payload 0 10

/-- An endpoint that is probed in one of the ten rounds knows a receipt with the required confirmations. -/
def ShowsReceipt (config : FinalityConfig) (polling : Polling) : Prop :=
  ∃ round < 10, ∃ handle ∈ polling.probeHandles round, ((polling.reading round handle).finalReceipt config).isSome

theorem isSome_probe {config : FinalityConfig} {payload : ExecutionPayload} {polling : Polling} {round : Nat}
    {handles : List RpcHandle} : (probe config payload polling round handles).isSome ↔
      ∃ handle ∈ handles, ((polling.reading round handle).finalReceipt config).isSome := by
  induction handles with
  | nil => simp [probe]
  | cons handle rest ih =>
    unfold probe
    cases final : (polling.reading round handle).finalReceipt config with
    | some receipt => simp [final]
    | none => simp [final, ih]

theorem isSome_rounds {config : FinalityConfig} {payload : ExecutionPayload} {polling : Polling} (round left : Nat) :
    (rounds config payload polling round left).isSome ↔
      ∃ i, round ≤ i ∧ i < round + left ∧
        ∃ handle ∈ polling.probeHandles i, ((polling.reading i handle).finalReceipt config).isSome := by
  induction left generalizing round with
  | zero =>
    refine ⟨fun found => absurd found (by simp [rounds]), ?_⟩
    rintro ⟨i, above, below, _⟩
    omega
  | succ left ih =>
    unfold rounds
    have here := @isSome_probe config payload polling round (polling.probeHandles round)
    cases found : probe config payload polling round (polling.probeHandles round) with
    | some result =>
      rw [found] at here
      exact ⟨fun _ => ⟨round, le_rfl, by omega, here.mp rfl⟩, fun _ => rfl⟩
    | none =>
      rw [found] at here
      rw [ih (round + 1)]
      constructor
      · rintro ⟨i, above, below, shown⟩
        exact ⟨i, by omega, by omega, shown⟩
      · rintro ⟨i, above, below, shown⟩
        rcases Nat.eq_or_lt_of_le above with rfl | later
        · exact absurd (here.mpr shown) (by simp)
        · exact ⟨i, later, by omega, shown⟩

/-- The wait ends with an outcome if and only if some probed endpoint knows it. -/
theorem isSome_finalization {config : FinalityConfig} {payload : ExecutionPayload} {polling : Polling} :
    (polling.finalization config payload).isSome ↔ polling.ShowsReceipt config := by
  unfold finalization ShowsReceipt
  rw [isSome_rounds]
  constructor
  · rintro ⟨i, _, below, shown⟩
    exact ⟨i, by omega, shown⟩
  · rintro ⟨i, below, shown⟩
    exact ⟨i, Nat.zero_le i, by omega, shown⟩

end Polling

/-- A timeout looks to the caller like a transaction that failed at no cost. -/
def observeRealizedPnl (config : FinalityConfig) (payload : ExecutionPayload) (polling : Polling) : ExecutionResult :=
  (polling.finalization config payload).getD failedSubmission

/-- A call with everything it reads, the wait for each submit path included. -/
structure ObservedCall where
  opportunity : MevOpportunity
  outside : Outside
  polling : String → Polling

namespace ObservedCall

/-- The wait gives the call its results. -/
def reads (config : FinalityConfig) (call : ObservedCall) : Outside :=
  match call.opportunity.executionPayload with
  | none => call.outside
  | some payload =>
    { call.outside with
      observeRealizedPnl := fun submitPath => observeRealizedPnl config payload (call.polling submitPath) }

/-- `ExecutionEngine::handle` -/
def handle (config : FinalityConfig) (call : ObservedCall) (engine : Engine) : Run :=
  ArbitrageRuntime.handle config.toConfig call.opportunity (call.reads config) engine

end ObservedCall

end ArbitrageRuntime
