import ArbitrageRuntime.Builder.Payload
import ArbitrageRuntime.Engine.SubmitPaths

namespace ArbitrageRuntime

/-- What the chain said when the call prepared its transaction. -/
structure SendContext where
  endpoint : RpcHandle
  hotBalance : Nat
  chainNonce : Nat
  gasPrice : Nat
  baseFeePerGas : Option Nat
  block : Nat

structure TransactionBody where
  recipient : Address
  data : Bytes
  value : Nat
  gas : Nat
  nonce : Nat
  sender : Address
  deriving DecidableEq

inductive TypedTransaction
  | eip1559 (body : TransactionBody) (maxFeePerGas maxPriorityFeePerGas chainId : Nat)
  | legacy (body : TransactionBody) (gasPrice : Nat)
  deriving DecidableEq

def dynamicGasPrice (mev : MevConfig) (baseGasPrice : Nat) (bestRelay : Option RelayQuote)
    (payload : ExecutionPayload) : Nat :=
  let base := mev.gasOverpayBaseExtraBps
  let relayExtra := match bestRelay with
    | none => base
    | some relay =>
      let missed := if 10 / 100 ≤ relay.acceptedNotIncludedRate then u64Add base mev.gasOverpayMissExtraBps else base
      let reverted := if 5 / 100 ≤ relay.revertRate then u64Add missed mev.gasOverpayRevertExtraBps else missed
      if relay.acceptRate ≤ 60 / 100 then u64Add reverted mev.gasOverpaySubmitFailureExtraBps else reverted
  let contextExtra :=
    if mev.capitalMultiplierToxicityThreshold ≤ payload.contextToxicityScore then
      u64Add relayExtra (mev.gasOverpayMissExtraBps / 2)
    else if mev.capitalMultiplierPriorityThreshold ≤ payload.contextPriorityScore then
      u64Add relayExtra (mev.gasOverpayBaseExtraBps / 2)
    else relayExtra
  let extraBps := min contextExtra mev.gasOverpayMaxExtraBps
  let adjusted := u256Mul baseGasPrice ((10000 + extraBps) % 2 ^ 64) / 10000
  match mev.maxGasPriceWei with
  | some cap => min adjusted cap
  | none => adjusted

/-- The transaction that `sign_executor_transaction` hands to the wallet. -/
def executorTransaction (config : Config) (payload : ExecutionPayload) (walletAddress : Address)
    (nonce gasPrice : Nat) (baseFeePerGas : Option Nat) : TypedTransaction :=
  let body : TransactionBody :=
    { recipient := payload.targetContract
      data := payload.calldata.bytes
      value := payload.value
      gas := payload.gasLimit
      nonce := nonce
      sender := walletAddress }
  match baseFeePerGas with
  | some baseFee =>
    let minPriority := gasPrice / 4
    let priorityFee := max (gasPrice - baseFee) minPriority
    let maxFee := max (u256Add baseFee priorityFee) gasPrice
    .eip1559 body maxFee priorityFee config.chainId
  | none => .legacy body gasPrice

/-- The most that the transaction may pay for a unit of gas, and the tip in it. -/
def TypedTransaction.fees : TypedTransaction → Nat × Nat
  | .eip1559 _ maxFeePerGas maxPriorityFeePerGas _ => (maxFeePerGas, maxPriorityFeePerGas)
  | .legacy _ gasPrice => (gasPrice, 0)

/-- The gas price cap binds the transaction, and its tip is part of what it pays. -/
def BoundByCap (cap : Nat) (transaction : TypedTransaction) : Prop :=
  transaction.fees.1 ≤ cap ∧ transaction.fees.2 ≤ transaction.fees.1

theorem dynamicGasPrice_le_cap {mev : MevConfig} {cap : Nat} (capped : mev.maxGasPriceWei = some cap)
    (baseGasPrice : Nat) (bestRelay : Option RelayQuote) (payload : ExecutionPayload) :
    dynamicGasPrice mev baseGasPrice bestRelay payload ≤ cap := by
  simp only [dynamicGasPrice, capped]
  exact min_le_right _ _

/-- The minimal tip of a quarter of the price is put on top of the base fee, past the cap that the price keeps. -/
theorem executorTransaction_boundByCap_iff {config : Config} {cap : Nat} (capped : config.mev.maxGasPriceWei = some cap)
    (rpcGasPrice : Nat) (bestRelay : Option RelayQuote) (payload : ExecutionPayload) (walletAddress : Address)
    (nonce : Nat) (baseFeePerGas : Option Nat) :
    BoundByCap cap (executorTransaction config payload walletAddress nonce
        (dynamicGasPrice config.mev rpcGasPrice bestRelay payload) baseFeePerGas) ↔
      ∀ baseFee, baseFeePerGas = some baseFee →
        u256Add baseFee (dynamicGasPrice config.mev rpcGasPrice bestRelay payload / 4) ≤ cap := by
  have price := dynamicGasPrice_le_cap capped rpcGasPrice bestRelay payload
  generalize dynamicGasPrice config.mev rpcGasPrice bestRelay payload = gasPrice at price ⊢
  cases baseFeePerGas with
  | none => simp [BoundByCap, executorTransaction, TypedTransaction.fees, price]
  | some baseFee =>
    have tip : max (gasPrice - baseFee) (gasPrice / 4) ≤ gasPrice := by omega
    simp only [BoundByCap, executorTransaction, TypedTransaction.fees, Option.some.injEq, forall_eq', u256Add,
      Saturating.add]
    omega

/-- A back-run on pair 5 that commits a tenth of an ether. -/
def samplePayload : ExecutionPayload where
  tx := []
  calldata := { selector := startV2FlashSwapSelector, args := [] }
  targetContract := 22
  value := 0
  pair := 5
  ammKind := .uniswapV2
  capitalCommittedWei := 10 ^ 17
  expectedProfitWei := 10 ^ 15
  gasLimit := 200000
  priceImpactBps := 10
  profitToken := 1
  profitRecipient := 12
  contextPriorityScore := 1 / 2
  contextToxicityScore := 1 / 2
  edgeMetadata := none
  poolStateBefore := .uniswapV2
    { pair := 5, token0 := 1, token1 := 2, reserve0 := 10 ^ 20, reserve1 := 10 ^ 20, feeBps := 30 }

/-- The price that the cap of 100 gwei cuts down, on chains whose base fee is 10 gwei and 90 gwei. -/
theorem sampleTransaction_boundByCap : BoundByCap (100 * 10 ^ 9) (executorTransaction testConfig samplePayload 3 0
    (dynamicGasPrice testConfig.mev (100 * 10 ^ 9) none samplePayload) (some (10 * 10 ^ 9))) := by
  refine (executorTransaction_boundByCap_iff (by decide +kernel) (100 * 10 ^ 9) none samplePayload 3 0 _).mpr ?_
  rintro baseFee ⟨⟩
  decide +kernel

theorem sampleTransaction_overCap : ¬ BoundByCap (100 * 10 ^ 9) (executorTransaction testConfig samplePayload 3 0
    (dynamicGasPrice testConfig.mev (100 * 10 ^ 9) none samplePayload) (some (90 * 10 ^ 9))) :=
  fun bound => absurd bound.1 (by decide +kernel)

end ArbitrageRuntime
