import ArbitrageRuntime.Decoder.Relevant
import ArbitrageRuntime.Engine.Budget

namespace ArbitrageRuntime

/-- A pending transaction as a full feed delivers it. -/
structure MempoolTransaction extends PendingTransaction where
  hash : Hash
  gasPrice : Option Nat
  maxFeePerGas : Option Nat
  deriving DecidableEq

/-- `tx.max_fee_per_gas.or(tx.gas_price).unwrap_or_default()` -/
def MempoolTransaction.offeredGasPrice (tx : MempoolTransaction) : Nat := (tx.maxFeePerGas.or tx.gasPrice).getD 0

namespace Selector

def contextWrapSelector : Selector := ⟨0x62, 0x35, 0x56, 0x38⟩
def entrypointHandleOps : Selector := ⟨0x76, 0x5e, 0x82, 0x7f⟩
def selectorNoise00000000 : Selector := ⟨0x00, 0x00, 0x00, 0x00⟩
def selectorNoise00000008 : Selector := ⟨0x00, 0x00, 0x00, 0x08⟩
def observedUnsupportedSelector5F052516 : Selector := ⟨0x5f, 0x05, 0x25, 0x16⟩
def observedUnsupportedSelector3D6684A8 : Selector := ⟨0x3d, 0x66, 0x84, 0xa8⟩
def observedUnsupportedSelector3A66E301 : Selector := ⟨0x3a, 0x66, 0xe3, 0x01⟩
def observedUnsupportedSelector4A502F39 : Selector := ⟨0x4a, 0x50, 0x2f, 0x39⟩
def observedUnsupportedSelectorE3EAD59E : Selector := ⟨0xe3, 0xea, 0xd5, 0x9e⟩
def observedUnsupportedSelector3C02F856 : Selector := ⟨0x3c, 0x02, 0xf8, 0x56⟩
def privateMevSelectorA00597A0 : Selector := ⟨0xa0, 0x05, 0x97, 0xa0⟩
def privateMevSelectorEAA79076 : Selector := ⟨0xea, 0xa7, 0x90, 0x76⟩
def privateMevSelector34EE9791 : Selector := ⟨0x34, 0xee, 0x97, 0x91⟩
def privateMevSelector669DC5B6 : Selector := ⟨0x66, 0x9d, 0xc5, 0xb6⟩
def aggregatorSelector01B7037C : Selector := ⟨0x01, 0xb7, 0x03, 0x7c⟩
def aggregatorSelector0A3C4405 : Selector := ⟨0x0a, 0x3c, 0x44, 0x05⟩
def aggregatorSelector405CEC67 : Selector := ⟨0x40, 0x5c, 0xec, 0x67⟩
def aggregatorSelectorCDD1B25D : Selector := ⟨0xcd, 0xd1, 0xb2, 0x5d⟩
def aggregatorSelectorF2881E21 : Selector := ⟨0xf2, 0x88, 0x1e, 0x21⟩

end Selector

/-- The targets that the runtime knows by name. -/
inductive KnownTarget
  | transitSwapRouterV5
  | entrypointV08
  | entrypointV07
  | aggregatorOrPermitRouter
  | unknownHighFrequencyPolygonTarget
  | privateMevExecutorPolygonA
  | privateMevExecutorPolygonB
  | privateMevExecutorPolygonC
  | safeInnerTarget
  deriving DecidableEq

def knownTargetLabel (address : Address) : Option KnownTarget :=
  if address = 0x07964f135f276412b3182a3b2407b8dd45000000 then some .transitSwapRouterV5
  else if address = 0x4337084d9e255ff0702461cf8895ce9e3b5ff108 then some .entrypointV08
  else if address = 0x0000000071727de22e5e9d8baf0edac6f37da032 then some .entrypointV07
  else if address = 0x00000000000fb5c9adea0298d729a0cb3823cc07 then some .aggregatorOrPermitRouter
  else if address = 0xd216153c06e857cd7f72665e0af1d7d82172f494 then some .unknownHighFrequencyPolygonTarget
  else if address = 0x278d858f05b94576c1e6f73285886876ff6ef8d2 then some .privateMevExecutorPolygonA
  else if address = 0xc37184b6ab8d18be826af019cfa6bb71c6a0ab39 then some .privateMevExecutorPolygonB
  else if address = 0xab45c5a4b0c941a2f231c04c3f49182e1a254052 then some .privateMevExecutorPolygonC
  else if address = 0xada100db00ca00073811820692005400218fce1f then some .safeInnerTarget
  else none

def isAccountAbstractionTarget (address : Option Address) : Bool :=
  match address.bind knownTargetLabel with
  | some .entrypointV08 | some .entrypointV07 => true
  | _ => false

open Selector in
def isPrivateMevExecutorNoise (address : Option Address) (selector : Selector) : Bool :=
  match address.bind knownTargetLabel with
  | some .privateMevExecutorPolygonA | some .privateMevExecutorPolygonB | some .privateMevExecutorPolygonC =>
    selector ∈ [privateMevSelectorA00597A0, privateMevSelectorEAA79076, privateMevSelector34EE9791,
      privateMevSelector669DC5B6]
  | _ => false

open Selector in
def isContextOnlyOrHelperSelector (selector : Selector) : Bool :=
  selector ∈ [aggregatorSelector01B7037C, aggregatorSelector0A3C4405, aggregatorSelector405CEC67,
    aggregatorSelectorCDD1B25D, aggregatorSelectorF2881E21, contextWrapSelector]

open Selector in
def isObservedUnsupportedSelectorNoise (selector : Selector) : Bool :=
  selector ∈ [selectorNoise00000000, observedUnsupportedSelector5F052516, observedUnsupportedSelector3D6684A8,
    observedUnsupportedSelector3A66E301, observedUnsupportedSelector4A502F39, observedUnsupportedSelectorE3EAD59E,
    observedUnsupportedSelector3C02F856]

/-- The multiplier from the environment counts from one on, and stands at two otherwise. -/
def preDecodeGasCapMultiplier (configured : Option ℚ) : ℚ :=
  (configured.filter fun value => 1 ≤ value).getD 2

/-- `pre_decode_tx_gate_with_cap`: the reason to turn a transaction away before it is decoded. -/
def preDecodeTxGateWithCap (tx : MempoolTransaction) (maxGasPriceGwei : Option Nat) (multiplier : Option ℚ) :
    Option String :=
  match selectorOf tx.input with
  | .gives selector =>
    let gasPrice := (tx.maxFeePerGas.or tx.gasPrice).getD 0
    if isAccountAbstractionTarget tx.recipient ∨ selector = .entrypointHandleOps then some "account_abstraction_noise"
    else if isPrivateMevExecutorNoise tx.recipient selector then some "private_mev_executor_noise"
    else if selector = .contextWrapSelector then some "context_command_not_swap"
    else if isContextOnlyOrHelperSelector selector then some "router_helper_or_context_only"
    else if selector = .selectorNoise00000008 then some "selector_noise_or_mev_trap"
    else if isObservedUnsupportedSelectorNoise selector then some "observed_unsupported_selector_noise"
    else if gasPrice = 0 then some "zero_gas_price"
    else
      match maxGasPriceGwei with
      | some maxGasPriceGwei =>
        if maxGasPriceGwei * preDecodeGasCapMultiplier multiplier < (gasPrice : ℚ) / 10 ^ 9 then
          some "victim_gas_price_above_pre_decode_cap"
        else none
      | none => none
  | _ => none

def preDecodeTxGate (mev : MevConfig) (multiplier : Option ℚ) (tx : MempoolTransaction) : Option String :=
  preDecodeTxGateWithCap tx mev.maxGasPriceGwei multiplier

end ArbitrageRuntime
