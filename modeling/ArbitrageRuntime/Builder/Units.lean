import ArbitrageRuntime.Config

namespace ArbitrageRuntime

def tokenMetadata (config : Config) (token : Address) : Option MonitoredTokenConfig :=
  config.monitoredTokens.find? fun candidate => candidate.address = token

/-- `token_amount_to_native_f64`, over exact rationals. -/
def tokenAmountToNative (config : Config) (token : Address) (amount : Nat) : Option ℚ := do
  let metadata ← tokenMetadata config token
  some (amount / 10 ^ metadata.decimals * metadata.priceEth)

def tokenAmountToNativeWei (config : Config) (token : Address) (amount : Nat) : Option Nat := do
  let native ← tokenAmountToNative config token amount
  toU256Floor (native * weiPerEth)

def nativeWeiToTokenAmount (config : Config) (token : Address) (nativeWei : Nat) : Option Nat := do
  let metadata ← tokenMetadata config token
  if metadata.priceEth ≤ 0 then none
  else toU256Floor (weiToEth nativeWei / metadata.priceEth * 10 ^ metadata.decimals)

def v2BorrowCapFromNative (config : Config) (borrowToken profitToken : Address)
    (nativeWei borrowReserve profitReserve : Nat) : Option Nat :=
  match nativeWeiToTokenAmount config borrowToken nativeWei with
  | some amount => some amount
  | none =>
    if borrowReserve = 0 ∨ profitReserve = 0 then none
    else do
      let profitAmount ← nativeWeiToTokenAmount config profitToken nativeWei
      some (u256Mul profitAmount borrowReserve / profitReserve)

/-- What one base unit of the token is worth in native wei. -/
def MonitoredTokenConfig.weiPerUnit (token : MonitoredTokenConfig) : ℚ :=
  token.priceEth * weiPerEth / 10 ^ token.decimals

theorem tokenAmountToNativeWei_eq {config : Config} {token : Address} {metadata : MonitoredTokenConfig}
    (known : tokenMetadata config token = some metadata) (amount : Nat) :
    tokenAmountToNativeWei config token amount = toU256Floor (amount * metadata.weiPerUnit) := by
  simp only [tokenAmountToNativeWei, tokenAmountToNative, known, Option.bind_eq_bind, Option.bind_some,
    MonitoredTokenConfig.weiPerUnit]
  congr 1
  ring

theorem nativeWeiToTokenAmount_eq {config : Config} {token : Address} {metadata : MonitoredTokenConfig}
    (known : tokenMetadata config token = some metadata) (priced : 0 < metadata.priceEth) (nativeWei : Nat) :
    nativeWeiToTokenAmount config token nativeWei = toU256Floor (nativeWei / metadata.weiPerUnit) := by
  simp only [nativeWeiToTokenAmount, known, Option.bind_eq_bind, Option.bind_some, if_neg (not_le.mpr priced),
    MonitoredTokenConfig.weiPerUnit, weiToEth]
  congr 1
  have scale : weiPerEth ≠ 0 := by norm_num [weiPerEth]
  field_simp

end ArbitrageRuntime
