import ArbitrageRuntime.Lib.Saturating
import ArbitrageRuntime.Lib.Rounding
import Mathlib.Data.BitVec

namespace ArbitrageRuntime

abbrev Address := BitVec 160

abbrev Bytes := List UInt8

instance decidableMemAddress (address : Address) (addresses : List Address) : Decidable (address ∈ addresses) :=
  inferInstance

/-- The first four bytes of calldata. -/
structure Selector where
  b0 : UInt8
  b1 : UInt8
  b2 : UInt8
  b3 : UInt8
  deriving DecidableEq

/-- The largest value of the 256-bit words of both sides of the system. -/
def u256Max : Nat := 2 ^ 256 - 1

def u64Max : Nat := 2 ^ 64 - 1

/-- `U256::saturating_add` and `U256::saturating_mul`. -/
def u256Add (a b : Nat) : Nat := Saturating.add u256Max a b

def u256Mul (a b : Nat) : Nat := Saturating.mul u256Max a b

def u64Add (a b : Nat) : Nat := Saturating.add u64Max a b

def u64Mul (a b : Nat) : Nat := Saturating.mul u64Max a b

/-- `value as u64` of a nonnegative number of integral value: out of range values stop at the top. -/
def asU64 (value : Int) : Nat := min value.toNat u64Max

/-- `str::contains`, of the characters of a text. -/
def hasText (text : List Char) (part : String) : Bool := decide (part.toList <:+: text)

def weiPerEth : ℚ := 10 ^ 18

/-- `wei_to_eth_f64`, over exact rationals. -/
def weiToEth (wei : Nat) : ℚ := wei / weiPerEth

/-- `f64_to_u256_floor`: negative numbers and numbers outside the word have no image. -/
def toU256Floor (value : ℚ) : Option Nat := Rounding.floorWithin u256Max value

/-- `parse_ether` of the decimal text of a number: digits past the eighteenth are cut off, and a
negative number keeps its two's complement word. -/
def parseEther (value : ℚ) : Option Nat :=
  if value < 0 then
    (Rounding.floorWithin (2 ^ 255) (-value * weiPerEth)).map fun n => (2 ^ 256 - n) % 2 ^ 256
  else Rounding.floorWithin u256Max (value * weiPerEth)

end ArbitrageRuntime
