import Mathlib.Algebra.Order.Ring.Nat
import Mathlib.Data.List.Basic

namespace Abi

/-- Values of the contract ABI, words as naturals and addresses as the low twenty bytes of one. -/
inductive Token
  | address (value : BitVec 160)
  | bytes (value : List UInt8)
  | fixedBytes (value : List UInt8)
  | uint (value : Nat)
  | bool (value : Bool)
  | string (value : List UInt8)
  | array (values : List Token)
  | fixedArray (values : List Token)
  | tuple (values : List Token)

/-- Big-endian bytes of a natural, as many as asked for. -/
def bigEndian : Nat → Nat → List UInt8
  | 0, _ => []
  | width + 1, n => UInt8.ofNat (n / 256 ^ width) :: bigEndian width (n % 256 ^ width)

theorem bigEndian_length (width n : Nat) : (bigEndian width n).length = width := by
  induction width generalizing n with
  | zero => rfl
  | succ width ih => rw [bigEndian, List.length_cons, ih]

def word (n : Nat) : List UInt8 := bigEndian 32 (n % 2 ^ 256)

/-- Bytes padded on the right to a whole number of words. -/
def padded (bytes : List UInt8) : List UInt8 :=
  bytes ++ List.replicate ((32 - bytes.length % 32) % 32) 0

mutual

def Token.isDynamic : Token → Bool
  | .address _ | .uint _ | .bool _ | .fixedBytes _ => false
  | .bytes _ | .string _ | .array _ => true
  | .fixedArray values | .tuple values => anyDynamic values

def anyDynamic : List Token → Bool
  | [] => false
  | token :: rest => token.isDynamic || anyDynamic rest

end

/-- Head and tail of a sequence: static bodies stand in the head, dynamic ones behind it with
their offset in the head. -/
def layout (parts : List (Bool × List UInt8)) : List UInt8 :=
  let headLength := (parts.map fun part => if part.1 then 32 else part.2.length).sum
  let (head, tail) := parts.foldl
    (fun acc part =>
      if part.1 then (acc.1 ++ word (headLength + acc.2.length), acc.2 ++ part.2)
      else (acc.1 ++ part.2, acc.2))
    ([], [])
  head ++ tail

mutual

/-- The encoding of one value without the offset word that stands for it when it is dynamic. -/
def Token.body : Token → List UInt8
  | .address value => word value.toNat
  | .uint value => word value
  | .bool value => word value.toNat
  | .fixedBytes value => padded value
  | .bytes value | .string value => word value.length ++ padded value
  | .array values => word values.length ++ layout (bodies values)
  | .fixedArray values | .tuple values => layout (bodies values)

/-- The bodies of a sequence, each marked with whether it goes to the tail. -/
def bodies : List Token → List (Bool × List UInt8)
  | [] => []
  | token :: rest => (token.isDynamic, token.body) :: bodies rest

end

def encode (tokens : List Token) : List UInt8 := layout (bodies tokens)

end Abi
