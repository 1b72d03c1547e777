import ArbitrageRuntime.Lib.Abi

namespace Abi

inductive ParamType
  | address
  | bytes
  | string
  | bool
  | uint (bits : Nat)
  | array (element : ParamType)
  | tuple (fields : List ParamType)

/-- The byte strings that stand anywhere inside a value. -/
inductive Token.Carries : Token → List UInt8 → Prop
  | bytes {value} : Carries (.bytes value) value
  | array {values token value} : token ∈ values → Carries token value → Carries (.array values) value
  | fixedArray {values token value} : token ∈ values → Carries token value → Carries (.fixedArray values) value
  | tuple {values token value} : token ∈ values → Carries token value → Carries (.tuple values) value

/-- The values of a type. -/
inductive ParamType.Admits : ParamType → Token → Prop
  | address {value} : Admits .address (.address value)
  | bytes {value} : Admits .bytes (.bytes value)
  | string {value} : Admits .string (.string value)
  | bool {value} : Admits .bool (.bool value)
  | uint {bits value} : Admits (.uint bits) (.uint value)
  | array {element values} : (∀ value ∈ values, Admits element value) → Admits (.array element) (.array values)
  | tuple {fields values} : List.Forall₂ Admits fields values → Admits (.tuple fields) (.tuple values)

/-- A decoder of the contract ABI. It hands out one value of each type, and every byte string that it hands
out is a slice of its input, behind a length word. -/
structure Decoder where
  decode : List ParamType → List UInt8 → Option (List Token)
  typed : ∀ {types data tokens}, decode types data = some tokens → List.Forall₂ ParamType.Admits types tokens
  carries_length : ∀ {types data tokens token value}, decode types data = some tokens → token ∈ tokens →
    token.Carries value → value.length + 32 ≤ data.length

mutual

def ParamType.isDynamic : ParamType → Bool
  | .address | .uint _ | .bool => false
  | .bytes | .string | .array _ => true
  | .tuple fields => anyDynamicType fields

def anyDynamicType : List ParamType → Bool
  | [] => false
  | field :: rest => field.isDynamic || anyDynamicType rest

end

/-- The word at an offset. -/
def wordAt (data : List UInt8) (offset : Nat) : Option Nat :=
  if offset + 32 ≤ data.length then
    some (((data.drop offset).take 32).foldl (fun value byte => value * 256 + byte.toNat) 0)
  else none

/-- The word at an offset, where it stands for a position or a length. -/
def sizeAt (data : List UInt8) (offset : Nat) : Option Nat :=
  (wordAt data offset).filter fun size => size < 2 ^ 32

/-- A byte string behind its length word, whose position stands at the offset. -/
def bytesAt (data : List UInt8) (offset : Nat) : Option (List UInt8) := do
  let tail ← sizeAt data offset
  let length ← sizeAt data tail
  if tail + 32 + length ≤ data.length then some ((data.drop (tail + 32)).take length) else none

/-- As many values as asked for, one head behind the other. -/
def elementsAt (decodeHead : Nat → Option (Token × Nat)) : Nat → Nat → Option (List Token)
  | 0, _ => some []
  | count + 1, offset => do
    let (value, behind) ← decodeHead offset
    let values ← elementsAt decodeHead count behind
    some (value :: values)

mutual

/-- One value whose head stands at the offset, and the offset behind its head. -/
def decodeParam : ParamType → List UInt8 → Nat → Option (Token × Nat)
  | .address, data, offset => do
    let word ← wordAt data offset
    some (.address (BitVec.ofNat 160 word), offset + 32)
  | .uint _, data, offset => do
    let word ← wordAt data offset
    some (.uint word, offset + 32)
  | .bool, data, offset => do
    let word ← wordAt data offset
    if word ≤ 1 then some (.bool (word == 1), offset + 32) else none
  | .bytes, data, offset => do
    let value ← bytesAt data offset
    some (.bytes value, offset + 32)
  | .string, data, offset => do
    let value ← bytesAt data offset
    some (.string value, offset + 32)
  | .array element, data, offset => do
    let tail ← sizeAt data offset
    let length ← sizeAt data tail
    let values ← elementsAt (decodeParam element (data.drop (tail + 32))) length 0
    some (.array values, offset + 32)
  | .tuple fields, data, offset =>
    if anyDynamicType fields then do
      let tail ← sizeAt data offset
      let (values, _) ← decodeFields fields (data.drop tail) 0
      some (.tuple values, offset + 32)
    else do
      let (values, behind) ← decodeFields fields data offset
      some (.tuple values, behind)

def decodeFields : List ParamType → List UInt8 → Nat → Option (List Token × Nat)
  | [], _, offset => some ([], offset)
  | field :: rest, data, offset => do
    let (value, behind) ← decodeParam field data offset
    let (values, last) ← decodeFields rest data behind
    some (value :: values, last)

end

theorem length_of_bytesAt {data value : List UInt8} {offset : Nat} (found : bytesAt data offset = some value) :
    value.length + 32 ≤ data.length := by
  obtain ⟨tail, _, rest⟩ := Option.bind_eq_some_iff.mp found
  obtain ⟨length, _, taken⟩ := Option.bind_eq_some_iff.mp rest
  split at taken
  · rename_i inside
    cases Option.some.inj taken
    rw [List.length_take, List.length_drop]
    omega
  · exact absurd taken (by simp)

theorem elementsAt_forall {decodeHead : Nat → Option (Token × Nat)} (holds : Token → Prop)
    (heads : ∀ offset result, decodeHead offset = some result → holds result.1) {count offset : Nat}
    {values : List Token} (decoded : elementsAt decodeHead count offset = some values) : ∀ value ∈ values, holds value := by
  induction count generalizing offset values with
  | zero =>
    cases Option.some.inj decoded
    simp
  | succ count ih =>
    obtain ⟨⟨value, behind⟩, head, rest⟩ := Option.bind_eq_some_iff.mp decoded
    obtain ⟨later, tail, same⟩ := Option.bind_eq_some_iff.mp rest
    cases Option.some.inj same
    intro other member
    rcases List.mem_cons.mp member with rfl | inside
    · exact heads offset _ head
    · exact ih tail other inside

mutual

theorem decodeParam_carries (type : ParamType) (data : List UInt8) (offset : Nat) (result : Token × Nat)
    (value : List UInt8) (decoded : decodeParam type data offset = some result) (carried : result.1.Carries value) :
    value.length + 32 ≤ data.length := by
  cases type with
  | address =>
    obtain ⟨word, _, same⟩ := Option.bind_eq_some_iff.mp decoded
    cases Option.some.inj same
    cases carried
  | uint bits =>
    obtain ⟨word, _, same⟩ := Option.bind_eq_some_iff.mp decoded
    cases Option.some.inj same
    cases carried
  | bool =>
    obtain ⟨word, _, rest⟩ := Option.bind_eq_some_iff.mp decoded
    split at rest
    · cases Option.some.inj rest
      cases carried
    · exact absurd rest (by simp)
  | bytes =>
    obtain ⟨bytes, found, same⟩ := Option.bind_eq_some_iff.mp decoded
    cases Option.some.inj same
    cases carried
    exact length_of_bytesAt found
  | string =>
    obtain ⟨bytes, _, same⟩ := Option.bind_eq_some_iff.mp decoded
    cases Option.some.inj same
    cases carried
  | array element =>
    obtain ⟨tail, _, decoded⟩ := Option.bind_eq_some_iff.mp decoded
    obtain ⟨length, _, decoded⟩ := Option.bind_eq_some_iff.mp decoded
    obtain ⟨values, elements, same⟩ := Option.bind_eq_some_iff.mp decoded
    cases Option.some.inj same
    cases carried with
    | array member carried =>
      have bound := elementsAt_forall (fun token => ∀ value, token.Carries value →
          value.length + 32 ≤ (data.drop (tail + 32)).length)
        (fun offset result head value carried => decodeParam_carries element _ offset result value head carried)
        elements _ member value carried
      rw [List.length_drop] at bound
      omega
  | tuple fields =>
    simp only [decodeParam] at decoded
    split at decoded
    · obtain ⟨tail, _, decoded⟩ := Option.bind_eq_some_iff.mp decoded
      obtain ⟨⟨values, behind⟩, inner, same⟩ := Option.bind_eq_some_iff.mp decoded
      cases Option.some.inj same
      cases carried with
      | tuple member carried =>
        have bound := decodeFields_carries fields _ 0 _ value inner _ member carried
        rw [List.length_drop] at bound
        omega
    · obtain ⟨⟨values, behind⟩, inner, same⟩ := Option.bind_eq_some_iff.mp decoded
      cases Option.some.inj same
      cases carried with
      | tuple member carried => exact decodeFields_carries fields _ offset _ value inner _ member carried

theorem decodeFields_carries (fields : List ParamType) (data : List UInt8) (offset : Nat) (result : List Token × Nat)
    (value : List UInt8) (decoded : decodeFields fields data offset = some result) (token : Token)
    (member : token ∈ result.1) (carried : token.Carries value) : value.length + 32 ≤ data.length := by
  cases fields with
  | nil =>
    cases Option.some.inj decoded
    exact absurd member (by simp)
  | cons field rest =>
    obtain ⟨head, first, decoded⟩ := Option.bind_eq_some_iff.mp decoded
    obtain ⟨⟨values, last⟩, later, same⟩ := Option.bind_eq_some_iff.mp decoded
    cases Option.some.inj same
    rcases List.mem_cons.mp member with rfl | inside
    · exact decodeParam_carries field data offset head value first carried
    · exact decodeFields_carries rest data head.2 _ value later token inside carried

end

mutual

theorem decodeParam_admits (type : ParamType) (data : List UInt8) (offset : Nat) (result : Token × Nat)
    (decoded : decodeParam type data offset = some result) : type.Admits result.1 := by
  cases type with
  | address =>
    obtain ⟨word, _, same⟩ := Option.bind_eq_some_iff.mp decoded
    cases Option.some.inj same
    exact .address
  | uint bits =>
    obtain ⟨word, _, same⟩ := Option.bind_eq_some_iff.mp decoded
    cases Option.some.inj same
    exact .uint
  | bool =>
    obtain ⟨word, _, rest⟩ := Option.bind_eq_some_iff.mp decoded
    split at rest
    · cases Option.some.inj rest
      exact .bool
    · exact absurd rest (by simp)
  | bytes =>
    obtain ⟨bytes, _, same⟩ := Option.bind_eq_some_iff.mp decoded
    cases Option.some.inj same
    exact .bytes
  | string =>
    obtain ⟨bytes, _, same⟩ := Option.bind_eq_some_iff.mp decoded
    cases Option.some.inj same
    exact .string
  | array element =>
    obtain ⟨tail, _, decoded⟩ := Option.bind_eq_some_iff.mp decoded
    obtain ⟨length, _, decoded⟩ := Option.bind_eq_some_iff.mp decoded
    obtain ⟨values, elements, same⟩ := Option.bind_eq_some_iff.mp decoded
    cases Option.some.inj same
    exact .array (elementsAt_forall element.Admits
      (fun offset result head => decodeParam_admits element _ offset result head) elements)
  | tuple fields =>
    simp only [decodeParam] at decoded
    split at decoded
    · obtain ⟨tail, _, decoded⟩ := Option.bind_eq_some_iff.mp decoded
      obtain ⟨⟨values, behind⟩, inner, same⟩ := Option.bind_eq_some_iff.mp decoded
      cases Option.some.inj same
      exact .tuple (decodeFields_admits fields _ 0 _ inner)
    · obtain ⟨⟨values, behind⟩, inner, same⟩ := Option.bind_eq_some_iff.mp decoded
      cases Option.some.inj same
      exact .tuple (decodeFields_admits fields _ offset _ inner)

theorem decodeFields_admits (fields : List ParamType) (data : List UInt8) (offset : Nat) (result : List Token × Nat)
    (decoded : decodeFields fields data offset = some result) : List.Forall₂ ParamType.Admits fields result.1 := by
  cases fields with
  | nil =>
    cases Option.some.inj decoded
    exact .nil
  | cons field rest =>
    obtain ⟨head, first, decoded⟩ := Option.bind_eq_some_iff.mp decoded
    obtain ⟨⟨values, last⟩, later, same⟩ := Option.bind_eq_some_iff.mp decoded
    cases Option.some.inj same
    exact .cons (decodeParam_admits field data offset head first) (decodeFields_admits rest data head.2 _ later)

end

/-- A decoder that reads heads and tails where the encoding puts them. -/
def headTailDecoder : Decoder where
  decode types data := (decodeFields types data 0).map Prod.fst
  typed := by
    intro types data tokens decoded
    obtain ⟨result, fields, rfl⟩ := Option.map_eq_some_iff.mp decoded
    exact decodeFields_admits types data 0 result fields
  carries_length := by
    intro types data tokens token value decoded member carried
    obtain ⟨result, fields, rfl⟩ := Option.map_eq_some_iff.mp decoded
    exact decodeFields_carries types data 0 result value fields token member carried

end Abi
