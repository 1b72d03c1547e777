import Mathlib.Tactic.Ring
import ArbitrageRuntime.Lib.Abi
import ArbitrageRuntime.Lib.Attempt
import ArbitrageRuntime.Lib.Collect
import ArbitrageRuntime.Base

namespace ArbitrageRuntime

/-- How a piece of Rust code can stop its worker: a narrowing conversion of a value that does not fit,
an index outside a slice, or recursion without end. -/
inductive Panic
  | narrowing (value : Nat)
  | outOfRange (index length : Nat)
  | endless
  deriving DecidableEq

/-- A function of the decoder: `Some`, `None` or a panic. -/
abbrev Decoding (α : Type) := Attempt Panic α

/-- `bytes[i]` -/
def byteAt (bytes : Bytes) (i : Nat) : Except Panic UInt8 :=
  match bytes[i]? with
  | some byte => .ok byte
  | none => .error (.outOfRange i bytes.length)

/-- `&bytes[start..]` -/
def sliceFrom (bytes : Bytes) (start : Nat) : Except Panic Bytes :=
  if start ≤ bytes.length then .ok (bytes.drop start) else .error (.outOfRange start bytes.length)

/-- `&bytes[start..start + length]` -/
def slice (bytes : Bytes) (start length : Nat) : Except Panic Bytes :=
  if start + length ≤ bytes.length then .ok ((bytes.drop start).take length)
  else .error (.outOfRange (start + length) bytes.length)

/-- `U256::from_big_endian` -/
def natOfBytes (bytes : Bytes) : Nat := bytes.foldl (fun value byte => value * 256 + byte.toNat) 0

/-- `Address::from_slice` takes slices of twenty bytes only. -/
def addressFromSlice (bytes : Bytes) : Except Panic Address :=
  if bytes.length = 20 then .ok (BitVec.ofNat 160 (natOfBytes bytes)) else .error (.outOfRange 20 bytes.length)

def addressBytes (address : Address) : Bytes := Abi.bigEndian 20 address.toNat

def selectorAt (bytes : Bytes) (offset : Nat) : Except Panic Selector := do
  let b0 ← byteAt bytes offset
  let b1 ← byteAt bytes (offset + 1)
  let b2 ← byteAt bytes (offset + 2)
  let b3 ← byteAt bytes (offset + 3)
  return { b0 := b0, b1 := b1, b2 := b2, b3 := b3 }

theorem byteAt_ok {bytes : Bytes} {i : Nat} (inside : i < bytes.length) : ∃ byte, byteAt bytes i = .ok byte := by
  unfold byteAt
  rw [List.getElem?_eq_getElem inside]
  exact ⟨_, rfl⟩

theorem sliceFrom_ok {bytes : Bytes} {start : Nat} (inside : start ≤ bytes.length) :
    sliceFrom bytes start = .ok (bytes.drop start) := if_pos inside

theorem natOfBytes_cons (byte : UInt8) (bytes : Bytes) :
    natOfBytes (byte :: bytes) = byte.toNat * 256 ^ bytes.length + natOfBytes bytes := by
  have shift : ∀ (bytes : Bytes) (start : Nat), bytes.foldl (fun value byte => value * 256 + byte.toNat) start =
      start * 256 ^ bytes.length + natOfBytes bytes := by
    intro bytes
    induction bytes with
    | nil =>
      intro start
      simp [natOfBytes]
    | cons byte bytes ih =>
      intro start
      rw [natOfBytes, List.foldl_cons, List.foldl_cons, ih, ih, List.length_cons]
      ring
  rw [natOfBytes, List.foldl_cons, shift]
  simp

theorem natOfBytes_lt (bytes : Bytes) : natOfBytes bytes < 256 ^ bytes.length := by
  induction bytes with
  | nil => exact Nat.one_pos
  | cons byte bytes ih =>
    have high : byte.toNat + 1 ≤ 256 := byte.toNat_lt
    calc natOfBytes (byte :: bytes) = byte.toNat * 256 ^ bytes.length + natOfBytes bytes := natOfBytes_cons byte bytes
      _ < byte.toNat * 256 ^ bytes.length + 256 ^ bytes.length := Nat.add_lt_add_left ih _
      _ = (byte.toNat + 1) * 256 ^ bytes.length := by ring
      _ ≤ 256 * 256 ^ bytes.length := Nat.mul_le_mul_right _ high
      _ = 256 ^ (byte :: bytes).length := by rw [List.length_cons, Nat.pow_succ, Nat.mul_comm]

theorem natOfBytes_bigEndian (width n : Nat) : natOfBytes (Abi.bigEndian width n) = n % 256 ^ width := by
  induction width generalizing n with
  | zero =>
    rw [Nat.pow_zero, Nat.mod_one]
    rfl
  | succ width ih =>
    rw [Abi.bigEndian, natOfBytes_cons, ih, Abi.bigEndian_length, UInt8.toNat_ofNat', Nat.mod_mod]
    have power : 256 ^ (width + 1) = 256 ^ width * 256 := pow_succ 256 width
    rw [power, Nat.mod_mul]
    ring

theorem addressFromSlice_addressBytes (address : Address) : addressFromSlice (addressBytes address) = .ok address := by
  have length := Abi.bigEndian_length 20 address.toNat
  rw [addressFromSlice, addressBytes, if_pos length, natOfBytes_bigEndian]
  have small : address.toNat < 256 ^ 20 := address.isLt
  rw [Nat.mod_eq_of_lt small, BitVec.ofNat_toNat, BitVec.setWidth_eq]

structure ParsedV3Path where
  tokenIn : Address
  edgeTokenOut : Address
  firstFeeTier : Nat
  hops : Nat
  deriving DecidableEq

structure V3PathSegment where
  tokenIn : Address
  tokenOut : Address
  feeTier : Nat
  deriving DecidableEq

/-- `u32::from_be_bytes([0, path[i], path[i + 1], path[i + 2]])` -/
def feeTierAt (path : Bytes) (i : Nat) : Except Panic Nat := do
  let high ← byteAt path i
  let middle ← byteAt path (i + 1)
  let low ← byteAt path (i + 2)
  return natOfBytes [0, high, middle, low]

def addressAt (path : Bytes) (i : Nat) : Except Panic Address := slice path i 20 >>= addressFromSlice

def parseV3Path (path : Bytes) : Decoding ParsedV3Path := do
  .require (43 ≤ path.length)
  let tokenIn ← .ofExcept (addressAt path 0)
  let edgeTokenOut ← .ofExcept (addressAt path 23)
  let firstFeeTier ← .ofExcept (feeTierAt path 20)
  return { tokenIn := tokenIn, edgeTokenOut := edgeTokenOut, firstFeeTier := firstFeeTier, hops := (path.length - 20) / 23 }

/-- The segments of the next `count` hops, one every 23 bytes from `offset` on. -/
def segmentsFrom (path : Bytes) : Nat → Nat → Except Panic (List V3PathSegment)
  | 0, _ => .ok []
  | count + 1, offset =>
    if path.length < offset + 43 then .ok []
    else do
      let tokenIn ← addressAt path offset
      let tokenOut ← addressAt path (offset + 23)
      let feeTier ← feeTierAt path (offset + 20)
      let rest ← segmentsFrom path count (offset + 23)
      return { tokenIn := tokenIn, tokenOut := tokenOut, feeTier := feeTier } :: rest

def parseV3PathSegments (path : Bytes) : Except Panic (List V3PathSegment) :=
  if path.length < 43 then .ok [] else segmentsFrom path ((path.length - 20) / 23) 0

def parseV3ExactOutPath (path : Bytes) : Decoding ParsedV3Path := do
  let forward ← parseV3Path path
  .require (forward.hops = 1)
  return { tokenIn := forward.edgeTokenOut, edgeTokenOut := forward.tokenIn, firstFeeTier := forward.firstFeeTier,
           hops := forward.hops }

def encodeV3Path (tokenIn : Address) (feeTier : Nat) (tokenOut : Address) : Bytes :=
  addressBytes tokenIn ++ (Abi.bigEndian 4 feeTier).drop 1 ++ addressBytes tokenOut

theorem addressAt_ok {path : Bytes} {i : Nat} (inside : i + 20 ≤ path.length) :
    ∃ address, addressAt path i = .ok address := by
  have length : ((path.drop i).take 20).length = 20 := by
    rw [List.length_take, List.length_drop]
    omega
  refine ⟨BitVec.ofNat 160 (natOfBytes ((path.drop i).take 20)), ?_⟩
  rw [addressAt, slice, if_pos inside]
  exact if_pos length

theorem feeTierAt_ok {path : Bytes} {i : Nat} (inside : i + 3 ≤ path.length) :
    ∃ feeTier, feeTierAt path i = .ok feeTier := by
  obtain ⟨high, at0⟩ := byteAt_ok (show i < path.length by omega)
  obtain ⟨middle, at1⟩ := byteAt_ok (show i + 1 < path.length by omega)
  obtain ⟨low, at2⟩ := byteAt_ok (show i + 2 < path.length by omega)
  exact ⟨natOfBytes [0, high, middle, low], by simp only [feeTierAt, at0, at1, at2]; rfl⟩

theorem feeTierAt_lt {path : Bytes} {i feeTier : Nat} (read : feeTierAt path i = .ok feeTier) : feeTier < 2 ^ 24 := by
  obtain ⟨high, _, read⟩ := Collect.bind_eq_ok_iff.mp read
  obtain ⟨middle, _, read⟩ := Collect.bind_eq_ok_iff.mp read
  obtain ⟨low, _, read⟩ := Collect.bind_eq_ok_iff.mp read
  cases read
  have bound : natOfBytes [high, middle, low] < 256 ^ 3 := natOfBytes_lt [high, middle, low]
  rw [natOfBytes_cons, UInt8.toNat_zero, Nat.zero_mul, Nat.zero_add]
  omega

/-- Where 43 bytes are left, a whole segment can be read. -/
theorem segmentAt_ok {path : Bytes} {offset : Nat} (inside : offset + 43 ≤ path.length) :
    ∃ segment : V3PathSegment, addressAt path offset = .ok segment.tokenIn ∧
      addressAt path (offset + 23) = .ok segment.tokenOut ∧ feeTierAt path (offset + 20) = .ok segment.feeTier := by
  obtain ⟨tokenIn, atIn⟩ := addressAt_ok (show offset + 20 ≤ path.length by omega)
  obtain ⟨tokenOut, atOut⟩ := addressAt_ok (show offset + 23 + 20 ≤ path.length by omega)
  obtain ⟨feeTier, atFee⟩ := feeTierAt_ok (show offset + 20 + 3 ≤ path.length by omega)
  exact ⟨⟨tokenIn, tokenOut, feeTier⟩, atIn, atOut, atFee⟩

/-- A path that is long enough is parsed as its first segment. -/
theorem parseV3Path_gives {path : Bytes} {tokenIn tokenOut : Address} {feeTier : Nat} (long : 43 ≤ path.length)
    (atIn : addressAt path 0 = .ok tokenIn) (atOut : addressAt path 23 = .ok tokenOut)
    (atFee : feeTierAt path 20 = .ok feeTier) :
    parseV3Path path = .gives { tokenIn := tokenIn, edgeTokenOut := tokenOut, firstFeeTier := feeTier,
                                hops := (path.length - 20) / 23 } := by
  rw [parseV3Path, Attempt.require_pos long, atIn, atOut, atFee]
  rfl

/-- The length check covers every slice that is taken after it. -/
theorem parseV3Path_not_fails (path : Bytes) : ¬ (parseV3Path path).Fails := by
  by_cases long : 43 ≤ path.length
  · obtain ⟨segment, atIn, atOut, atFee⟩ := segmentAt_ok (show 0 + 43 ≤ path.length by omega)
    rw [parseV3Path_gives long atIn atOut atFee]
    exact Attempt.not_fails_gives _
  · simp [parseV3Path, long]

/-- One step of the segment loop. -/
theorem segmentsFrom_succ {path : Bytes} {count offset : Nat} {rest : List V3PathSegment}
    (inside : offset + 43 ≤ path.length) (later : segmentsFrom path count (offset + 23) = .ok rest) :
    ∃ segment, segmentsFrom path (count + 1) offset = .ok (segment :: rest) ∧
      addressAt path offset = .ok segment.tokenIn ∧ addressAt path (offset + 23) = .ok segment.tokenOut ∧
      feeTierAt path (offset + 20) = .ok segment.feeTier := by
  obtain ⟨segment, atIn, atOut, atFee⟩ := segmentAt_ok inside
  refine ⟨segment, ?_, atIn, atOut, atFee⟩
  rw [segmentsFrom, if_neg (by omega), atIn, atOut, atFee, later]
  rfl

theorem segmentsFrom_ok (path : Bytes) (count offset : Nat) : ∃ segments, segmentsFrom path count offset = .ok segments := by
  induction count generalizing offset with
  | zero => exact ⟨[], rfl⟩
  | succ count ih =>
    by_cases inside : offset + 43 ≤ path.length
    · obtain ⟨rest, later⟩ := ih (offset + 23)
      obtain ⟨segment, read, _⟩ := segmentsFrom_succ inside later
      exact ⟨segment :: rest, read⟩
    · exact ⟨[], if_pos (by omega)⟩

theorem segmentsFrom_length {path : Bytes} {count offset : Nat} {segments : List V3PathSegment}
    (room : offset + 23 * count + 20 ≤ path.length) (read : segmentsFrom path count offset = .ok segments) :
    segments.length = count := by
  induction count generalizing offset segments with
  | zero =>
    cases read
    rfl
  | succ count ih =>
    obtain ⟨rest, later⟩ := segmentsFrom_ok path count (offset + 23)
    obtain ⟨segment, first, _⟩ := segmentsFrom_succ (by omega) later
    cases read.symm.trans first
    rw [List.length_cons, ih (by omega) later]

theorem segmentsFrom_feeTier_lt {path : Bytes} {count offset : Nat} {segments : List V3PathSegment}
    (read : segmentsFrom path count offset = .ok segments) : ∀ segment ∈ segments, segment.feeTier < 2 ^ 24 := by
  induction count generalizing offset segments with
  | zero =>
    cases read
    simp
  | succ count ih =>
    by_cases inside : offset + 43 ≤ path.length
    · obtain ⟨rest, later⟩ := segmentsFrom_ok path count (offset + 23)
      obtain ⟨segment, first, _, _, atFee⟩ := segmentsFrom_succ inside later
      cases read.symm.trans first
      exact List.forall_mem_cons.mpr ⟨feeTierAt_lt atFee, ih later⟩
    · rw [segmentsFrom, if_pos (by omega)] at read
      cases read
      simp

theorem parseV3PathSegments_ok (path : Bytes) : ∃ segments, parseV3PathSegments path = .ok segments := by
  unfold parseV3PathSegments
  split
  · exact ⟨[], rfl⟩
  · exact segmentsFrom_ok path _ _

/-- A token is read back where it was written. -/
theorem addressAt_append (front : Bytes) (token : Address) (tail : Bytes) :
    addressAt (front ++ (addressBytes token ++ tail)) front.length = .ok token := by
  have length : (addressBytes token).length = 20 := Abi.bigEndian_length 20 _
  have inside : front.length + 20 ≤ (front ++ (addressBytes token ++ tail)).length := by
    rw [List.length_append, List.length_append, length]
    omega
  rw [addressAt, slice, if_pos inside, List.drop_left, ← length, List.take_left]
  exact addressFromSlice_addressBytes token

/-- A fee is read back where its low three bytes were written. -/
theorem feeTierAt_append (front : Bytes) (feeTier : Nat) (tail : Bytes) :
    feeTierAt (front ++ ((Abi.bigEndian 4 feeTier).drop 1 ++ tail)) front.length = .ok (feeTier % 2 ^ 24) := by
  obtain ⟨high, middle, low, fee⟩ : ∃ high middle low, Abi.bigEndian 3 (feeTier % 256 ^ 3) = [high, middle, low] :=
    ⟨_, _, _, rfl⟩
  have written : (Abi.bigEndian 4 feeTier).drop 1 = [high, middle, low] := fee
  have get : ∀ i, (front ++ ([high, middle, low] ++ tail))[front.length + i]? = ([high, middle, low] ++ tail)[i]? := by
    intro i
    rw [List.getElem?_append_right (Nat.le_add_right _ _), Nat.add_sub_cancel_left]
  have value : natOfBytes [0, high, middle, low] = feeTier % 2 ^ 24 := by
    rw [natOfBytes_cons, ← fee, natOfBytes_bigEndian, Nat.mod_mod]
    simp
  have first : (front ++ ([high, middle, low] ++ tail))[front.length]? = some high := get 0
  rw [written]
  simp only [feeTierAt, byteAt, first, get 1, get 2]
  exact congrArg Except.ok value

/-- The encoder keeps the low 24 bits of a fee. -/
theorem parseV3Path_encodeV3Path (tokenIn tokenOut : Address) (feeTier : Nat) :
    parseV3Path (encodeV3Path tokenIn feeTier tokenOut) =
      .gives { tokenIn := tokenIn, edgeTokenOut := tokenOut, firstFeeTier := feeTier % 2 ^ 24, hops := 1 } := by
  have lengthIn : (addressBytes tokenIn).length = 20 := Abi.bigEndian_length 20 _
  have lengthOut : (addressBytes tokenOut).length = 20 := Abi.bigEndian_length 20 _
  have lengthFee : ((Abi.bigEndian 4 feeTier).drop 1).length = 3 := Abi.bigEndian_length 3 _
  have lengthFront : (addressBytes tokenIn ++ (Abi.bigEndian 4 feeTier).drop 1).length = 23 := by
    rw [List.length_append, lengthIn, lengthFee]
  have length : (encodeV3Path tokenIn feeTier tokenOut).length = 43 := by
    rw [encodeV3Path, List.length_append, lengthFront, lengthOut]
  have at0 : addressAt (encodeV3Path tokenIn feeTier tokenOut) 0 = .ok tokenIn := by
    rw [encodeV3Path, List.append_assoc]
    exact addressAt_append [] tokenIn _
  have at23 : addressAt (encodeV3Path tokenIn feeTier tokenOut) 23 = .ok tokenOut := by
    have read := addressAt_append (addressBytes tokenIn ++ (Abi.bigEndian 4 feeTier).drop 1) tokenOut []
    rw [lengthFront, List.append_nil] at read
    exact read
  have at20 : feeTierAt (encodeV3Path tokenIn feeTier tokenOut) 20 = .ok (feeTier % 2 ^ 24) := by
    have read := feeTierAt_append (addressBytes tokenIn) feeTier (addressBytes tokenOut)
    rw [lengthIn, ← List.append_assoc] at read
    exact read
  have parsed := parseV3Path_gives (Nat.le_of_eq length.symm) at0 at23 at20
  rw [length] at parsed
  exact parsed

end ArbitrageRuntime
