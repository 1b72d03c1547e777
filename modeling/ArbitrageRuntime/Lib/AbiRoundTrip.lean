import ArbitrageRuntime.Lib.AbiDecoder
import Mathlib.Data.List.Forall2
import Mathlib.Tactic.Ring

namespace Abi

/-- The value of big-endian bytes. -/
def valueOf (bytes : List UInt8) : Nat := bytes.foldl (fun value byte => value * 256 + byte.toNat) 0

theorem valueOf_bigEndian {width n : Nat} (fits : n < 256 ^ width) : valueOf (bigEndian width n) = n := by
  have from_start : ∀ start, (bigEndian width n).foldl (fun value byte => value * 256 + byte.toNat) start =
      start * 256 ^ width + n := by
    induction width generalizing n with
    | zero =>
      intro start
      have zero : n = 0 := by simpa using fits
      simp [bigEndian, zero]
    | succ width ih =>
      intro start
      have high : n / 256 ^ width < 256 := by
        rw [Nat.div_lt_iff_lt_mul (Nat.pow_pos (by decide))]
        rw [Nat.pow_succ, Nat.mul_comm] at fits
        exact fits
      have low : n % 256 ^ width < 256 ^ width := Nat.mod_lt _ (Nat.pow_pos (by decide))
      have byte : (UInt8.ofNat (n / 256 ^ width)).toNat = n / 256 ^ width := UInt8.toNat_ofNat_of_lt' high
      have split := Nat.div_add_mod n (256 ^ width)
      rw [bigEndian, List.foldl_cons, ih low, byte]
      calc (start * 256 + n / 256 ^ width) * 256 ^ width + n % 256 ^ width
          = start * (256 ^ width * 256) + (256 ^ width * (n / 256 ^ width) + n % 256 ^ width) := by ring
        _ = start * 256 ^ (width + 1) + n := by rw [split, Nat.pow_succ]
  have whole := from_start 0
  rw [Nat.zero_mul, Nat.zero_add] at whole
  exact whole

theorem word_length (n : Nat) : (word n).length = 32 := bigEndian_length 32 _

/-- A word at an offset is read back. -/
theorem wordAt_word {data : List UInt8} {offset n : Nat} (starts : word n <+: data.drop offset) (fits : n < 2 ^ 256) :
    wordAt data offset = some n := by
  obtain ⟨rest, split⟩ := starts
  have long := congrArg List.length split
  rw [List.length_append, word_length, List.length_drop] at long
  have taken : (data.drop offset).take 32 = word n := by
    rw [← split, List.take_append_of_le_length (by rw [word_length]), List.take_of_length_le (by rw [word_length])]
  have small : n % 2 ^ 256 < 256 ^ 32 := by
    rw [Nat.mod_eq_of_lt fits]
    exact fits.trans_eq (by norm_num)
  have value : valueOf (word n) = n := (valueOf_bigEndian small).trans (Nat.mod_eq_of_lt fits)
  rw [wordAt, if_pos (by omega), taken]
  exact congrArg some value

theorem sizeAt_word {data : List UInt8} {offset n : Nat} (starts : word n <+: data.drop offset) (fits : n < 2 ^ 32) :
    sizeAt data offset = some n := by
  have narrow : (2 : Nat) ^ 32 ≤ 2 ^ 256 := Nat.pow_le_pow_right (by decide) (by decide)
  rw [sizeAt, wordAt_word starts (fits.trans_le narrow), Option.filter_some, if_pos (decide_eq_true fits)]

/-- What a part takes in the head. -/
def headSize (part : Bool × List UInt8) : Nat := if part.1 then 32 else part.2.length

/-- The tail of a sequence. -/
def tails : List (Bool × List UInt8) → List UInt8
  | [] => []
  | part :: rest => (if part.1 then part.2 else []) ++ tails rest

/-- The head of a sequence whose tail begins at a position. -/
def headsFrom (position : Nat) : List (Bool × List UInt8) → List UInt8
  | [] => []
  | part :: rest =>
    if part.1 then word position ++ headsFrom (position + part.2.length) rest
    else part.2 ++ headsFrom position rest

theorem layout_foldl (headLength : Nat) (parts : List (Bool × List UInt8)) (head tail : List UInt8) :
    parts.foldl
      (fun acc part =>
        if part.1 then (acc.1 ++ word (headLength + acc.2.length), acc.2 ++ part.2)
        else (acc.1 ++ part.2, acc.2)) (head, tail) =
      (head ++ headsFrom (headLength + tail.length) parts, tail ++ tails parts) := by
  induction parts generalizing head tail with
  | nil => simp [headsFrom, tails]
  | cons part rest ih =>
    rw [List.foldl_cons]
    by_cases dynamic : part.1 = true
    · rw [if_pos dynamic, ih, headsFrom, if_pos dynamic, tails, if_pos dynamic, List.length_append]
      simp only [List.append_assoc, Nat.add_assoc]
    · rw [if_neg dynamic, ih, headsFrom, if_neg dynamic, tails, if_neg dynamic]
      simp only [List.append_assoc, List.nil_append]

theorem layout_eq (parts : List (Bool × List UInt8)) :
    layout parts = headsFrom (parts.map headSize).sum parts ++ tails parts := by
  have folded := layout_foldl (parts.map headSize).sum parts [] []
  rw [List.nil_append, List.nil_append, List.length_nil, Nat.add_zero] at folded
  exact congrArg (fun acc : List UInt8 × List UInt8 => acc.1 ++ acc.2) folded

theorem headsFrom_length (position : Nat) (parts : List (Bool × List UInt8)) :
    (headsFrom position parts).length = (parts.map headSize).sum := by
  induction parts generalizing position with
  | nil => rfl
  | cons part rest ih =>
    rw [headsFrom, List.map_cons, List.sum_cons, headSize]
    by_cases dynamic : part.1 = true
    · rw [if_pos dynamic, if_pos dynamic, List.length_append, word_length, ih]
    · rw [if_neg dynamic, if_neg dynamic, List.length_append, ih]

theorem length_layout (parts : List (Bool × List UInt8)) :
    (layout parts).length = (parts.map headSize).sum + (tails parts).length := by
  rw [layout_eq, List.length_append, headsFrom_length]

/-- A laid out sequence is at least as long as each of its bodies. -/
theorem length_le_layout {parts : List (Bool × List UInt8)} {part : Bool × List UInt8} (member : part ∈ parts) :
    part.2.length ≤ (layout parts).length := by
  have bound : part.2.length ≤ (parts.map headSize).sum + (tails parts).length := by
    induction parts with
    | nil => exact absurd member List.not_mem_nil
    | cons first rest ih =>
      rw [List.map_cons, List.sum_cons, tails, List.length_append]
      rcases List.mem_cons.mp member with rfl | later
      · rw [headSize]
        by_cases dynamic : part.1 = true
        · rw [if_pos dynamic, if_pos dynamic]
          omega
        · rw [if_neg dynamic, if_neg dynamic]
          omega
      · have inside := ih later
        omega
  rw [length_layout]
  exact bound

/-- Every part takes room in the head if it takes any. -/
theorem count_le_layout {parts : List (Bool × List UInt8)} (room : ∀ part ∈ parts, 0 < headSize part) :
    parts.length ≤ (layout parts).length := by
  have bound : parts.length ≤ (parts.map headSize).sum := by
    induction parts with
    | nil => exact le_rfl
    | cons first rest ih =>
      have own := room first List.mem_cons_self
      have others := ih fun part later => room part (List.mem_cons_of_mem _ later)
      rw [List.length_cons, List.map_cons, List.sum_cons]
      omega
  rw [length_layout]
  omega

/-- A part at an offset: its body, or the position of its body where it is dynamic. -/
def Placed (data : List UInt8) (offset : Nat) (part : Bool × List UInt8) : Prop :=
  if part.1 then ∃ tail, sizeAt data offset = some tail ∧ part.2 <+: data.drop tail else part.2 <+: data.drop offset

/-- Parts one behind the other. -/
def AllPlaced (data : List UInt8) : Nat → List (Bool × List UInt8) → Prop
  | _, [] => True
  | offset, part :: rest => Placed data offset part ∧ AllPlaced data (offset + headSize part) rest

theorem drop_prefix_of_append {data front back : List UInt8} {offset : Nat} (starts : front ++ back <+: data.drop offset) :
    front <+: data.drop offset ∧ back <+: data.drop (offset + front.length) := by
  obtain ⟨rest, split⟩ := starts
  rw [List.append_assoc] at split
  refine ⟨⟨back ++ rest, split⟩, ⟨rest, ?_⟩⟩
  rw [← List.drop_drop, ← split, List.drop_left]

/-- Heads and tails that stand where they belong place every part. -/
theorem allPlaced_of_starts {data : List UInt8} (small : data.length < 2 ^ 32) {parts : List (Bool × List UInt8)}
    {offset position : Nat} (heads : headsFrom position parts <+: data.drop offset)
    (tail : tails parts <+: data.drop position) (inside : position ≤ data.length) : AllPlaced data offset parts := by
  induction parts generalizing offset position with
  | nil => trivial
  | cons part rest ih =>
    rw [headsFrom] at heads
    rw [tails] at tail
    by_cases dynamic : part.1 = true
    · rw [if_pos dynamic] at heads tail
      obtain ⟨first, later⟩ := drop_prefix_of_append heads
      obtain ⟨body, behind⟩ := drop_prefix_of_append tail
      have room := body.length_le
      rw [List.length_drop] at room
      have size := sizeAt_word first (by omega)
      rw [word_length] at later
      have width : headSize part = 32 := if_pos dynamic
      refine ⟨?_, width ▸ ih later behind (by omega)⟩
      rw [Placed, if_pos dynamic]
      exact ⟨position, size, body⟩
    · rw [if_neg dynamic] at heads tail
      obtain ⟨first, later⟩ := drop_prefix_of_append heads
      have width : headSize part = part.2.length := if_neg dynamic
      refine ⟨?_, width ▸ ih later tail inside⟩
      rw [Placed, if_neg dynamic]
      exact first

/-- A laid out sequence at the front of the data places its parts. -/
theorem allPlaced_of_layout {data : List UInt8} (small : data.length < 2 ^ 32) {parts : List (Bool × List UInt8)}
    (starts : layout parts <+: data) : AllPlaced data 0 parts := by
  rw [layout_eq] at starts
  have whole : headsFrom (parts.map headSize).sum parts ++ tails parts <+: data.drop 0 := by simpa using starts
  obtain ⟨heads, tail⟩ := drop_prefix_of_append whole
  rw [headsFrom_length, Nat.zero_add] at tail
  have long := starts.length_le
  rw [List.length_append, headsFrom_length] at long
  exact allPlaced_of_starts small heads tail (by omega)

theorem headsFrom_of_static {parts : List (Bool × List UInt8)} (static : ∀ part ∈ parts, part.1 = false)
    (position position' : Nat) : headsFrom position parts = headsFrom position' parts := by
  induction parts with
  | nil => rfl
  | cons part rest ih =>
    have still : ¬ part.1 = true := by simp [static part List.mem_cons_self]
    rw [headsFrom, headsFrom, if_neg still, if_neg still, ih fun other member => static other (List.mem_cons_of_mem _ member)]

theorem tails_of_static {parts : List (Bool × List UInt8)} (static : ∀ part ∈ parts, part.1 = false) :
    tails parts = [] := by
  induction parts with
  | nil => rfl
  | cons part rest ih =>
    have still : ¬ part.1 = true := by simp [static part List.mem_cons_self]
    rw [tails, if_neg still, ih fun other member => static other (List.mem_cons_of_mem _ member), List.nil_append]

/-- A sequence without dynamic parts may stand at any offset. -/
theorem allPlaced_of_static {data : List UInt8} (small : data.length < 2 ^ 32) {parts : List (Bool × List UInt8)}
    (static : ∀ part ∈ parts, part.1 = false) {offset : Nat} (starts : layout parts <+: data.drop offset) :
    AllPlaced data offset parts ∧ (layout parts).length = (parts.map headSize).sum := by
  have none := tails_of_static static
  rw [layout_eq, none, List.append_nil] at starts ⊢
  refine ⟨allPlaced_of_starts small ?_ (none ▸ List.nil_prefix) le_rfl, headsFrom_length _ _⟩
  rw [headsFrom_of_static static _ (parts.map headSize).sum]
  exact starts

/-- The values of a type that its encoding tells apart: words of 256 bits, and arrays whose length a position of
32 bits can count. -/
inductive ParamType.Takes : ParamType → Token → Prop
  | address {value} : Takes .address (.address value)
  | bytes {value} : Takes .bytes (.bytes value)
  | string {value} : Takes .string (.string value)
  | bool {value} : Takes .bool (.bool value)
  | uint {bits value} : value < 2 ^ 256 → Takes (.uint bits) (.uint value)
  | array {element values} : values.length < 2 ^ 32 → (∀ value ∈ values, Takes element value) →
    Takes (.array element) (.array values)
  | tuple {fields values} : List.Forall₂ Takes fields values → Takes (.tuple fields) (.tuple values)

mutual

theorem isDynamic_eq (type : ParamType) (token : Token) (takes : type.Takes token) :
    token.isDynamic = type.isDynamic := by
  cases takes with
  | tuple fields => exact anyDynamic_eq _ _ fields
  | _ => rfl

theorem anyDynamic_eq (fields : List ParamType) (tokens : List Token) (takes : List.Forall₂ ParamType.Takes fields tokens) :
    anyDynamic tokens = anyDynamicType fields := by
  cases takes with
  | nil => rfl
  | cons first rest => rw [anyDynamic, anyDynamicType, isDynamic_eq _ _ first, anyDynamic_eq _ _ rest]

end

theorem mem_bodies_static {tokens : List Token} (static : anyDynamic tokens = false) :
    ∀ part ∈ bodies tokens, part.1 = false := by
  induction tokens with
  | nil => exact fun part member => absurd member List.not_mem_nil
  | cons token rest ih =>
    rw [anyDynamic, Bool.or_eq_false_iff] at static
    intro part member
    rcases List.mem_cons.mp member with rfl | later
    · exact static.1
    · exact ih static.2 part later

theorem static_word {data : List UInt8} {offset n : Nat} (placed : Placed data offset (false, word n)) :
    word n <+: data.drop offset := placed

/-- A byte string behind its length is read back. -/
theorem bytesAt_placed {data value : List UInt8} (small : data.length < 2 ^ 32) {offset : Nat}
    (placed : Placed data offset (true, word value.length ++ padded value)) : bytesAt data offset = some value := by
  rw [Placed, if_pos rfl] at placed
  obtain ⟨tail, position, starts⟩ := placed
  obtain ⟨first, later⟩ := drop_prefix_of_append starts
  rw [padded] at later
  obtain ⟨body, _⟩ := drop_prefix_of_append later
  rw [word_length] at body
  have room := body.length_le
  rw [List.length_drop] at room
  have size := sizeAt_word first (by omega)
  have firstRoom := first.length_le
  rw [word_length, List.length_drop] at firstRoom
  have taken : (data.drop (tail + 32)).take value.length = value := List.prefix_iff_eq_take.mp body |>.symm
  simp only [bytesAt, position, size, Option.bind_eq_bind, Option.bind_some, taken]
  rw [if_pos (by omega)]

/-- Elements one behind the other are read back. -/
theorem elementsAt_placed {data : List UInt8} {decodeHead : Nat → Option (Token × Nat)} {values : List Token}
    (heads : ∀ value ∈ values, ∀ offset, Placed data offset (value.isDynamic, value.body) →
      decodeHead offset = some (value, offset + headSize (value.isDynamic, value.body))) {offset : Nat}
    (placed : AllPlaced data offset (bodies values)) : elementsAt decodeHead values.length offset = some values := by
  induction values generalizing offset with
  | nil => rfl
  | cons value rest ih =>
    obtain ⟨first, later⟩ := placed
    have head := heads value List.mem_cons_self offset first
    have tail := ih (fun other member => heads other (List.mem_cons_of_mem _ member)) later
    simp only [List.length_cons, elementsAt, head, Option.bind_eq_bind, Option.bind_some, tail]

mutual

theorem decodeParam_placed (type : ParamType) (data : List UInt8) (small : data.length < 2 ^ 32) (offset : Nat)
    (token : Token) (takes : type.Takes token) (placed : Placed data offset (token.isDynamic, token.body)) :
    decodeParam type data offset = some (token, offset + headSize (token.isDynamic, token.body)) := by
  cases takes with
  | @address value =>
    have read := wordAt_word (static_word placed) (value.isLt.trans (by decide))
    simp only [decodeParam, read, Option.bind_eq_bind, Option.bind_some, BitVec.ofNat_toNat, BitVec.setWidth_eq]
    exact congrArg (fun width => some (Token.address value, offset + width)) (word_length _).symm
  | bytes =>
    have read := bytesAt_placed small placed
    simp only [decodeParam, read, Option.bind_eq_bind, Option.bind_some]
    rfl
  | string =>
    have read := bytesAt_placed small placed
    simp only [decodeParam, read, Option.bind_eq_bind, Option.bind_some]
    rfl
  | @bool value =>
    have read := wordAt_word (static_word placed) (value.toNat_lt.trans (by decide))
    have same : (value.toNat == 1) = value := by cases value <;> rfl
    simp only [decodeParam, read, Option.bind_eq_bind, Option.bind_some, Nat.le_of_lt_succ value.toNat_lt, if_true, same]
    exact congrArg (fun width => some (Token.bool value, offset + width)) (word_length _).symm
  | @uint bits value fits =>
    have read := wordAt_word (static_word placed) fits
    simp only [decodeParam, read, Option.bind_eq_bind, Option.bind_some]
    exact congrArg (fun width => some (Token.uint value, offset + width)) (word_length _).symm
  | @array element values few elements =>
    obtain ⟨tail, position, starts⟩ := placed
    obtain ⟨first, later⟩ := drop_prefix_of_append starts
    rw [word_length] at later
    have size := sizeAt_word first few
    have shorter : (data.drop (tail + 32)).length < 2 ^ 32 := by
      rw [List.length_drop]
      omega
    have read := elementsAt_placed (fun value member offset' placed' =>
      decodeParam_placed element (data.drop (tail + 32)) shorter offset' value (elements value member) placed')
      (allPlaced_of_layout shorter later)
    simp only [decodeParam, position, size, read, Option.bind_eq_bind, Option.bind_some]
    rfl
  | @tuple fields values inside =>
    have dynamic := anyDynamic_eq fields values inside
    by_cases moving : anyDynamicType fields = true
    · have moved : (Token.tuple values).isDynamic = true := dynamic.trans moving
      rw [moved, Placed, if_pos rfl] at placed
      obtain ⟨tail, position, starts⟩ := placed
      have shorter : (data.drop tail).length < 2 ^ 32 := by
        rw [List.length_drop]
        omega
      have read := decodeFields_placed fields (data.drop tail) shorter 0 values inside (allPlaced_of_layout shorter starts)
      rw [moved]
      simp only [decodeParam, moving, if_true, position, read, Option.bind_eq_bind, Option.bind_some]
      rfl
    · have still : anyDynamic values = false := by rw [dynamic]; simpa using moving
      have standing : (Token.tuple values).isDynamic = false := still
      rw [standing, Placed, if_neg Bool.false_ne_true] at placed
      obtain ⟨all, width⟩ := allPlaced_of_static small (mem_bodies_static still) placed
      have read := decodeFields_placed fields data small offset values inside all
      rw [standing]
      simp only [decodeParam, if_neg moving, read, Option.bind_eq_bind, Option.bind_some]
      exact congrArg (fun width => some (Token.tuple values, offset + width)) width.symm

theorem decodeFields_placed (fields : List ParamType) (data : List UInt8) (small : data.length < 2 ^ 32) (offset : Nat)
    (tokens : List Token) (takes : List.Forall₂ ParamType.Takes fields tokens)
    (placed : AllPlaced data offset (bodies tokens)) :
    decodeFields fields data offset = some (tokens, offset + ((bodies tokens).map headSize).sum) := by
  cases takes with
  | nil => rfl
  | cons first rest =>
    obtain ⟨head, later⟩ := placed
    have decoded := decodeParam_placed _ data small offset _ first head
    have others := decodeFields_placed _ data small _ _ rest later
    simp only [decodeFields, decoded, others, Option.bind_eq_bind, Option.bind_some, bodies, List.map_cons,
      List.sum_cons, Nat.add_assoc]

end

theorem bodies_eq (tokens : List Token) : bodies tokens = tokens.map fun token => (token.isDynamic, token.body) := by
  induction tokens with
  | nil => rfl
  | cons token rest ih => rw [bodies, ih, List.map_cons]

/-- An encoding is at least as long as what stands for one of its values. -/
theorem body_length_le {tokens : List Token} {token : Token} (member : token ∈ tokens) :
    token.body.length ≤ (layout (bodies tokens)).length := by
  have listed : (token.isDynamic, token.body) ∈ bodies tokens := by
    rw [bodies_eq]
    exact List.mem_map_of_mem member
  exact length_le_layout listed

/-- An array is at least as long as it has elements, when each of them takes room. -/
theorem length_le_array (values : List Token)
    (room : ∀ value ∈ values, 0 < headSize (value.isDynamic, value.body)) :
    values.length ≤ (Token.array values).body.length := by
  have counted : (bodies values).length ≤ (layout (bodies values)).length := by
    refine count_le_layout fun part member => ?_
    rw [bodies_eq] at member
    obtain ⟨value, inside, rfl⟩ := List.mem_map.mp member
    exact room value inside
  rw [bodies_eq, List.length_map, ← bodies_eq] at counted
  rw [Token.body, List.length_append]
  omega

theorem element_length_le {values : List Token} {value : Token} (member : value ∈ values) :
    value.body.length ≤ (Token.array values).body.length := by
  have inside := body_length_le member
  rw [Token.body, List.length_append]
  omega

theorem field_length_le {fields : List Token} {field : Token} (member : field ∈ fields) :
    field.body.length ≤ (Token.tuple fields).body.length := by
  rw [Token.body]
  exact body_length_le member

/-- Dynamic values stand in the head with their positions. -/
theorem dynamic_length_le (values : List Token) (dynamic : ∀ value ∈ values, value.isDynamic = true) :
    values.length ≤ (Token.array values).body.length := by
  refine length_le_array values fun value member => ?_
  rw [dynamic value member]
  exact (by decide : 0 < 32)

theorem bytes_length_le (value : List UInt8) : value.length ≤ (Token.bytes value).body.length := by
  rw [Token.body, padded, List.length_append, List.length_append]
  omega

/-- What the encoder has written, the decoder reads back. -/
theorem headTailDecoder_encode {types : List ParamType} {tokens : List Token}
    (takes : List.Forall₂ ParamType.Takes types tokens) (small : (encode tokens).length < 2 ^ 32) :
    headTailDecoder.decode types (encode tokens) = some tokens := by
  have placed : AllPlaced (encode tokens) 0 (bodies tokens) := allPlaced_of_layout small (List.prefix_refl _)
  have read := decodeFields_placed types (encode tokens) small 0 tokens takes placed
  exact congrArg (Option.map Prod.fst) read

end Abi
