import ArbitrageRuntime.Decoder.Plan

namespace ArbitrageRuntime

def feeTierBytes (feeTier : Nat) : Bytes := (Abi.bigEndian 4 feeTier).drop 1

/-- What every hop after the first token adds to a path: its fee and the token it gives out. -/
def legBytes (hops : List V3PathSegment) : Bytes :=
  hops.flatMap fun hop => feeTierBytes hop.feeTier ++ addressBytes hop.tokenOut

/-- The packed encoding of hops that follow one another: the path of the first hop, extended by the others. -/
def packedPath : List V3PathSegment → Bytes
  | [] => []
  | hop :: rest => encodeV3Path hop.tokenIn hop.feeTier hop.tokenOut ++ legBytes rest

/-- Every hop takes in the token that the hop before it gives out. -/
def Chained (hops : List V3PathSegment) : Prop := hops.IsChain fun hop next => hop.tokenOut = next.tokenIn

/-- A nonempty chain of hops with fees of 24 bits. -/
structure HopChain where
  hops : List V3PathSegment
  nonempty : hops ≠ []
  chained : Chained hops
  fees : ∀ hop ∈ hops, hop.feeTier < 2 ^ 24

theorem addressBytes_length (token : Address) : (addressBytes token).length = 20 := Abi.bigEndian_length 20 _

theorem feeTierBytes_length (feeTier : Nat) : (feeTierBytes feeTier).length = 3 := Abi.bigEndian_length 3 _

theorem legBytes_cons (hop : V3PathSegment) (rest : List V3PathSegment) :
    legBytes (hop :: rest) = feeTierBytes hop.feeTier ++ (addressBytes hop.tokenOut ++ legBytes rest) := by
  rw [legBytes, List.flatMap_cons, List.append_assoc]
  rfl

theorem packedPath_cons (hop : V3PathSegment) (rest : List V3PathSegment) :
    packedPath (hop :: rest) = addressBytes hop.tokenIn ++ legBytes (hop :: rest) := by
  rw [packedPath, encodeV3Path, legBytes_cons, List.append_assoc, List.append_assoc]
  rfl

theorem legBytes_length (hops : List V3PathSegment) : (legBytes hops).length = 23 * hops.length := by
  induction hops with
  | nil => rfl
  | cons hop rest ih =>
    rw [legBytes_cons, List.length_append, List.length_append, feeTierBytes_length, addressBytes_length, ih,
      List.length_cons]
    omega

theorem HopChain.packedPath_length (chain : HopChain) :
    (packedPath chain.hops).length = 20 + 23 * chain.hops.length := by
  obtain ⟨hop, rest, hops⟩ := List.exists_cons_of_ne_nil chain.nonempty
  rw [hops, packedPath_cons, List.length_append, addressBytes_length, legBytes_length]

/-- The loop reads back what the encoder wrote behind any bytes it has already read. -/
theorem segmentsFrom_append {hops : List V3PathSegment} (front : Bytes) (token : Address)
    (starts : ∀ hop ∈ hops.head?, hop.tokenIn = token) (chained : Chained hops)
    (fees : ∀ hop ∈ hops, hop.feeTier < 2 ^ 24) :
    segmentsFrom (front ++ (addressBytes token ++ legBytes hops)) hops.length front.length = .ok hops := by
  induction hops generalizing front token with
  | nil => rfl
  | cons hop rest ih =>
    have start : hop.tokenIn = token := starts hop rfl
    obtain ⟨next, chained⟩ := List.isChain_cons.mp chained
    obtain ⟨fee, fees⟩ := List.forall_mem_cons.mp fees
    let path := front ++ (addressBytes token ++ legBytes (hop :: rest))
    let behind := addressBytes hop.tokenOut ++ legBytes rest
    have lengthIn : (front ++ addressBytes token).length = front.length + 20 := by
      rw [List.length_append, addressBytes_length]
    have lengthFee : (front ++ addressBytes token ++ feeTierBytes hop.feeTier).length = front.length + 23 := by
      rw [List.length_append, lengthIn, feeTierBytes_length]
    have splitIn : front ++ addressBytes token ++ (feeTierBytes hop.feeTier ++ behind) = path := by
      rw [← legBytes_cons, List.append_assoc]
    have splitFee : front ++ addressBytes token ++ feeTierBytes hop.feeTier ++ behind = path := by
      rw [← splitIn, List.append_assoc]
    have atIn : addressAt path front.length = .ok token := addressAt_append front token (legBytes (hop :: rest))
    have atFee : feeTierAt path (front.length + 20) = .ok hop.feeTier := by
      have read := feeTierAt_append (front ++ addressBytes token) hop.feeTier behind
      rw [Nat.mod_eq_of_lt fee] at read
      rw [← splitIn, ← lengthIn]
      exact read
    have atOut : addressAt path (front.length + 23) = .ok hop.tokenOut := by
      rw [← splitFee, ← lengthFee]
      exact addressAt_append _ hop.tokenOut (legBytes rest)
    have later : segmentsFrom path rest.length (front.length + 23) = .ok rest := by
      rw [← splitFee, ← lengthFee]
      exact ih _ hop.tokenOut (fun following member => (next following member).symm) chained fees
    have inside : ¬ path.length < front.length + 43 := by
      rw [List.length_append, List.length_append, addressBytes_length, legBytes_length, List.length_cons]
      omega
    rw [List.length_cons, segmentsFrom, if_neg inside, atIn, atOut, atFee, later, ← start]
    rfl

/-- A chain is read back from its packed encoding. -/
theorem HopChain.segments_packedPath (chain : HopChain) :
    parseV3PathSegments (packedPath chain.hops) = .ok chain.hops := by
  have length := chain.packedPath_length
  have some : chain.hops.length ≠ 0 := fun none => chain.nonempty (List.length_eq_zero_iff.mp none)
  have count : ((packedPath chain.hops).length - 20) / 23 = chain.hops.length := by omega
  rw [parseV3PathSegments, if_neg (by omega), count]
  obtain ⟨hop, rest, hops⟩ := List.exists_cons_of_ne_nil chain.nonempty
  have packed : packedPath chain.hops = [] ++ (addressBytes hop.tokenIn ++ legBytes chain.hops) := by
    rw [hops]
    exact packedPath_cons hop rest
  have starts : ∀ first ∈ chain.hops.head?, first.tokenIn = hop.tokenIn := by
    rw [hops]
    intro first member
    cases member
    rfl
  rw [packed]
  exact segmentsFrom_append [] hop.tokenIn starts chain.chained chain.fees

/-- Neighbouring segments are read from overlapping windows: the token between them is read twice. -/
theorem segmentsFrom_chained {path : Bytes} {count offset : Nat} {segments : List V3PathSegment}
    (read : segmentsFrom path count offset = .ok segments) :
    Chained segments ∧ ∀ first ∈ segments.head?, addressAt path offset = .ok first.tokenIn := by
  induction count generalizing offset segments with
  | zero =>
    cases read
    exact ⟨.nil, by simp⟩
  | succ count ih =>
    by_cases inside : offset + 43 ≤ path.length
    · obtain ⟨rest, later⟩ := segmentsFrom_ok path count (offset + 23)
      obtain ⟨segment, first, atIn, atOut, _⟩ := segmentsFrom_succ inside later
      cases read.symm.trans first
      obtain ⟨chained, starts⟩ := ih later
      refine ⟨List.isChain_cons.mpr ⟨?_, chained⟩, ?_⟩
      · intro next member
        exact Except.ok.inj (atOut.symm.trans (starts next member))
      · intro first member
        cases member
        exact atIn
    · rw [segmentsFrom, if_pos (by omega)] at read
      cases read
      exact ⟨.nil, by simp⟩

/-- A path of 43 bytes or more has one segment for every whole hop, each segment takes in what the one before
it gives out and the first is what `parse_v3_path` reads; a chain of hops is read back from its encoding. -/
theorem parseV3PathSegments_partitions :
    (∀ path : Bytes, 43 ≤ path.length →
      ∃ first rest, parseV3PathSegments path = .ok (first :: rest) ∧
        (first :: rest).length = (path.length - 20) / 23 ∧ Chained (first :: rest) ∧
        parseV3Path path = .gives { tokenIn := first.tokenIn, edgeTokenOut := first.tokenOut,
                                    firstFeeTier := first.feeTier, hops := (path.length - 20) / 23 }) ∧
      ∀ chain : HopChain, parseV3PathSegments (packedPath chain.hops) = .ok chain.hops := by
  refine ⟨?_, HopChain.segments_packedPath⟩
  intro path long
  obtain ⟨count, hops⟩ : ∃ count, (path.length - 20) / 23 = count + 1 := ⟨(path.length - 20) / 23 - 1, by omega⟩
  obtain ⟨rest, later⟩ := segmentsFrom_ok path count (0 + 23)
  obtain ⟨first, read, atIn, atOut, atFee⟩ := segmentsFrom_succ (show 0 + 43 ≤ path.length by omega) later
  have segments : parseV3PathSegments path = .ok (first :: rest) := by
    rw [parseV3PathSegments, if_neg (by omega), hops, read]
  have length : (first :: rest).length = (path.length - 20) / 23 := by
    rw [hops]
    exact segmentsFrom_length (by omega) read
  exact ⟨first, rest, segments, length, (segmentsFrom_chained read).1, parseV3Path_gives long atIn atOut atFee⟩

/-- The path of the two pools with fees of 0.05% and 0.3%. -/
def twoHopChain : HopChain where
  hops := [⟨1, 2, 500⟩, ⟨2, 3, 3000⟩]
  nonempty := List.cons_ne_nil _ _
  chained := by simp [Chained]
  fees := by simp

theorem parseV3PathSegments_partitions_two :
    43 ≤ (packedPath twoHopChain.hops).length ∧
      (∃ first rest, parseV3PathSegments (packedPath twoHopChain.hops) = .ok (first :: rest) ∧
        parseV3Path (packedPath twoHopChain.hops) =
          .gives { tokenIn := first.tokenIn, edgeTokenOut := first.tokenOut, firstFeeTier := first.feeTier,
                   hops := 2 }) ∧
      parseV3PathSegments (packedPath twoHopChain.hops) = .ok [⟨1, 2, 500⟩, ⟨2, 3, 3000⟩] := by
  have length : (packedPath twoHopChain.hops).length = 66 := twoHopChain.packedPath_length
  have long : 43 ≤ (packedPath twoHopChain.hops).length := by omega
  obtain ⟨first, rest, segments, _, _, parsed⟩ := parseV3PathSegments_partitions.1 _ long
  rw [length] at parsed
  exact ⟨long, ⟨first, rest, segments, parsed⟩, parseV3PathSegments_partitions.2 twoHopChain⟩

end ArbitrageRuntime
