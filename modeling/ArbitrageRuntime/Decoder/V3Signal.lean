import ArbitrageRuntime.Decoder.NoPanic

namespace ArbitrageRuntime

open Abi (Token)

/-- A signal that sells backwards through the one pool that its path and fee name. -/
def SellsBack (signal : SwapSignal) (feeTier : Nat) : Prop :=
  ∃ tokenIn tokenOut hops exactOut, signal.path = [tokenIn, tokenOut] ∧
    signal.kind = .v3 feeTier (encodeV3Path tokenOut feeTier tokenIn) hops exactOut

theorem SellsBack.congr {signal signal' : SwapSignal} {feeTier : Nat} (shape : SellsBack signal feeTier)
    (path : signal'.path = signal.path) (kind : signal'.kind = signal.kind) : SellsBack signal' feeTier := by
  obtain ⟨tokenIn, tokenOut, hops, exactOut, samePath, sameKind⟩ := shape
  exact ⟨tokenIn, tokenOut, hops, exactOut, path.trans samePath, kind.trans sameKind⟩

/-- A signal that has its call's selector and is a V2 swap or sells back at a fee of 24 bits. -/
structure PlainSignal (selector : Selector) (signal : SwapSignal) : Prop where
  selector : signal.selector = selector
  kind : signal.kind = .v2 ∨ ∃ feeTier, feeTier < 2 ^ 24 ∧ SellsBack signal feeTier

theorem PlainSignal.of_v2 {selector : Selector} {signal : SwapSignal}
    (spec : signal.selector = selector ∧ signal.kind = .v2) : PlainSignal selector signal := ⟨spec.1, .inl spec.2⟩

theorem PlainSignal.of_sellsBack {selector : Selector} {signal : SwapSignal} {feeTier : Nat}
    (same : signal.selector = selector) (small : feeTier < 2 ^ 24) (shape : SellsBack signal feeTier) :
    PlainSignal selector signal := ⟨same, .inr ⟨feeTier, small, shape⟩⟩

section

variable {abi : Abi.Decoder} {monitoredTokens : List MonitoredTokenConfig}

theorem decodeV3ExactInputSingleValues_gives {call : SwapCall} {values : List Token} {amountInIndex amountOutMinIndex : Nat}
    {confidence : ℚ} {source : String} {signal : SwapSignal}
    (gives : decodeV3ExactInputSingleValues call values amountInIndex amountOutMinIndex confidence source = .gives signal) :
    signal.selector = call.selector ∧ ∃ feeTier, feeField values = some feeTier ∧ SellsBack signal feeTier := by
  obtain ⟨tokenIn, first, gives⟩ := Attempt.bind_eq_gives.mp gives
  obtain ⟨tokenOut, second, gives⟩ := Attempt.bind_eq_gives.mp gives
  obtain ⟨word, third, gives⟩ := Attempt.bind_eq_gives.mp gives
  obtain ⟨feeTier, narrow, gives⟩ := Attempt.bind_eq_gives.mp gives
  obtain ⟨amountIn, _, gives⟩ := Attempt.bind_eq_gives.mp gives
  rw [Attempt.ofOption_eq_gives] at first second third
  have fits : asU32 word = .ok word := by
    unfold asU32 at narrow ⊢
    split at narrow
    · rename_i small
      rw [if_pos small]
    · exact absurd narrow (by simp [Attempt.ofExcept])
  rw [fits] at narrow
  cases narrow
  cases gives
  refine ⟨rfl, word, ?_, tokenIn, tokenOut, 1, false, rfl, rfl⟩
  rw [feeField, first, second]
  exact third

/-- Both exactInputSingle calls take their fee from the third field of the struct. -/
theorem decodeV3ExactInputSingle_gives {call : SwapCall} {fields : Option (List Token)}
    {amountInIndex amountOutMinIndex : Nat} {confidence : ℚ} {source : String} {signal : SwapSignal}
    (gives : (.ofOption fields >>= fun values =>
      decodeV3ExactInputSingleValues call values amountInIndex amountOutMinIndex confidence source) = .gives signal) :
    signal.selector = call.selector ∧ ∃ feeTier, fields.bind feeField = some feeTier ∧ SellsBack signal feeTier := by
  obtain ⟨values, read, gives⟩ := Attempt.bind_eq_gives.mp gives
  obtain ⟨selector, feeTier, fee, shape⟩ := decodeV3ExactInputSingleValues_gives gives
  exact ⟨selector, feeTier, Option.bind_eq_some_iff.mpr ⟨values, Attempt.ofOption_eq_gives.mp read, fee⟩, shape⟩

theorem decodeTransitV5V3Partial_plain {call : SwapCall} {signal : SwapSignal}
    (gives : decodeTransitV5V3Partial abi monitoredTokens call = .gives signal) : PlainSignal call.selector signal := by
  obtain ⟨values, _, gives⟩ := Attempt.bind_eq_gives.mp gives
  obtain ⟨pathBytes, _, gives⟩ := Attempt.bind_eq_gives.mp gives
  obtain ⟨parsed, parses, gives⟩ := Attempt.bind_eq_gives.mp gives
  rw [parseV3Path_eq, Attempt.ofOption_eq_gives] at parses
  obtain ⟨segment, head, rfl⟩ := Option.map_eq_some_iff.mp parses
  rw [parseV3PathSegments_eq, Attempt.ofExcept_ok, Attempt.gives_bind, head] at gives
  obtain ⟨_, _, gives⟩ := Attempt.bind_eq_gives.mp gives
  cases gives
  exact .of_sellsBack rfl (pathSegments_feeTier_lt (List.mem_of_mem_head? head)) ⟨_, _, _, _, rfl, rfl⟩

theorem decodeV3ExactInput_plain {call : SwapCall} {signal : SwapSignal} (gives : decodeV3ExactInput abi call = .gives signal) :
    PlainSignal call.selector signal := by
  obtain ⟨values, _, gives⟩ := Attempt.bind_eq_gives.mp gives
  obtain ⟨pathBytes, _, gives⟩ := Attempt.bind_eq_gives.mp gives
  obtain ⟨parsed, parses, gives⟩ := Attempt.bind_eq_gives.mp gives
  rw [parseV3Path_eq, Attempt.ofOption_eq_gives] at parses
  obtain ⟨segment, head, rfl⟩ := Option.map_eq_some_iff.mp parses
  obtain ⟨amountIn, _, gives⟩ := Attempt.bind_eq_gives.mp gives
  cases gives
  exact .of_sellsBack rfl (pathSegments_feeTier_lt (List.mem_of_mem_head? head)) ⟨_, _, _, _, rfl, rfl⟩

theorem decodeAlgebraExactInputSingle_plain {call : SwapCall} {signal : SwapSignal}
    (gives : decodeAlgebraExactInputSingle abi call = some signal) : PlainSignal call.selector signal := by
  obtain ⟨values, _, gives⟩ := Option.bind_eq_some_iff.mp gives
  obtain ⟨tokenIn, _, gives⟩ := Option.bind_eq_some_iff.mp gives
  obtain ⟨tokenOut, _, gives⟩ := Option.bind_eq_some_iff.mp gives
  obtain ⟨amountIn, _, gives⟩ := Option.bind_eq_some_iff.mp gives
  cases Option.some.inj gives
  have fee : 3000 < 2 ^ 24 := by omega
  exact .of_sellsBack rfl fee ⟨tokenIn, tokenOut, 1, false, rfl, rfl⟩

theorem swapTerms_feeTier_lt {command : SwapCommand} {terms : SwapTerms} {leg : Leg} {feeTier : Nat}
    (reads : swapTerms abi command = some terms) (v3 : command.kind.dex = .v3) (member : leg ∈ terms.legs)
    (fee : leg.feeTier = some feeTier) : feeTier < 2 ^ 24 := by
  rw [swapTerms, v3] at reads
  obtain ⟨⟨primary, secondary, path⟩, _, rfl⟩ := Option.map_eq_some_iff.mp reads
  simp only [swapTermsOf, v3Legs] at member
  split at member
  all_goals
    obtain ⟨segment, inside, rfl⟩ := List.mem_map.mp member
    cases Option.some.inj fee
    exact pathSegments_feeTier_lt (by simpa using inside)

/-- Every V3 candidate of a plan sells back through the pool of one segment of a path. -/
theorem contribution_plain {selector : Selector} {router : Address} {plan : List SwapCommand} {command : SwapCommand}
    {signal : SwapSignal} (member : signal ∈ contribution abi selector router plan command) :
    PlainSignal selector signal := by
  unfold contribution at member
  split at member
  · obtain ⟨terms, leg, reads, inside, sells, shown⟩ := mem_hopSignals.mp member
    simp only [universalRouterHopToSignal, SwapTerms.hop, Option.bind_eq_bind, Option.bind_some, if_neg sells] at shown
    cases dex : command.kind.dex with
    | v2 =>
      rw [dex] at shown
      cases Option.some.inj shown
      exact .of_v2 ⟨rfl, rfl⟩
    | v3 =>
      rw [dex] at shown
      obtain ⟨feeTier, fee, shown⟩ := Option.bind_eq_some_iff.mp shown
      cases Option.some.inj shown
      exact .of_sellsBack rfl (swapTerms_feeTier_lt reads dex inside fee) ⟨leg.tokenIn, leg.tokenOut, 1, _, rfl, rfl⟩
  · obtain ⟨terms, reads, same, _, _, ⟨_, kind, _⟩ | ⟨dex, leg, rest, feeTier, legs, fee, _, path, kind⟩⟩ :=
      directSignal_spec abi selector router (Option.mem_toList.mp member)
    · exact .of_v2 ⟨same, kind⟩
    · exact .of_sellsBack same (swapTerms_feeTier_lt reads dex (by simp [legs]) fee) ⟨_, _, _, _, path, kind⟩

theorem foldl_bestCandidate_mem {signals : List SwapSignal} {best : Option SwapSignal} {signal : SwapSignal}
    (chosen : signals.foldl bestCandidate best = some signal) : signal ∈ signals ∨ best = some signal := by
  induction signals generalizing best with
  | nil => exact .inr chosen
  | cons first rest ih =>
    rcases ih chosen with later | now
    · exact .inl (List.mem_cons_of_mem first later)
    · unfold bestCandidate at now
      split at now
      · cases Option.some.inj now
        exact .inl List.mem_cons_self
      · split at now
        · cases Option.some.inj now
          exact .inl List.mem_cons_self
        · exact .inr now

/-- The signal of a plan is one of its candidates, priced or not. -/
theorem decodeUniversalRouterCall_candidate {call : SwapCall} {signal : SwapSignal}
    (gives : decodeUniversalRouterCall abi call monitoredTokens = .gives signal) :
    ∃ command candidate notionalWei,
      candidate ∈ contribution abi call.selector call.router (planCommands abi call.args) command ∧
      signal = { candidate with notionalWei := notionalWei } := by
  have found := decodeUniversalRouterSwapCandidates_eq abi call.selector call.router call.args
  rcases Attempt.orElse_eq_gives.mp gives with priced | ⟨_, first⟩
  · rw [decodeUniversalRouterSwapForMonitored, found, Attempt.ofExcept_ok, Attempt.gives_bind,
      Attempt.ofOption_eq_gives] at priced
    rcases foldl_bestCandidate_mem priced with member | none
    · obtain ⟨candidate, inside, estimated⟩ := List.mem_filterMap.mp member
      obtain ⟨notionalWei, _, rfl⟩ := Option.map_eq_some_iff.mp estimated
      obtain ⟨command, _, contributed⟩ := List.mem_flatMap.mp inside
      exact ⟨command, candidate, notionalWei, contributed, rfl⟩
    · exact absurd none (by simp)
  · rw [decodeUniversalRouterSwap, found, Attempt.ofExcept_ok, Attempt.gives_bind, Attempt.ofOption_eq_gives] at first
    obtain ⟨command, _, contributed⟩ := List.mem_flatMap.mp (List.mem_of_mem_head? first)
    exact ⟨command, signal, signal.notionalWei, contributed, rfl⟩

theorem decodeUniversalRouterCall_plain {call : SwapCall} {signal : SwapSignal}
    (gives : decodeUniversalRouterCall abi call monitoredTokens = .gives signal) : PlainSignal call.selector signal := by
  obtain ⟨command, candidate, notionalWei, contributed, rfl⟩ := decodeUniversalRouterCall_candidate gives
  have plain := contribution_plain contributed
  exact ⟨plain.selector, plain.kind⟩

theorem decodeSwapExactEth_spec {call : SwapCall} {signal : SwapSignal} (gives : decodeSwapExactEth abi call = some signal) :
    signal.selector = call.selector ∧ signal.kind = .v2 := by
  obtain ⟨decoded, _, gives⟩ := Option.bind_eq_some_iff.mp gives
  obtain ⟨path, _, gives⟩ := Option.bind_eq_some_iff.mp gives
  cases Option.some.inj gives
  exact ⟨rfl, rfl⟩

theorem decodeSwapExactTokens_spec {call : SwapCall} {signal : SwapSignal}
    (gives : decodeSwapExactTokens abi call = some signal) : signal.selector = call.selector ∧ signal.kind = .v2 := by
  obtain ⟨decoded, _, gives⟩ := Option.bind_eq_some_iff.mp gives
  obtain ⟨amountIn, _, gives⟩ := Option.bind_eq_some_iff.mp gives
  obtain ⟨path, _, gives⟩ := Option.bind_eq_some_iff.mp gives
  cases Option.some.inj gives
  exact ⟨rfl, rfl⟩

theorem decodeZeroExSellToUniswap_spec {call : SwapCall} {signal : SwapSignal}
    (gives : decodeZeroExSellToUniswap abi call = some signal) : signal.selector = call.selector ∧ signal.kind = .v2 := by
  obtain ⟨decoded, _, gives⟩ := Option.bind_eq_some_iff.mp gives
  obtain ⟨path, _, gives⟩ := Option.bind_eq_some_iff.mp gives
  obtain ⟨amountIn, _, gives⟩ := Option.bind_eq_some_iff.mp gives
  cases Option.some.inj gives
  exact ⟨rfl, rfl⟩

theorem decodeTransitV5V2Partial_spec {call : SwapCall} {signal : SwapSignal}
    (gives : decodeTransitV5V2Partial abi monitoredTokens call = some signal) :
    signal.selector = call.selector ∧ signal.kind = .v2 := by
  obtain ⟨values, _, gives⟩ := Option.bind_eq_some_iff.mp gives
  obtain ⟨found, _, gives⟩ := Option.bind_eq_some_iff.mp gives
  simp only at gives
  split at gives
  · exact absurd gives (by simp)
  · cases Option.some.inj gives
    exact ⟨rfl, rfl⟩

theorem decodeSwapExactEthForTokenPartial_spec {call : SwapCall} {signal : SwapSignal}
    (gives : decodeSwapExactEthForTokenPartial abi monitoredTokens call = some signal) :
    signal.selector = call.selector ∧ signal.kind = .v2 := by
  obtain ⟨decoded, _, gives⟩ := Option.bind_eq_some_iff.mp gives
  obtain ⟨amountIn, _, gives⟩ := Option.bind_eq_some_iff.mp gives
  obtain ⟨tokenOut, _, gives⟩ := Option.bind_eq_some_iff.mp gives
  obtain ⟨pathBytes, _, gives⟩ := Option.bind_eq_some_iff.mp gives
  simp only at gives
  split_ifs at gives
  all_goals
    cases Option.some.inj gives
    exact ⟨rfl, rfl⟩

/-- Of the aggregators only Transit gives V3 signals. -/
theorem decodeKnownAggregatorPartial_plain {decode : SwapCall → Decoding SwapSignal} {call : SwapCall} {signal : SwapSignal}
    (notSearcher : call.selector ≠ .privateSearcherSelectorD00BA30B)
    (gives : decodeKnownAggregatorPartial abi monitoredTokens decode call = .gives signal) :
    PlainSignal call.selector signal := by
  rw [decodeKnownAggregatorPartial, if_neg notSearcher] at gives
  split_ifs at gives
  · rcases Attempt.orElse_eq_gives.mp gives with transit | ⟨_, last⟩
    · exact decodeTransitV5V3Partial_plain transit
    · exact .of_v2 (partialSignal_spec (Attempt.ofOption_eq_gives.mp last))
  · rcases Option.or_eq_some_iff.mp (Attempt.ofOption_eq_gives.mp gives) with transit | ⟨_, last⟩
    · exact .of_v2 (decodeTransitV5V2Partial_spec transit)
    · exact .of_v2 (partialSignal_spec last)
  · exact .of_v2 (partialSignal_spec (Attempt.ofOption_eq_gives.mp gives))
  · rcases Option.or_eq_some_iff.mp (Attempt.ofOption_eq_gives.mp gives) with swap | ⟨_, last⟩
    · exact .of_v2 (decodeSwapExactEthForTokenPartial_spec swap)
    · exact .of_v2 (partialSignal_spec last)

theorem feeWord_of_other {call : SwapCall} (first : callKind call.selector ≠ .v3Single)
    (second : callKind call.selector ≠ .v3SingleNoDeadline) : feeWord abi call = none := by
  unfold feeWord
  split
  · rename_i kind
    exact absurd kind first
  · rename_i kind
    exact absurd kind second
  · rfl

theorem decodeLeaf_plain {call : SwapCall} {signal : SwapSignal} (leaf : isWrapper call = false)
    (single : callKind call.selector ≠ .v3Single) (noDeadline : callKind call.selector ≠ .v3SingleNoDeadline)
    (gives : decodeLeaf abi monitoredTokens call = .gives signal) : PlainSignal call.selector signal := by
  unfold isWrapper at leaf
  rw [decodeLeaf, decodeSwapSignalWith] at gives
  cases kind : callKind call.selector with
  | safe => simp [kind] at leaf
  | multicall => simp [kind] at leaf
  | privateWrapper => simp [kind] at leaf
  | batch => simp [kind] at leaf
  | v3Single => exact absurd kind single
  | v3SingleNoDeadline => exact absurd kind noDeadline
  | algebraSingle =>
    rw [kind] at gives
    exact decodeAlgebraExactInputSingle_plain (Attempt.ofOption_eq_gives.mp gives)
  | v3Input =>
    rw [kind] at gives
    exact decodeV3ExactInput_plain gives
  | universalRouter =>
    rw [kind] at gives
    exact decodeUniversalRouterCall_plain gives
  | other =>
    have notSearcher : call.selector ≠ .privateSearcherSelectorD00BA30B := by simpa [kind] using leaf
    rw [kind] at gives
    exact decodeKnownAggregatorPartial_plain notSearcher gives
  | ethForTokens =>
    rw [kind] at gives
    exact .of_v2 (decodeSwapExactEth_spec (Attempt.ofOption_eq_gives.mp gives))
  | tokensForAny =>
    rw [kind] at gives
    exact .of_v2 (decodeSwapExactTokens_spec (Attempt.ofOption_eq_gives.mp gives))
  | zeroEx =>
    rw [kind] at gives
    exact .of_v2 (decodeZeroExSellToUniswap_spec (Attempt.ofOption_eq_gives.mp gives))

/-- What a leaf call gives is plain, or sells back at the fee word of an exactInputSingle call. -/
theorem decodeLeaf_gives {call : SwapCall} {signal : SwapSignal} (leaf : isWrapper call = false)
    (gives : decodeLeaf abi monitoredTokens call = .gives signal) :
    signal.selector = call.selector ∧
      (feeWord abi call = none ∧ PlainSignal call.selector signal ∨
        ∃ feeTier, feeWord abi call = some feeTier ∧ SellsBack signal feeTier) := by
  by_cases single : callKind call.selector = .v3Single
  · rw [decodeLeaf, decodeSwapSignalWith, single] at gives
    rw [feeWord, single]
    obtain ⟨same, sells⟩ := decodeV3ExactInputSingle_gives gives
    exact ⟨same, .inr sells⟩
  · by_cases noDeadline : callKind call.selector = .v3SingleNoDeadline
    · rw [decodeLeaf, decodeSwapSignalWith, noDeadline] at gives
      rw [feeWord, noDeadline]
      obtain ⟨same, sells⟩ := decodeV3ExactInputSingle_gives gives
      exact ⟨same, .inr sells⟩
    · have plain := decodeLeaf_plain leaf single noDeadline gives
      exact ⟨plain.selector, .inl ⟨feeWord_of_other single noDeadline, plain⟩⟩

theorem probe_gives {p : Probe} {signal : SwapSignal} (gives : probe abi monitoredTokens p = .gives signal) :
    decodeLeaf abi monitoredTokens p.call = .gives signal := by
  unfold probe at gives
  split at gives
  · obtain ⟨found, leaf, gives⟩ := Attempt.bind_eq_gives.mp gives
    obtain ⟨_, _, same⟩ := Attempt.bind_eq_gives.mp gives
    cases same
    exact leaf
  · exact gives

/-- The encoded path of a signal parses to the pool that the signal names, run through backwards. -/
def PathRoundTrips (signal : SwapSignal) : Prop :=
  ∀ feeTier encodedPath hops exactOut, signal.kind = .v3 feeTier encodedPath hops exactOut →
    ∃ parsed, parseV3Path encodedPath = .gives parsed ∧ signal.path[1]? = some parsed.tokenIn ∧
      signal.path[0]? = some parsed.edgeTokenOut ∧ parsed.hops = 1 ∧ parsed.firstFeeTier = feeTier

theorem pathRoundTrips_iff {signal : SwapSignal} {feeTier : Nat} (shape : SellsBack signal feeTier) :
    PathRoundTrips signal ↔ feeTier < 2 ^ 24 := by
  obtain ⟨tokenIn, tokenOut, hops, exactOut, path, kind⟩ := shape
  have parses := parseV3Path_encodeV3Path tokenOut tokenIn feeTier
  constructor
  · intro roundTrips
    obtain ⟨parsed, parsed', _, _, _, same⟩ := roundTrips _ _ _ _ kind
    cases parses.symm.trans parsed'
    have kept : feeTier % 2 ^ 24 = feeTier := same
    omega
  · intro small feeTier' encodedPath hops' exactOut' kind'
    cases kind.symm.trans kind'
    refine ⟨_, parses, ?_, ?_, rfl, Nat.mod_eq_of_lt small⟩
    · rw [path]
      rfl
    · rw [path]
      rfl

end

/-- The signal of a call comes from a leaf call. -/
def Answers (abi : Abi.Decoder) (monitoredTokens : List MonitoredTokenConfig) (call : SwapCall) (p : Probe) : Prop :=
  Tries abi monitoredTokens call p ∧ ∃ found, probe abi monitoredTokens p = .gives found

/-- The fee of a signal is 32 bits wide and its encoded path has room for 24, so that only a wider fee word of
the exactInputSingle call that the signal comes from breaks the round trip. -/
theorem pathRoundTrips_decodeSwapSignal_iff (abi : Abi.Decoder) (monitoredTokens : List MonitoredTokenConfig)
    (call : SwapCall) :
    (∀ signal, decodeSwapSignal abi monitoredTokens call = .gives signal → PathRoundTrips signal) ↔
      ∀ p, Answers abi monitoredTokens call p → ∀ word, feeWord abi p.call = some word → word < 2 ^ 24 := by
  constructor
  · rintro roundTrips p ⟨tried, found, gives⟩ word read
    obtain ⟨signal, decoded, path, kind⟩ := decodeSwapSignal_of_tries tried gives
    rcases (decodeLeaf_gives tried.leaf (probe_gives gives)).2 with ⟨none, _⟩ | ⟨feeTier, fee, shape⟩
    · exact absurd (read.symm.trans none) (by simp)
    · cases Option.some.inj (read.symm.trans fee)
      exact (pathRoundTrips_iff (shape.congr path kind)).mp (roundTrips signal decoded)
  · intro narrow signal decoded
    by_cases v3 : signal.kind = .v2
    · intro feeTier encodedPath hops exactOut kind
      exact absurd (v3.symm.trans kind) (by simp)
    · obtain ⟨p, found, tried, gives, path, kind⟩ := tries_of_decodeSwapSignal decoded v3
      rcases (decodeLeaf_gives tried.leaf (probe_gives gives)).2 with ⟨_, plain⟩ | ⟨feeTier, fee, shape⟩
      · obtain v2 | ⟨feeTier, small, shape⟩ := plain.kind
        · exact absurd (kind.trans v2) v3
        · exact (pathRoundTrips_iff (shape.congr path kind)).mpr small
      · exact (pathRoundTrips_iff (shape.congr path kind)).mpr (narrow p ⟨tried, found, gives⟩ feeTier fee)

/-- The same call as above with a fee of 2 ^ 24. -/
def fullFeeCall : SwapCall where
  selector := .v3ExactInputSingle
  router := 0x99
  value := 0
  args := Abi.encode [.tuple [.address 0xa1, .address 0xb2, .uint (2 ^ 24), .address 1, .uint 9, .uint 1000, .uint 1, .uint 0]]

theorem fullFeeCall_decoded : decodeSwapSignal Abi.headTailDecoder [] fullFeeCall = .gives (fullFeeCall.signal 1000 (some 1)
    [0xa1, 0xb2] (.single 0xa1 0xb2 (2 ^ 24) 1 false) 1 "abi") := by
  decide +kernel

/-- The encoded path of its signal has fee zero. -/
theorem fullFeeCall_path_breaks : ∃ signal, decodeSwapSignal Abi.headTailDecoder [] fullFeeCall = .gives signal ∧
    ¬ PathRoundTrips signal := by
  refine ⟨_, fullFeeCall_decoded, ?_⟩
  intro roundTrips
  obtain ⟨parsed, parses, _, _, _, same⟩ := roundTrips _ _ _ _ rfl
  rw [parseV3Path_encodeV3Path] at parses
  cases parses
  exact absurd same (by decide)

end ArbitrageRuntime
