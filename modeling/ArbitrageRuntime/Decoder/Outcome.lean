import ArbitrageRuntime.Decoder.Search

namespace ArbitrageRuntime

open Abi (Token)

/-- The calls that hand parts of their arguments to the decoder again. -/
def isWrapper (call : SwapCall) : Bool :=
  match callKind call.selector with
  | .safe | .multicall | .privateWrapper | .batch => true
  | .other => call.selector = .privateSearcherSelectorD00BA30B
  | _ => false

/-- A leaf call that the search tries. A scanned one only counts with a monitored token in its path. -/
structure Probe where
  call : SwapCall
  scanned : Bool

/-- How a wrapper relabels the signal of a child. -/
def childLabel (call : SwapCall) (signal : SwapSignal) : SwapSignal :=
  match callKind call.selector with
  | .multicall => signal.relabel call.selector (92 / 100) "multicall_nested"
  | .batch => signal.relabel call.selector (82 / 100) "batch_execute_nested"
  | _ => signal

/-- How a wrapper relabels the signal of a scanned call. -/
def probeLabel (call : SwapCall) (signal : SwapSignal) : SwapSignal :=
  match callKind call.selector with
  | .multicall => signal.relabel call.selector (68 / 100) "multicall_selector_scan"
  | .privateWrapper => signal.relabel call.selector (88 / 100) "private_swap_wrapper_nested"
  | .batch => signal.relabel call.selector (58 / 100) "batch_execute_selector_scan"
  | .other =>
    if call.selector = .privateSearcherSelectorD00BA30B then
      signal.relabel call.selector (62 / 100) "private_searcher_nested_fingerprint"
    else signal
  | _ => signal

section

variable (abi : Abi.Decoder) (monitoredTokens : List MonitoredTokenConfig)

/-- The dispatch on a call that nests nothing. -/
def decodeLeaf (call : SwapCall) : Decoding SwapSignal := decodeSwapSignalWith abi monitoredTokens (fun _ => .declines) call

def probe (p : Probe) : Decoding SwapSignal :=
  if p.scanned then scanProbe monitoredTokens (decodeLeaf abi monitoredTokens) p.call
  else decodeLeaf abi monitoredTokens p.call

/-- The leaf calls that are tried when no child has given a signal. -/
def probes (call : SwapCall) : List Probe :=
  let scan := (scanCalls call).map fun inner => { call := inner, scanned := true }
  match callKind call.selector with
  | .safe => []
  | .multicall => if (multicallElements abi call.selector call.args).isSome then scan else []
  | .privateWrapper | .batch => scan
  | .other => if call.selector = .privateSearcherSelectorD00BA30B then scan else [{ call := call, scanned := false }]
  | _ => [{ call := call, scanned := false }]

/-- What is left to a wrapper when nothing inside it has given a signal. -/
def fallback (call : SwapCall) : Option SwapSignal :=
  match callKind call.selector with
  | .safe => (safeCall abi call.args).bind (decodeSafeInnerAggregatorPartial monitoredTokens)
  | .other =>
    if call.selector = .privateSearcherSelectorD00BA30B then
      partialSignal monitoredTokens call (42 / 100) "private_searcher_token_fingerprint"
    else none
  | _ => none

theorem decodeSwapSignal_leaf {call : SwapCall} (leaf : isWrapper call = false) :
    decodeSwapSignal abi monitoredTokens call = decodeLeaf abi monitoredTokens call := by
  rw [decodeSwapSignal_eq, decodeLeaf, decodeSwapSignalWith, decodeSwapSignalWith]
  unfold isWrapper at leaf
  cases kind : callKind call.selector with
  | safe => simp [kind] at leaf
  | multicall => simp [kind] at leaf
  | privateWrapper => simp [kind] at leaf
  | batch => simp [kind] at leaf
  | other =>
    have notSearcher : call.selector ≠ .privateSearcherSelectorD00BA30B := by simpa [kind] using leaf
    simp only [decodeKnownAggregatorPartial, if_neg notSearcher]
  | _ => rfl

theorem childSelectors_leaf {call : SwapCall} (child : call.selector ∈ childSelectors) : isWrapper call = false := by
  unfold isWrapper
  simp only [childSelectors, List.mem_cons, List.not_mem_nil, or_false] at child
  rcases child with same | same | same | same | same
  all_goals
    rw [same]
    decide

theorem scanCalls_leaf {call inner : SwapCall} (member : inner ∈ scanCalls call) : isWrapper inner = false := by
  obtain ⟨offset, _, found⟩ := List.mem_filterMap.mp member
  unfold scanCall at found
  split at found
  · split at found
    · rename_i child
      cases Option.some.inj found
      exact childSelectors_leaf child
    · exact absurd found (by simp)
  · exact absurd found (by simp)

theorem scanLabelled_eq (call : SwapCall) (confidence : ℚ) (source : String) :
    scanLabelled monitoredTokens (decodeSwapSignal abi monitoredTokens) call confidence source =
      (fun signal : SwapSignal => signal.relabel call.selector confidence source) <$>
        .first (probe abi monitoredTokens) ((scanCalls call).map fun inner => { call := inner, scanned := true }) := by
  rw [scanLabelled, decodeNestedSwapFromCalldata_eq, Attempt.first_map, bind_pure_comp, Attempt.first_congr]
  intro inner member
  rw [scanProbe, decodeSwapSignal_leaf abi monitoredTokens (scanCalls_leaf member)]
  rfl

theorem decodeKnownAggregatorPartial_searcher (decode : SwapCall → Decoding SwapSignal) {call : SwapCall}
    (searcher : call.selector = .privateSearcherSelectorD00BA30B) :
    decodeKnownAggregatorPartial abi monitoredTokens decode call =
      decodePrivateSearcherFingerprint monitoredTokens decode call := by
  unfold decodeKnownAggregatorPartial
  rw [searcher, if_neg (by decide), if_neg (by decide), if_neg (by decide), if_neg (by decide), if_pos rfl]

/-- The decoder as a search: through the children, then through the leaf calls, and last the fallback. -/
theorem decodeSwapSignal_search (call : SwapCall) :
    decodeSwapSignal abi monitoredTokens call =
      (.first (fun child => childLabel call <$> decodeSwapSignal abi monitoredTokens child) (children abi call) <|>
        (probeLabel call <$> .first (probe abi monitoredTokens) (probes abi call)) <|>
        .ofOption (fallback abi monitoredTokens call)) := by
  by_cases wrapper : isWrapper call = true
  · rw [decodeSwapSignal_eq, decodeSwapSignalWith]
    unfold isWrapper at wrapper
    unfold childLabel probeLabel children probes fallback
    cases kind : callKind call.selector with
    | safe =>
      simp only [decodeSafeExecTransactionSwap_eq]
      cases safeCall abi call.args with
      | none => simp [Attempt.first]
      | some inner => simp [Attempt.first]
    | multicall =>
      simp only [decodeMulticallNestedSwap_eq, scanLabelled_eq]
      cases multicallElements abi call.selector call.args with
      | none => simp [Attempt.first]
      | some elements => simp
    | privateWrapper =>
      simp only [decodePrivateSwapWrapper, scanLabelled_eq]
      simp [Attempt.first]
    | batch =>
      simp only [decodeBatchExecuteNestedSwap_eq, scanLabelled_eq]
      simp
    | other =>
      have searcher : call.selector = .privateSearcherSelectorD00BA30B := by simpa [kind] using wrapper
      rw [decodeKnownAggregatorPartial_searcher abi monitoredTokens _ searcher]
      simp [decodePrivateSearcherFingerprint, scanLabelled_eq, searcher, Attempt.first]
    | _ => simp [kind] at wrapper
  · have leaf : isWrapper call = false := by simpa using wrapper
    rw [decodeSwapSignal_leaf abi monitoredTokens leaf]
    unfold isWrapper at leaf
    unfold childLabel probeLabel children probes fallback
    cases kind : callKind call.selector with
    | safe => simp [kind] at leaf
    | multicall => simp [kind] at leaf
    | privateWrapper => simp [kind] at leaf
    | batch => simp [kind] at leaf
    | other =>
      have notSearcher : call.selector ≠ .privateSearcherSelectorD00BA30B := by simpa [kind] using leaf
      simp [Attempt.first, probe, notSearcher]
    | _ => simp [Attempt.first, probe]

theorem probes_leaf {call : SwapCall} {p : Probe} (member : p ∈ probes abi call) : isWrapper p.call = false := by
  have scanned : p ∈ (scanCalls call).map (fun inner => Probe.mk inner true) → isWrapper p.call = false := by
    intro found
    obtain ⟨inner, inside, rfl⟩ := List.mem_map.mp found
    exact scanCalls_leaf inside
  unfold probes at member
  cases kind : callKind call.selector with
  | safe => simp [kind] at member
  | multicall =>
    simp only [kind] at member
    split at member
    · exact scanned member
    · exact absurd member (by simp)
  | privateWrapper =>
    simp only [kind] at member
    exact scanned member
  | batch =>
    simp only [kind] at member
    exact scanned member
  | other =>
    simp only [kind] at member
    split at member
    · exact scanned member
    · rename_i notSearcher
      cases List.mem_singleton.mp member
      simp [isWrapper, kind, notSearcher]
  | _ =>
    simp only [kind] at member
    cases List.mem_singleton.mp member
    simp [isWrapper, kind]

/-- A call that no signal comes from. -/
inductive Silent : SwapCall → Prop
  | mk {call : SwapCall} : (∀ child ∈ children abi call, Silent child) →
    (∀ p ∈ probes abi call, probe abi monitoredTokens p = .declines) → fallback abi monitoredTokens call = none → Silent call

/-- The decoding of a call comes to try a leaf call: everything before it is silent. -/
inductive Tries : SwapCall → Probe → Prop
  | here {call : SwapCall} {before after : List Probe} {p : Probe} :
    (∀ child ∈ children abi call, Silent abi monitoredTokens child) →
    probes abi call = before ++ p :: after →
    (∀ earlier ∈ before, probe abi monitoredTokens earlier = .declines) → Tries call p
  | inside {call child : SwapCall} {before after : List SwapCall} {p : Probe} :
    children abi call = before ++ child :: after →
    (∀ earlier ∈ before, Silent abi monitoredTokens earlier) → Tries child p → Tries call p

theorem Tries.leaf {call : SwapCall} {p : Probe} (tried : Tries abi monitoredTokens call p) : isWrapper p.call = false := by
  induction tried with
  | @here call before after p _ split _ =>
    have member : p ∈ probes abi call := by simp [split]
    exact probes_leaf abi member
  | inside _ _ _ ih => exact ih

/-- Calls by the length of their arguments, which bounds those of their children. -/
theorem call_induction {motive : SwapCall → Prop}
    (step : ∀ call, (∀ child ∈ children abi call, motive child) → motive call) (call : SwapCall) : motive call := by
  induction length : call.args.length using Nat.strong_induction_on generalizing call with
  | _ n ih =>
    refine step call ?_
    intro child member
    exact ih _ (length ▸ children_shorter abi member) child rfl

variable {abi monitoredTokens}

theorem decodeSwapSignal_eq_declines {call : SwapCall} :
    decodeSwapSignal abi monitoredTokens call = .declines ↔ Silent abi monitoredTokens call := by
  induction call using call_induction abi with
  | step call ih =>
    rw [decodeSwapSignal_search, Attempt.orElse_eq_declines, Attempt.orElse_eq_declines, Attempt.first_eq_declines,
      Attempt.map_eq_declines, Attempt.first_eq_declines, Attempt.ofOption_eq_declines]
    constructor
    · rintro ⟨inside, own, none⟩
      refine .mk ?_ own none
      intro child member
      exact (ih child member).mp (Attempt.map_eq_declines.mp (inside child member))
    · rintro ⟨inside, own, none⟩
      refine ⟨?_, own, none⟩
      intro child member
      exact Attempt.map_eq_declines.mpr ((ih child member).mpr (inside child member))

theorem children_declined {call : SwapCall} {calls : List SwapCall} :
    (∀ child ∈ calls, childLabel call <$> decodeSwapSignal abi monitoredTokens child = .declines) ↔
      ∀ child ∈ calls, Silent abi monitoredTokens child := by
  refine forall₂_congr fun child _ => ?_
  rw [Attempt.map_eq_declines, decodeSwapSignal_eq_declines]

/-- The decoder fails where a leaf call fails that it comes to. -/
theorem decodeSwapSignal_fails {call : SwapCall} :
    (decodeSwapSignal abi monitoredTokens call).Fails ↔
      ∃ p, Tries abi monitoredTokens call p ∧ (probe abi monitoredTokens p).Fails := by
  induction call using call_induction abi with
  | step call ih =>
    rw [decodeSwapSignal_search, Attempt.fails_orElse, Attempt.fails_orElse, Attempt.fails_first, Attempt.fails_map,
      Attempt.fails_first, Attempt.first_eq_declines, children_declined]
    constructor
    · rintro (⟨before, child, after, split, declined, fails⟩ |
        ⟨silent, ⟨before, p, after, split, declined, fails⟩ | ⟨_, fails⟩⟩)
      · obtain ⟨p, tried, failed⟩ := (ih child (by simp [split])).mp (Attempt.fails_map.mp fails)
        exact ⟨p, .inside split (children_declined.mp declined) tried, failed⟩
      · exact ⟨p, .here silent split declined, fails⟩
      · exact absurd fails (Attempt.not_fails_ofOption _)
    · rintro ⟨p, tried, fails⟩
      cases tried with
      | here silent split declined => exact .inr ⟨silent, .inl ⟨_, p, _, split, declined, fails⟩⟩
      | @inside _ child _ _ _ split silent tried =>
        exact .inl ⟨_, child, _, split, children_declined.mpr silent,
          Attempt.fails_map.mpr ((ih child (by simp [split])).mpr ⟨p, tried, fails⟩)⟩

@[simp] theorem childLabel_path (call : SwapCall) (signal : SwapSignal) : (childLabel call signal).path = signal.path := by
  unfold childLabel
  split
  all_goals rfl

@[simp] theorem childLabel_kind (call : SwapCall) (signal : SwapSignal) : (childLabel call signal).kind = signal.kind := by
  unfold childLabel
  split
  all_goals rfl

@[simp] theorem probeLabel_path (call : SwapCall) (signal : SwapSignal) : (probeLabel call signal).path = signal.path := by
  unfold probeLabel
  split
  case h_4 => split <;> rfl
  all_goals rfl

@[simp] theorem probeLabel_kind (call : SwapCall) (signal : SwapSignal) : (probeLabel call signal).kind = signal.kind := by
  unfold probeLabel
  split
  case h_4 => split <;> rfl
  all_goals rfl

/-- A leaf call that gives a signal when the decoder comes to it decides the path and the kind. -/
theorem decodeSwapSignal_of_tries {call : SwapCall} {p : Probe} {found : SwapSignal}
    (tried : Tries abi monitoredTokens call p) (gives : probe abi monitoredTokens p = .gives found) :
    ∃ signal, decodeSwapSignal abi monitoredTokens call = .gives signal ∧ signal.path = found.path ∧
      signal.kind = found.kind := by
  induction tried with
  | @here call before after p silent split declined =>
    refine ⟨probeLabel call found, ?_, probeLabel_path call found, probeLabel_kind call found⟩
    rw [decodeSwapSignal_search, Attempt.orElse_eq_gives, Attempt.first_eq_declines, children_declined,
      Attempt.orElse_eq_gives, Attempt.map_eq_gives]
    exact .inr ⟨silent, .inl ⟨found, Attempt.first_eq_gives.mpr ⟨before, p, after, split, declined, gives⟩, rfl⟩⟩
  | @inside call child before after p split silent tried ih =>
    obtain ⟨signal, decoded, path, kind⟩ := ih gives
    refine ⟨childLabel call signal, ?_, (childLabel_path call signal).trans path, (childLabel_kind call signal).trans kind⟩
    rw [decodeSwapSignal_search, Attempt.orElse_eq_gives]
    exact .inl (Attempt.first_eq_gives.mpr ⟨before, child, after, split, children_declined.mpr silent,
      Attempt.map_eq_gives.mpr ⟨signal, decoded, rfl⟩⟩)

theorem partialSignal_spec {call : SwapCall} {confidence : ℚ} {source : String} {signal : SwapSignal}
    (found : partialSignal monitoredTokens call confidence source = some signal) :
    signal.selector = call.selector ∧ signal.kind = .v2 := by
  unfold partialSignal decodePartialSwapFromMonitoredTokens at found
  split at found
  · split at found
    · exact absurd found (by simp)
    · cases Option.some.inj found
      exact ⟨rfl, rfl⟩
  · exact absurd found (by simp)

theorem fallback_kind {call : SwapCall} {signal : SwapSignal} (found : fallback abi monitoredTokens call = some signal) :
    signal.kind = .v2 := by
  unfold fallback at found
  split at found
  · obtain ⟨inner, _, found⟩ := Option.bind_eq_some_iff.mp found
    unfold decodeSafeInnerAggregatorPartial at found
    split at found
    · exact absurd found (by simp)
    · split at found
      · exact (partialSignal_spec found).2
      · exact (partialSignal_spec found).2
  · split at found
    · exact (partialSignal_spec found).2
    · exact absurd found (by simp)
  · exact absurd found (by simp)

/-- A signal of V3 comes from a leaf call that the decoder came to. -/
theorem tries_of_decodeSwapSignal {call : SwapCall} {signal : SwapSignal}
    (decoded : decodeSwapSignal abi monitoredTokens call = .gives signal) (v3 : signal.kind ≠ .v2) :
    ∃ p found, Tries abi monitoredTokens call p ∧ probe abi monitoredTokens p = .gives found ∧
      signal.path = found.path ∧ signal.kind = found.kind := by
  induction call using call_induction abi generalizing signal with
  | step call ih =>
    rw [decodeSwapSignal_search, Attempt.orElse_eq_gives, Attempt.orElse_eq_gives, Attempt.first_eq_declines,
      children_declined, Attempt.map_eq_gives, Attempt.ofOption_eq_gives] at decoded
    rcases decoded with inside | ⟨silent, ⟨found, own, rfl⟩ | ⟨_, last⟩⟩
    · obtain ⟨before, child, after, split, declined, gives⟩ := Attempt.first_eq_gives.mp inside
      obtain ⟨inner, decoded, rfl⟩ := Attempt.map_eq_gives.mp gives
      rw [childLabel_kind] at v3
      obtain ⟨p, found, tried, probed, path, kind⟩ := ih child (by simp [split]) decoded v3
      exact ⟨p, found, .inside split (children_declined.mp declined) tried, probed, (childLabel_path call inner).trans path,
        (childLabel_kind call inner).trans kind⟩
    · obtain ⟨before, p, after, split, declined, gives⟩ := Attempt.first_eq_gives.mp own
      exact ⟨p, found, .here silent split declined, gives, probeLabel_path call found, probeLabel_kind call found⟩
    · exact absurd (fallback_kind last) v3

end

end ArbitrageRuntime
