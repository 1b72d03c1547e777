import ArbitrageRuntime.Decoder.Plan
import Mathlib.Data.List.Forall2

namespace ArbitrageRuntime

open Abi (Token)

section

variable (abi : Abi.Decoder)

theorem swapTerms_v2 {command : SwapCommand} {terms : SwapTerms} (reads : swapTerms abi command = some terms)
    (v2 : command.kind.dex = .v2) : terms.legs = v2Legs terms.tokens := by
  rw [swapTerms, v2] at reads
  obtain ⟨read, _, rfl⟩ := Option.map_eq_some_iff.mp reads
  rfl

theorem v3Legs_feeTier {path : Bytes} {exactOut : Bool} {leg : Leg} (member : leg ∈ v3Legs path exactOut) :
    ∃ feeTier, leg.feeTier = some feeTier := by
  unfold v3Legs at member
  split at member
  all_goals
    obtain ⟨segment, _, rfl⟩ := List.mem_map.mp member
    exact ⟨segment.feeTier, rfl⟩

theorem swapTerms_v3 {command : SwapCommand} {terms : SwapTerms} (reads : swapTerms abi command = some terms)
    (v3 : command.kind.dex = .v3) :
    terms.tokens = legTokens terms.legs ∧ ∀ leg ∈ terms.legs, ∃ feeTier, leg.feeTier = some feeTier := by
  rw [swapTerms, v3] at reads
  obtain ⟨read, _, rfl⟩ := Option.map_eq_some_iff.mp reads
  exact ⟨rfl, fun leg member => v3Legs_feeTier member⟩

theorem v2Legs_eq_cons {path : List Address} {leg : Leg} {rest : List Leg} (legs : v2Legs path = leg :: rest) :
    path.take 2 = [leg.tokenIn, leg.tokenOut] := by
  match path with
  | [] => exact absurd legs (by simp [v2Legs, pathPairs])
  | [_] => exact absurd legs (by simp [v2Legs, pathPairs])
  | first :: second :: later =>
    cases legs
    rfl

theorem v2Legs_of_long {path : List Address} (long : 2 ≤ path.length) : ∃ leg rest, v2Legs path = leg :: rest := by
  match path with
  | [] => exact absurd long (by simp)
  | [_] => exact absurd long (by simp)
  | first :: second :: later => exact ⟨_, _, rfl⟩

/-- The tokens of a command begin with those of its input-side exchange. -/
theorem tokens_of_legs {command : SwapCommand} {terms : SwapTerms} {leg : Leg} {rest : List Leg}
    (reads : swapTerms abi command = some terms) (legs : terms.legs = leg :: rest) :
    terms.tokens.take 2 = [leg.tokenIn, leg.tokenOut] := by
  cases dex : command.kind.dex with
  | v2 => exact v2Legs_eq_cons ((swapTerms_v2 abi reads dex).symm.trans legs)
  | v3 =>
    rw [(swapTerms_v3 abi reads dex).1, legs]
    rfl

theorem inputToken_of_legs {command : SwapCommand} {terms : SwapTerms} {leg : Leg} {rest : List Leg}
    (reads : swapTerms abi command = some terms) (legs : terms.legs = leg :: rest) :
    terms.inputToken = some leg.tokenIn := by
  have two := tokens_of_legs abi reads legs
  cases tokens : terms.tokens with
  | nil => simp [tokens] at two
  | cons token later =>
    rw [tokens, List.take_succ_cons, List.cons.injEq] at two
    rw [SwapTerms.inputToken, tokens, List.head?_cons, two.1]

/-- The commands that the direct collector reads: all of V2, the V3 commands with a whole path, and of
exact output only those over one pool. -/
def ReadDirectly (command : SwapCommand) : Prop :=
  ∃ terms, swapTerms abi command = some terms ∧
    (command.kind.dex = .v2 ∨ terms.legs ≠ [] ∧ (command.kind.exactOut → terms.legs.length = 1))

variable (selector : Selector) (router : Address)

/-- A direct signal shows the whole path of a V2 command or the input-side exchange of a V3 command. -/
theorem directSignal_spec {command : SwapCommand} {signal : SwapSignal}
    (direct : directSignal abi selector router command = some signal) :
    ∃ terms, swapTerms abi command = some terms ∧ signal.selector = selector ∧ signal.amountIn = terms.amountIn ∧
      signal.amountOutMin = some terms.amountOut ∧
      (command.kind.dex = .v2 ∧ signal.kind = .v2 ∧ signal.path = terms.tokens ∨
        command.kind.dex = .v3 ∧ ∃ leg rest feeTier, terms.legs = leg :: rest ∧ leg.feeTier = some feeTier ∧
          (command.kind.exactOut → terms.legs.length = 1) ∧ signal.path = [leg.tokenIn, leg.tokenOut] ∧
          signal.kind = .v3 feeTier (encodeV3Path leg.tokenOut feeTier leg.tokenIn) terms.legs.length
            command.kind.exactOut) := by
  obtain ⟨terms, reads, direct⟩ := Option.bind_eq_some_iff.mp direct
  refine ⟨terms, reads, ?_⟩
  cases dex : command.kind.dex with
  | v2 =>
    rw [dex] at direct
    cases Option.some.inj direct
    exact ⟨rfl, rfl, rfl, .inl ⟨rfl, rfl, rfl⟩⟩
  | v3 =>
    rw [dex] at direct
    obtain ⟨leg, first, direct⟩ := Option.bind_eq_some_iff.mp direct
    obtain ⟨feeTier, fee, direct⟩ := Option.bind_eq_some_iff.mp direct
    obtain ⟨rest, legs⟩ := List.head?_eq_some_iff.mp first
    split at direct
    · exact absurd direct (by simp)
    · rename_i single
      cases Option.some.inj direct
      refine ⟨rfl, rfl, rfl, .inr ⟨rfl, leg, rest, feeTier, legs, fee, ?_, rfl, rfl⟩⟩
      intro exactOut
      by_contra several
      exact single ⟨exactOut, several⟩

theorem directSignal_of_readDirectly {command : SwapCommand} (reads : ReadDirectly abi command) :
    ∃ signal, directSignal abi selector router command = some signal := by
  obtain ⟨terms, read, shape⟩ := reads
  rw [directSignal, read, Option.bind_eq_bind, Option.bind_some]
  cases dex : command.kind.dex with
  | v2 => exact ⟨_, rfl⟩
  | v3 =>
    rcases shape with v2 | ⟨whole, single⟩
    · rw [dex] at v2
      exact absurd v2 (by simp)
    · obtain ⟨leg, rest, legs⟩ := List.exists_cons_of_ne_nil whole
      obtain ⟨feeTier, fee⟩ := (swapTerms_v3 abi read dex).2 leg (by simp [legs])
      have kept : ¬ (command.kind.exactOut = true ∧ terms.legs.length ≠ 1) := by
        rintro ⟨exactOut, several⟩
        exact several (single exactOut)
      simp only [legs, List.head?_cons, Option.bind_eq_bind, Option.bind_some, fee]
      rw [legs] at kept
      rw [if_neg kept]
      exact ⟨_, rfl⟩

theorem readDirectly_iff {command : SwapCommand} :
    ReadDirectly abi command ↔ ∃ signal, directSignal abi selector router command = some signal := by
  constructor
  · exact directSignal_of_readDirectly abi selector router
  · rintro ⟨signal, direct⟩
    obtain ⟨terms, reads, _, _, _, v2 | ⟨_, leg, rest, _, legs, _, single, _⟩⟩ := directSignal_spec abi selector router direct
    · exact ⟨terms, reads, .inl v2.1⟩
    · exact ⟨terms, reads, .inr ⟨by simp [legs], single⟩⟩

end

/-- A signal that describes the same exchange as a hop. -/
def SignalOfHop (signal : SwapSignal) (hop : UniversalRouterHop) : Prop :=
  signal.path.take 2 = [hop.tokenIn, hop.tokenOut] ∧ hop.amountIn = some signal.amountIn ∧
    hop.amountOut = signal.amountOutMin ∧
    match signal.kind with
    | .v2 => hop.dex = .v2
    | .v3 feeTier _ _ exactOut => hop.dex = .v3 ∧ hop.feeTier = some feeTier ∧ hop.exactOut = exactOut

section

variable (abi : Abi.Decoder) (selector : Selector) (router : Address)

/-- A direct signal with two tokens describes the first hop of its command. -/
theorem directSignal_hop {command : SwapCommand} {signal : SwapSignal}
    (direct : directSignal abi selector router command = some signal) (long : 2 ≤ signal.path.length) :
    ∃ hop rest, commandHops abi command = hop :: rest ∧ SignalOfHop signal hop := by
  obtain ⟨terms, reads, _, amountIn, amountOut,
      ⟨v2, kind, path⟩ | ⟨v3, leg, rest, feeTier, legs, fee, _, path, kind⟩⟩ :=
    directSignal_spec abi selector router direct
  · rw [path] at long
    obtain ⟨leg, rest, first⟩ := v2Legs_of_long long
    have legs := (swapTerms_v2 abi reads v2).trans first
    refine ⟨terms.hop command.kind leg, rest.map (terms.hop command.kind), ?_, ?_, ?_, ?_, ?_⟩
    · rw [commandHops, reads]
      simp only [legs, List.map_cons]
    · rw [path]
      exact v2Legs_eq_cons first
    · rw [amountIn]
      rfl
    · rw [amountOut]
      rfl
    · rw [kind]
      exact v2
  · refine ⟨terms.hop command.kind leg, rest.map (terms.hop command.kind), ?_, ?_, ?_, ?_, ?_⟩
    · rw [commandHops, reads]
      simp only [legs, List.map_cons]
    · rw [path]
      rfl
    · rw [amountIn]
      rfl
    · rw [amountOut]
      rfl
    · rw [kind]
      exact ⟨v3, fee, rfl⟩

theorem sublistForall₂_append {α β : Type} {R : α → β → Prop} {xs xs' : List α} {ys ys' : List β}
    (first : List.SublistForall₂ R xs ys) (second : List.SublistForall₂ R xs' ys') :
    List.SublistForall₂ R (xs ++ xs') (ys ++ ys') := by
  induction first with
  | @nil ys =>
    induction ys with
    | nil => exact second
    | cons y ys ih => exact ih.cons_right
  | cons related _ ih => exact .cons related ih
  | cons_right _ ih => exact ih.cons_right

theorem directSignal_sublist (command : SwapCommand) :
    List.SublistForall₂ SignalOfHop
      ((directSignal abi selector router command).toList.filter fun signal => 2 ≤ signal.path.length)
      (commandHops abi command) := by
  cases direct : directSignal abi selector router command with
  | none => exact .nil
  | some signal =>
    by_cases long : 2 ≤ signal.path.length
    · obtain ⟨hop, rest, hops, same⟩ := directSignal_hop abi selector router direct long
      simp only [Option.toList_some, List.filter_cons, long, decide_true, if_true, List.filter_nil, hops]
      exact .cons same .nil
    · simp only [Option.toList_some, List.filter_cons, long, decide_false, Bool.false_eq_true, if_false, List.filter_nil]
      exact .nil

/-- Both collectors go through the same commands of the plan, down to the same depth and up to the same
missing input. The direct signals with two tokens are hops of the graph, in the same order. -/
theorem decodeUniversalRouterParts_sublist_graph (levels : Nat) (commands : Bytes) (inputs : List Token) :
    ∃ signals hops, decodeUniversalRouterParts abi selector router levels commands inputs = .ok signals ∧
      collectUniversalRouterGraph abi levels commands inputs = .ok hops ∧
      List.SublistForall₂ SignalOfHop (signals.filter fun signal => 2 ≤ signal.path.length) hops ∧
      signals = (swapCommands abi levels commands inputs).flatMap (fun command =>
        (directSignal abi selector router command).toList) ∧
      hops = (swapCommands abi levels commands inputs).flatMap (commandHops abi) := by
  refine ⟨_, _, decodeUniversalRouterParts_eq abi selector router levels commands inputs,
    collectUniversalRouterGraph_eq abi levels commands inputs, ?_, rfl, rfl⟩
  induction swapCommands abi levels commands inputs with
  | nil => exact .nil
  | cons command rest ih =>
    rw [List.flatMap_cons, List.flatMap_cons, List.filter_append]
    exact sublistForall₂_append (directSignal_sublist abi selector router command) ih

/-- The swap commands of the plan in the arguments of a call. -/
def planCommands (args : Bytes) : List SwapCommand :=
  match universalRouterPlan abi args with
  | some (commands, inputs) => swapCommands abi 4 commands inputs
  | none => []

/-- The signals that a command of a plan contributes: its direct signal, or one for each of its hops when no
command of the plan has a direct one. -/
def contribution (plan : List SwapCommand) (command : SwapCommand) : List SwapSignal :=
  if plan.flatMap (fun command => (directSignal abi selector router command).toList) = [] then
    (commandHops abi command).filterMap (universalRouterHopToSignal selector router)
  else (directSignal abi selector router command).toList

/-- Every candidate is the contribution of one command. -/
theorem decodeUniversalRouterSwapCandidates_eq (args : Bytes) :
    decodeUniversalRouterSwapCandidates abi selector router args =
      .ok ((planCommands abi args).flatMap (contribution abi selector router (planCommands abi args))) := by
  unfold decodeUniversalRouterSwapCandidates planCommands
  cases universalRouterPlan abi args with
  | none => rfl
  | some plan =>
    obtain ⟨commands, inputs⟩ := plan
    simp only [planCandidates, decodeUniversalRouterParts_eq, decodeUniversalRouterGraphCandidates,
      collectUniversalRouterGraph_eq]
    by_cases none : (swapCommands abi 4 commands inputs).flatMap (fun command =>
        (directSignal abi selector router command).toList) = []
    · have hops : contribution abi selector router (swapCommands abi 4 commands inputs) = fun command =>
          (commandHops abi command).filterMap (universalRouterHopToSignal selector router) := by
        funext command
        exact if_pos none
      simp [hops, none, List.filterMap_flatMap, pure, Except.pure, Bind.bind, Except.bind]
    · have direct : contribution abi selector router (swapCommands abi 4 commands inputs) = fun command =>
          (directSignal abi selector router command).toList := by
        funext command
        exact if_neg none
      simp [direct, none, pure, Except.pure, Bind.bind, Except.bind]

variable {abi selector router}

/-- Where a command is read directly, the contributions are the direct signals. -/
theorem contribution_of_direct {plan : List SwapCommand} {other : SwapCommand} (member : other ∈ plan)
    (reads : ReadDirectly abi other) (command : SwapCommand) :
    contribution abi selector router plan command = (directSignal abi selector router command).toList := by
  obtain ⟨signal, direct⟩ := directSignal_of_readDirectly abi selector router reads
  rw [contribution, if_neg]
  intro none
  have silent := List.flatMap_eq_nil_iff.mp none other member
  rw [direct] at silent
  exact absurd silent (by simp)

theorem contribution_of_none {plan : List SwapCommand} (none : ∀ other ∈ plan, ¬ ReadDirectly abi other)
    (command : SwapCommand) :
    contribution abi selector router plan command =
      (commandHops abi command).filterMap (universalRouterHopToSignal selector router) := by
  rw [contribution, if_pos]
  refine List.flatMap_eq_nil_iff.mpr ?_
  intro other member
  cases direct : directSignal abi selector router other with
  | none => rfl
  | some signal => exact absurd ((readDirectly_iff abi selector router).mpr ⟨signal, direct⟩) (none other member)

/-- The signals of the hops of a command: none when it sells nothing, and one for each exchange otherwise. -/
theorem mem_hopSignals {command : SwapCommand} {signal : SwapSignal} :
    signal ∈ (commandHops abi command).filterMap (universalRouterHopToSignal selector router) ↔
      ∃ terms leg, swapTerms abi command = some terms ∧ leg ∈ terms.legs ∧ terms.amountIn ≠ 0 ∧
        universalRouterHopToSignal selector router (terms.hop command.kind leg) = some signal := by
  rw [List.mem_filterMap]
  constructor
  · rintro ⟨hop, member, shown⟩
    unfold commandHops at member
    split at member
    · rename_i terms reads
      obtain ⟨leg, inside, rfl⟩ := List.mem_map.mp member
      refine ⟨terms, leg, reads, inside, ?_, shown⟩
      intro nothing
      simp [universalRouterHopToSignal, SwapTerms.hop, nothing] at shown
    · exact absurd member (by simp)
  · rintro ⟨terms, leg, reads, inside, _, shown⟩
    refine ⟨terms.hop command.kind leg, ?_, shown⟩
    rw [commandHops, reads]
    exact List.mem_map_of_mem inside

variable (selector router) in
theorem hopToSignal_spec {command : SwapCommand} {terms : SwapTerms} {leg : Leg}
    (reads : swapTerms abi command = some terms) (member : leg ∈ terms.legs) (sells : terms.amountIn ≠ 0) :
    ∃ signal, universalRouterHopToSignal selector router (terms.hop command.kind leg) = some signal ∧
      signal.amountIn = terms.amountIn ∧ signal.path = [leg.tokenIn, leg.tokenOut] := by
  simp only [universalRouterHopToSignal, SwapTerms.hop, Option.bind_eq_bind, Option.bind_some, if_neg sells]
  cases dex : command.kind.dex with
  | v2 => exact ⟨_, rfl, rfl, rfl⟩
  | v3 =>
    obtain ⟨feeTier, fee⟩ := (swapTerms_v3 abi reads dex).2 leg member
    rw [fee]
    exact ⟨_, rfl, rfl, rfl⟩

end

end ArbitrageRuntime
