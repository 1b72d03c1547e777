import ArbitrageRuntime.Decoder.Candidates

namespace ArbitrageRuntime

open Abi (Token)

section

variable (abi : Abi.Decoder) (selector : Selector) (router : Address)

/-- Every signal of a plan carries the amount of the command it comes from, and begins with the token that
this amount is denominated in. -/
def AmountsBelong (args : Bytes) : Prop :=
  ∀ command ∈ planCommands abi args, ∀ signal ∈ contribution abi selector router (planCommands abi args) command,
    ∃ terms, swapTerms abi command = some terms ∧ signal.amountIn = terms.amountIn ∧ signal.path.head? = terms.inputToken

/-- All exchanges of an exact output command that may sell something start in its input token. -/
def StaysInInputToken (command : SwapCommand) : Prop :=
  command.kind = .v3ExactOut → ∀ terms, swapTerms abi command = some terms → terms.amountIn ≠ 0 →
    ∀ leg ∈ terms.legs, some leg.tokenIn = terms.inputToken

variable {abi selector router}

/-- A command that has exchanges and is not read directly is an exact output over several pools. -/
theorem v3ExactOut_of_not_direct {command : SwapCommand} {terms : SwapTerms} {leg : Leg}
    (reads : swapTerms abi command = some terms) (member : leg ∈ terms.legs) (missed : ¬ ReadDirectly abi command) :
    command.kind = .v3ExactOut := by
  have whole : terms.legs ≠ [] := List.ne_nil_of_mem member
  cases kind : command.kind with
  | v3ExactOut => rfl
  | v3ExactIn => exact absurd ⟨terms, reads, .inr ⟨whole, by simp [kind, CommandKind.exactOut]⟩⟩ missed
  | v2ExactIn => exact absurd ⟨terms, reads, .inl (by simp [kind, CommandKind.dex])⟩ missed
  | v2ExactOut => exact absurd ⟨terms, reads, .inl (by simp [kind, CommandKind.dex])⟩ missed

theorem directSignal_amount {command : SwapCommand} {signal : SwapSignal}
    (direct : directSignal abi selector router command = some signal) :
    ∃ terms, swapTerms abi command = some terms ∧ signal.amountIn = terms.amountIn ∧
      signal.path.head? = terms.inputToken := by
  obtain ⟨terms, reads, _, amountIn, _, ⟨_, _, path⟩ | ⟨_, leg, rest, _, legs, _, _, path, _⟩⟩ :=
    directSignal_spec abi selector router direct
  · exact ⟨terms, reads, amountIn, congrArg List.head? path⟩
  · refine ⟨terms, reads, amountIn, ?_⟩
    rw [path, inputToken_of_legs abi reads legs]
    rfl

variable (selector router) in
/-- In a plan that nothing is read directly of, every hop that sells something is shown. -/
theorem hop_contributes {plan : List SwapCommand} (none : ∀ other ∈ plan, ¬ ReadDirectly abi other)
    {command : SwapCommand} {terms : SwapTerms} {leg : Leg} (reads : swapTerms abi command = some terms)
    (inside : leg ∈ terms.legs) (sells : terms.amountIn ≠ 0) :
    ∃ signal ∈ contribution abi selector router plan command, signal.path = [leg.tokenIn, leg.tokenOut] := by
  obtain ⟨signal, shown, _, path⟩ := hopToSignal_spec selector router reads inside sells
  refine ⟨signal, ?_, path⟩
  rw [contribution_of_none none]
  exact mem_hopSignals.mpr ⟨terms, leg, reads, inside, sells, shown⟩

/-- The hops of an exact output path all carry the maximal input of the whole command. Its later hops sell
another token, so that the amounts belong to their token only where such a command is kept out by a direct
signal or never leaves its input token. -/
theorem amountsBelong_iff (abi : Abi.Decoder) (selector : Selector) (router : Address) (args : Bytes) :
    decodeUniversalRouterSwapCandidates abi selector router args =
        .ok ((planCommands abi args).flatMap (contribution abi selector router (planCommands abi args))) ∧
      (AmountsBelong abi selector router args ↔
        (∃ command ∈ planCommands abi args, ReadDirectly abi command) ∨
          ∀ command ∈ planCommands abi args, StaysInInputToken abi command) := by
  refine ⟨decodeUniversalRouterSwapCandidates_eq abi selector router args, ?_⟩
  constructor
  · intro belong
    by_cases direct : ∃ command ∈ planCommands abi args, ReadDirectly abi command
    · exact .inl direct
    · right
      push Not at direct
      intro command member _ terms reads sells leg inside
      obtain ⟨signal, contributed, path⟩ := hop_contributes selector router direct reads inside sells
      obtain ⟨terms', reads', _, head⟩ := belong command member signal contributed
      cases Option.some.inj (reads.symm.trans reads')
      rw [← head, path]
      rfl
  · intro condition command member signal contributed
    by_cases direct : ∃ command ∈ planCommands abi args, ReadDirectly abi command
    · obtain ⟨other, inside, reads⟩ := direct
      rw [contribution_of_direct inside reads, Option.mem_toList] at contributed
      exact directSignal_amount contributed
    · have stays := condition.resolve_left direct command member
      push Not at direct
      rw [contribution_of_none direct] at contributed
      obtain ⟨terms, leg, reads, inside, sells, shown⟩ := mem_hopSignals.mp contributed
      obtain ⟨signal', shown', amountIn, path⟩ := hopToSignal_spec selector router reads inside sells
      cases Option.some.inj (shown.symm.trans shown')
      have kind := v3ExactOut_of_not_direct reads inside (direct command member)
      refine ⟨terms, reads, amountIn, ?_⟩
      rw [path, ← stays kind terms reads sells leg inside]
      rfl

/-- The plan of one exact output over two pools: 0xa1 is sold for 0xb2, and that for 0xc3. -/
def twoPoolInput : Bytes :=
  Abi.encode [.address 1, .uint 5, .uint 7, .bytes (addressBytes 0xc3 ++ [0, 1, 244] ++ addressBytes 0xb2 ++ [0, 1, 244] ++
    addressBytes 0xa1), .bool true]

def twoPoolArgs : Bytes := Abi.encode [.bytes [0x01], .array [.bytes twoPoolInput]]

theorem twoPoolArgs_commands : planCommands Abi.headTailDecoder twoPoolArgs = [⟨.v3ExactOut, twoPoolInput⟩] := by
  decide +kernel

theorem twoPoolInput_terms : ∃ terms, swapTerms Abi.headTailDecoder ⟨.v3ExactOut, twoPoolInput⟩ = some terms ∧
    terms.amountIn = 7 ∧ terms.tokens = [0xa1, 0xb2, 0xc3] ∧
    terms.legs = [⟨0xa1, 0xb2, some 500⟩, ⟨0xb2, 0xc3, some 500⟩] := by
  have terms : (swapTerms Abi.headTailDecoder ⟨.v3ExactOut, twoPoolInput⟩).map (fun terms =>
      (terms.amountIn, terms.tokens, terms.legs)) =
      some (7, [0xa1, 0xb2, 0xc3], [⟨0xa1, 0xb2, some 500⟩, ⟨0xb2, 0xc3, some 500⟩]) := by decide +kernel
  obtain ⟨found, reads, same⟩ := Option.map_eq_some_iff.mp terms
  simp only [Prod.mk.injEq] at same
  exact ⟨found, reads, same⟩

theorem twoPoolInput_not_direct : ¬ ReadDirectly Abi.headTailDecoder ⟨.v3ExactOut, twoPoolInput⟩ := by
  obtain ⟨terms, reads, _, _, legs⟩ := twoPoolInput_terms
  rintro ⟨terms', reads', v2 | ⟨_, single⟩⟩
  · exact absurd v2 (by simp [CommandKind.dex])
  · cases Option.some.inj (reads.symm.trans reads')
    have one := single rfl
    rw [legs] at one
    exact absurd one (by simp)

/-- The second hop of such a plan offers seven units of 0xb2, which is the most that the command pays of
0xa1. -/
theorem twoPoolArgs_amount_of_other_token :
    ¬ AmountsBelong Abi.headTailDecoder .universalRouterExecute 1 twoPoolArgs := by
  intro belong
  obtain ⟨terms, reads, amountIn, tokens, legs⟩ := twoPoolInput_terms
  have sells : terms.amountIn ≠ 0 := by
    rw [amountIn]
    omega
  have second : (⟨0xb2, 0xc3, some 500⟩ : Leg) ∈ terms.legs := by simp [legs]
  have none : ∀ other ∈ planCommands Abi.headTailDecoder twoPoolArgs, ¬ ReadDirectly Abi.headTailDecoder other := by
    rw [twoPoolArgs_commands]
    exact List.forall_mem_singleton.mpr twoPoolInput_not_direct
  obtain ⟨signal, contributed, path⟩ := hop_contributes .universalRouterExecute 1 none reads second sells
  obtain ⟨terms', reads', _, head⟩ :=
    belong ⟨.v3ExactOut, twoPoolInput⟩ (by simp [twoPoolArgs_commands]) signal contributed
  cases Option.some.inj (reads.symm.trans reads')
  rw [path, SwapTerms.inputToken, tokens] at head
  exact absurd head (by decide)

/-- A signal of the plan shows the input-side hop of a command. -/
def InputHopShown (abi : Abi.Decoder) (selector : Selector) (router : Address) (args : Bytes) (command : SwapCommand) :
    Prop :=
  ∃ signals, decodeUniversalRouterSwapCandidates abi selector router args = .ok signals ∧
    ∃ signal ∈ signals, ∃ hop, (commandHops abi command).head? = some hop ∧
      signal.path.take 2 = [hop.tokenIn, hop.tokenOut]

/-- Two commands begin with the same exchange. -/
def BeginAlike (abi : Abi.Decoder) (command other : SwapCommand) : Prop :=
  ∃ terms terms', swapTerms abi command = some terms ∧ swapTerms abi other = some terms' ∧
    terms.tokens.take 2 = terms'.tokens.take 2

theorem directSignal_take {command : SwapCommand} {signal : SwapSignal}
    (direct : directSignal abi selector router command = some signal) :
    ∃ terms, swapTerms abi command = some terms ∧ signal.path.take 2 = terms.tokens.take 2 := by
  obtain ⟨terms, reads, _, _, _, ⟨_, _, path⟩ | ⟨_, leg, rest, _, legs, _, _, path, _⟩⟩ :=
    directSignal_spec abi selector router direct
  · exact ⟨terms, reads, by rw [path]⟩
  · refine ⟨terms, reads, ?_⟩
    rw [path, tokens_of_legs abi reads legs]
    rfl

/-- The hops of a command are its exchanges, all with the same amount. -/
theorem commandHops_sold {command : SwapCommand}
    (sold : ∃ hop ∈ commandHops abi command, ∃ amount, hop.amountIn = some amount ∧ amount ≠ 0) :
    ∃ terms leg rest, swapTerms abi command = some terms ∧ terms.legs = leg :: rest ∧ terms.amountIn ≠ 0 ∧
      (commandHops abi command).head? = some (terms.hop command.kind leg) := by
  obtain ⟨hop, member, amount, amountIn, positive⟩ := sold
  cases reads : swapTerms abi command with
  | none => simp [commandHops, reads] at member
  | some terms =>
    cases legs : terms.legs with
    | nil => simp [commandHops, reads, legs] at member
    | cons leg rest =>
      simp only [commandHops, reads] at member
      obtain ⟨leg', _, rfl⟩ := List.mem_map.mp member
      cases Option.some.inj amountIn
      exact ⟨terms, leg, rest, rfl, legs, positive, by simp [commandHops, reads, legs]⟩

/-- The fallback to hops is taken for the plan as a whole. A command that sells something is shown by its
input-side hop when no command of the plan is read directly, and otherwise only if one that is read directly
begins with the same exchange, as the command itself does when it is read directly. -/
theorem inputHopShown_iff (abi : Abi.Decoder) (selector : Selector) (router : Address) (args : Bytes)
    (command : SwapCommand) (member : command ∈ planCommands abi args)
    (sold : ∃ hop ∈ commandHops abi command, ∃ amount, hop.amountIn = some amount ∧ amount ≠ 0) :
    InputHopShown abi selector router args command ↔
      (∀ other ∈ planCommands abi args, ¬ ReadDirectly abi other) ∨
        ∃ other ∈ planCommands abi args, ReadDirectly abi other ∧ BeginAlike abi other command := by
  have candidates := decodeUniversalRouterSwapCandidates_eq abi selector router args
  obtain ⟨terms, leg, rest, reads, legs, positive, first⟩ := commandHops_sold sold
  have begins := tokens_of_legs abi reads legs
  constructor
  · rintro ⟨signals, found, signal, inside, hop, head, shows⟩
    cases Option.some.inj (first.symm.trans head)
    cases Except.ok.inj (candidates.symm.trans found)
    by_cases direct : ∃ other ∈ planCommands abi args, ReadDirectly abi other
    · right
      obtain ⟨other, known, readsOther⟩ := direct
      obtain ⟨origin, plan, contributed⟩ := List.mem_flatMap.mp inside
      rw [contribution_of_direct known readsOther, Option.mem_toList] at contributed
      obtain ⟨terms', reads', same⟩ := directSignal_take contributed
      exact ⟨origin, plan, (readDirectly_iff abi selector router).mpr ⟨signal, contributed⟩, terms', terms, reads', reads,
        same.symm.trans (shows.trans begins.symm)⟩
    · left
      push Not at direct
      exact direct
  · intro condition
    refine ⟨_, candidates, ?_⟩
    by_cases direct : ∃ other ∈ planCommands abi args, ReadDirectly abi other
    · obtain ⟨other, known, readsOther, terms', terms'', reads', reads'', alike⟩ := condition.resolve_left (by
        push Not
        exact direct)
      cases Option.some.inj (reads.symm.trans reads'')
      obtain ⟨signal, shown⟩ := directSignal_of_readDirectly abi selector router readsOther
      obtain ⟨found, readsFound, same⟩ := directSignal_take shown
      cases Option.some.inj (reads'.symm.trans readsFound)
      refine ⟨signal, List.mem_flatMap.mpr ⟨other, known, ?_⟩, _, first, same.trans (alike.trans begins)⟩
      rw [contribution_of_direct known readsOther, shown]
      exact List.mem_singleton_self signal
    · push Not at direct
      have inside : leg ∈ terms.legs := by simp [legs]
      obtain ⟨signal, contributed, path⟩ := hop_contributes selector router direct reads inside positive
      refine ⟨signal, List.mem_flatMap.mpr ⟨command, member, contributed⟩, _, first, ?_⟩
      rw [path]
      rfl

theorem twoPoolInput_sold : ∃ hop ∈ commandHops Abi.headTailDecoder ⟨.v3ExactOut, twoPoolInput⟩,
    ∃ amount, hop.amountIn = some amount ∧ amount ≠ 0 := by
  obtain ⟨terms, reads, amountIn, _, legs⟩ := twoPoolInput_terms
  refine ⟨terms.hop .v3ExactOut ⟨0xa1, 0xb2, some 500⟩, by simp [commandHops, reads, legs], terms.amountIn, rfl, ?_⟩
  rw [amountIn]
  omega

/-- Alone in its plan, the exact output over two pools is shown by its first hop. -/
theorem twoPoolArgs_inputHopShown :
    InputHopShown Abi.headTailDecoder .universalRouterExecute 1 twoPoolArgs ⟨.v3ExactOut, twoPoolInput⟩ := by
  refine (inputHopShown_iff Abi.headTailDecoder .universalRouterExecute 1 twoPoolArgs ⟨.v3ExactOut, twoPoolInput⟩
    (by simp [twoPoolArgs_commands]) twoPoolInput_sold).mpr (.inl ?_)
  rw [twoPoolArgs_commands]
  exact List.forall_mem_singleton.mpr twoPoolInput_not_direct

/-- A plan with a V2 swap of 0xc3 behind the exact output over two pools. -/
def shadowingArgs : Bytes :=
  Abi.encode [.bytes [0x01, 0x08], .array [.bytes twoPoolInput,
    .bytes (Abi.encode [.address 1, .uint 5, .uint 7, .array [.address 0xc3, .address 0xa1], .bool true])]]

theorem shadowingArgs_paths :
    (decodeUniversalRouterSwapCandidates Abi.headTailDecoder .universalRouterExecute 1 shadowingArgs).toOption.map
      (fun signals => signals.map SwapSignal.path) = some [[0xc3, 0xa1]] := by
  decide +kernel

/-- The V2 swap is the only candidate of that plan, and the sale of 0xa1 before it is not shown. -/
theorem shadowingArgs_exactOut_shadowed :
    (⟨.v3ExactOut, twoPoolInput⟩ : SwapCommand) ∈ planCommands Abi.headTailDecoder shadowingArgs ∧
      (∃ hop ∈ commandHops Abi.headTailDecoder ⟨.v3ExactOut, twoPoolInput⟩,
        ∃ amount, hop.amountIn = some amount ∧ amount ≠ 0) ∧
      ¬ InputHopShown Abi.headTailDecoder .universalRouterExecute 1 shadowingArgs ⟨.v3ExactOut, twoPoolInput⟩ := by
  refine ⟨by decide +kernel, twoPoolInput_sold, ?_⟩
  rintro ⟨signals, found, signal, inside, hop, head, shows⟩
  obtain ⟨terms, reads, _, _, legs⟩ := twoPoolInput_terms
  have paths := shadowingArgs_paths
  rw [found] at paths
  have only : signals.map SwapSignal.path = [[0xc3, 0xa1]] := Option.some.inj paths
  have path : signal.path = [0xc3, 0xa1] := List.mem_singleton.mp (only ▸ List.mem_map_of_mem inside)
  simp only [commandHops, reads, legs, List.map_cons, List.head?_cons] at head
  cases Option.some.inj head
  rw [path] at shows
  exact absurd (show ([0xc3, 0xa1] : List Address) = [0xa1, 0xb2] from shows) (by decide)

end

end ArbitrageRuntime
