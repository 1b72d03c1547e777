import ArbitrageRuntime.Decoder.UniversalRouter

namespace ArbitrageRuntime

open Abi (Token ParamType)

/-- The commands of a plan that swap. -/
inductive CommandKind
  | v3ExactIn
  | v3ExactOut
  | v2ExactIn
  | v2ExactOut
  deriving DecidableEq

structure SwapCommand where
  kind : CommandKind
  input : Bytes
  deriving DecidableEq

def commandKind (opcode : UInt8) : Option CommandKind :=
  if opcode = 0x00 then some .v3ExactIn
  else if opcode = 0x01 then some .v3ExactOut
  else if opcode = 0x08 then some .v2ExactIn
  else if opcode = 0x09 then some .v2ExactOut
  else none

/-- The commands that a loop over a plan reads, each with its input. -/
def planInputs : Bytes → List Token → List (UInt8 × Bytes)
  | command :: commands, .bytes input :: inputs => (command &&& 0x7f, input) :: planInputs commands inputs
  | _ :: commands, _ :: inputs => planInputs commands inputs
  | _, _ => []

theorem forCommands_eq {α : Type} {visit : UInt8 → Bytes → Except Panic (List α)} {found : UInt8 × Bytes → List α}
    (step : ∀ opcode input, visit opcode input = .ok (found (opcode, input))) (commands : Bytes) (inputs : List Token) :
    forCommands visit commands inputs = .ok ((planInputs commands inputs).flatMap found) := by
  fun_induction forCommands visit commands inputs with
  | case1 command commands input inputs ih =>
    rw [step, ih, planInputs, List.flatMap_cons]
    rfl
  | case2 command commands token inputs notBytes ih =>
    rw [ih, planInputs]
    exact notBytes
  | case3 commands inputs first second =>
    rw [planInputs]
    · rfl
    · exact first
    · exact second

/-- One exchange of a trade. -/
structure Leg where
  tokenIn : Address
  tokenOut : Address
  feeTier : Option Nat
  deriving DecidableEq

/-- What a swap command trades: the amounts at its two ends, its tokens and its exchanges, both in the
order in which the input token is sold. -/
structure SwapTerms where
  amountIn : Nat
  amountOut : Nat
  tokens : List Address
  legs : List Leg

/-- The token that `amount_in` is an amount of. -/
def SwapTerms.inputToken (terms : SwapTerms) : Option Address := terms.tokens.head?

def CommandKind.exactOut : CommandKind → Bool
  | .v3ExactIn | .v2ExactIn => false
  | .v3ExactOut | .v2ExactOut => true

def CommandKind.dex : CommandKind → Dex
  | .v3ExactIn | .v3ExactOut => .v3
  | .v2ExactIn | .v2ExactOut => .v2

/-- The segments of a path. -/
def pathSegments (path : Bytes) : List V3PathSegment :=
  match parseV3PathSegments path with
  | .ok segments => segments
  | .error _ => []

theorem parseV3PathSegments_eq (path : Bytes) : parseV3PathSegments path = .ok (pathSegments path) := by
  obtain ⟨segments, parsed⟩ := parseV3PathSegments_ok path
  rw [pathSegments, parsed]

def v2Legs (path : List Address) : List Leg := (pathPairs path).map fun tokens => ⟨tokens.1, tokens.2, none⟩

/-- An exact output path stands in the calldata from its last token to its first. -/
def v3Legs (path : Bytes) (exactOut : Bool) : List Leg :=
  if exactOut then (pathSegments path).reverse.map fun segment => ⟨segment.tokenOut, segment.tokenIn, some segment.feeTier⟩
  else (pathSegments path).map fun segment => ⟨segment.tokenIn, segment.tokenOut, some segment.feeTier⟩

def legTokens : List Leg → List Address
  | [] => []
  | leg :: rest => leg.tokenIn :: leg.tokenOut :: rest.map Leg.tokenOut

/-- The first amount of a command is the one that is exact. -/
def swapTermsOf (exactOut : Bool) (primary secondary : Nat) (tokens : List Address) (legs : List Leg) : SwapTerms where
  amountIn := if exactOut then secondary else primary
  amountOut := if exactOut then primary else secondary
  tokens := tokens
  legs := legs

section

variable (abi : Abi.Decoder)

def readV2Command (input : Bytes) : Option (Nat × Nat × List Address) := do
  let decoded ← abi.decode v2CommandTypes input
  let primary ← decoded[1]?.bind tokenAsUint
  let secondary ← decoded[2]?.bind tokenAsUint
  let path ← decoded[3]?.bind tokenAsAddressVec
  some (primary, secondary, path)

def readV3Command (input : Bytes) : Option (Nat × Nat × Bytes) := do
  let decoded ← abi.decode v3CommandTypes input
  let primary ← decoded[1]?.bind tokenAsUint
  let secondary ← decoded[2]?.bind tokenAsUint
  let path ← decoded[3]?.bind tokenAsBytes
  some (primary, secondary, path)

def swapTerms (command : SwapCommand) : Option SwapTerms :=
  match command.kind.dex with
  | .v2 => (readV2Command abi command.input).map fun (primary, secondary, path) =>
    swapTermsOf command.kind.exactOut primary secondary path (v2Legs path)
  | .v3 => (readV3Command abi command.input).map fun (primary, secondary, path) =>
    swapTermsOf command.kind.exactOut primary secondary (legTokens (v3Legs path command.kind.exactOut))
      (v3Legs path command.kind.exactOut)

/-- All swap commands of a plan and of the plans inside it, in the order in which they are read. -/
def swapCommands : Nat → Bytes → List Token → List SwapCommand
  | 0, _, _ => []
  | levels + 1, commands, inputs => (planInputs commands inputs).flatMap fun (opcode, input) =>
    match commandKind opcode with
    | some kind => [{ kind := kind, input := input }]
    | none =>
      if opcode = 0x21 then
        match decodeUniversalRouterSubPlan abi input with
        | some (subCommands, subInputs) => swapCommands levels subCommands subInputs
        | none => []
      else []

/-- The hop of an exchange, with the amounts at the ends of the whole command. -/
def SwapTerms.hop (terms : SwapTerms) (kind : CommandKind) (leg : Leg) : UniversalRouterHop where
  dex := kind.dex
  tokenIn := leg.tokenIn
  tokenOut := leg.tokenOut
  amountIn := some terms.amountIn
  amountOut := some terms.amountOut
  feeTier := leg.feeTier
  exactOut := kind.exactOut

def commandHops (command : SwapCommand) : List UniversalRouterHop :=
  match swapTerms abi command with
  | some terms => terms.legs.map (terms.hop command.kind)
  | none => []

variable (selector : Selector) (router : Address)

/-- The signal that the direct collector makes of a command, from its input-side exchange. -/
def directSignal (command : SwapCommand) : Option SwapSignal := do
  let terms ← swapTerms abi command
  match command.kind.dex with
  | .v2 => some (universalRouterSignal selector router terms.amountIn (some terms.amountOut) terms.tokens .v2)
  | .v3 => do
    let leg ← terms.legs.head?
    let feeTier ← leg.feeTier
    if command.kind.exactOut ∧ terms.legs.length ≠ 1 then none
    else some (universalRouterSignal selector router terms.amountIn (some terms.amountOut) [leg.tokenIn, leg.tokenOut]
      (.v3 feeTier (encodeV3Path leg.tokenOut feeTier leg.tokenIn) terms.legs.length command.kind.exactOut))

end

/-! What the source functions compute, in these terms. -/

theorem mapM_tokenAsAddress (path : List Address) : (path.map Token.address).mapM tokenAsAddress = some path := by
  induction path with
  | nil => rfl
  | cons token path ih =>
    rw [List.map_cons, List.mapM_cons, ih]
    rfl

theorem addresses_of_admits {values : List Token} (typed : ∀ value ∈ values, ParamType.address.Admits value) :
    ∃ path : List Address, values = path.map Token.address := by
  induction values with
  | nil => exact ⟨[], rfl⟩
  | cons value values ih =>
    obtain ⟨head, tail⟩ := List.forall_mem_cons.mp typed
    obtain ⟨path, rfl⟩ := ih tail
    cases head with
    | @address token => exact ⟨token :: path, rfl⟩

theorem pathSegments_of_short {path : Bytes} (short : path.length < 43) : pathSegments path = [] := by
  rw [pathSegments, parseV3PathSegments, if_pos short]

/-- A path is parsed as its first segment and the number of all. -/
theorem parseV3Path_eq (path : Bytes) :
    parseV3Path path = .ofOption ((pathSegments path).head?.map fun segment =>
      { tokenIn := segment.tokenIn, edgeTokenOut := segment.tokenOut, firstFeeTier := segment.feeTier,
        hops := (pathSegments path).length }) := by
  by_cases long : 43 ≤ path.length
  · obtain ⟨count, hops⟩ : ∃ count, (path.length - 20) / 23 = count + 1 := ⟨(path.length - 20) / 23 - 1, by omega⟩
    obtain ⟨rest, later⟩ := segmentsFrom_ok path count (0 + 23)
    obtain ⟨segment, first, atIn, atOut, atFee⟩ := segmentsFrom_succ (show 0 + 43 ≤ path.length by omega) later
    have segments : pathSegments path = segment :: rest := by
      rw [pathSegments, parseV3PathSegments, if_neg (by omega), hops, first]
    have length := segmentsFrom_length (by omega) later
    rw [parseV3Path_gives long atIn atOut atFee, segments, hops, List.length_cons, length]
    rfl
  · rw [parseV3Path, Attempt.require_neg long, pathSegments_of_short (by omega)]
    rfl

theorem pathSegments_feeTier_lt {path : Bytes} {segment : V3PathSegment} (member : segment ∈ pathSegments path) :
    segment.feeTier < 2 ^ 24 := by
  by_cases long : 43 ≤ path.length
  · have read := parseV3PathSegments_eq path
    rw [parseV3PathSegments, if_neg (by omega)] at read
    exact segmentsFrom_feeTier_lt read segment member
  · rw [pathSegments_of_short (by omega)] at member
    exact absurd member List.not_mem_nil

section

variable (abi : Abi.Decoder)

theorem readV2Command_eq {input : Bytes} {decoded : List Token} (decodes : abi.decode v2CommandTypes input = some decoded) :
    ∃ primary secondary path, decoded[1]?.bind tokenAsUint = some primary ∧ decoded[2]?.bind tokenAsUint = some secondary ∧
      decoded[3]?.bind tokenAsAddressVec = some path ∧ readV2Command abi input = some (primary, secondary, path) := by
  have typed := abi.typed decodes
  rw [readV2Command, decodes]
  cases typed with | cons recipient typed =>
  cases typed with | cons first typed =>
  cases typed with | cons second typed =>
  cases typed with | cons third typed =>
  cases first with | @uint _ primary =>
  cases second with | @uint _ secondary =>
  cases third with | array addresses =>
  obtain ⟨path, rfl⟩ := addresses_of_admits addresses
  exact ⟨primary, secondary, path, rfl, rfl, mapM_tokenAsAddress path, by
    simp only [Option.bind_eq_bind, Option.bind_some, List.getElem?_cons_succ, List.getElem?_cons_zero, tokenAsUint,
      tokenAsAddressVec, mapM_tokenAsAddress]⟩

theorem readV3Command_eq {input : Bytes} {decoded : List Token} (decodes : abi.decode v3CommandTypes input = some decoded) :
    ∃ primary secondary path, decoded[1]?.bind tokenAsUint = some primary ∧ decoded[2]?.bind tokenAsUint = some secondary ∧
      decoded[3]?.bind tokenAsBytes = some path ∧ readV3Command abi input = some (primary, secondary, path) := by
  have typed := abi.typed decodes
  rw [readV3Command, decodes]
  cases typed with | cons recipient typed =>
  cases typed with | cons first typed =>
  cases typed with | cons second typed =>
  cases typed with | cons third typed =>
  cases first with | @uint _ primary =>
  cases second with | @uint _ secondary =>
  cases third with | @bytes path =>
  exact ⟨primary, secondary, path, rfl, rfl, rfl, rfl⟩

theorem readV2Command_none {input : Bytes} (undecoded : abi.decode v2CommandTypes input = none) :
    readV2Command abi input = none := by
  rw [readV2Command, undecoded]
  rfl

theorem readV3Command_none {input : Bytes} (undecoded : abi.decode v3CommandTypes input = none) :
    readV3Command abi input = none := by
  rw [readV3Command, undecoded]
  rfl

theorem universalRouterV2Hops_eq (kind : CommandKind) (v2 : kind.dex = .v2) (input : Bytes) :
    universalRouterV2Hops abi input kind.exactOut = commandHops abi ⟨kind, input⟩ := by
  cases decodes : abi.decode v2CommandTypes input with
  | none => simp [universalRouterV2Hops, commandHops, swapTerms, v2, decodes, readV2Command_none abi decodes]
  | some decoded =>
    obtain ⟨primary, secondary, path, at1, at2, at3, read⟩ := readV2Command_eq abi decodes
    cases side : kind.exactOut with
    | false =>
      simp [universalRouterV2Hops, commandHops, swapTerms, v2, side, decodes, at1, at2, at3, read, swapTermsOf, v2Legs,
        SwapTerms.hop]
    | true =>
      simp [universalRouterV2Hops, commandHops, swapTerms, v2, side, decodes, at1, at2, at3, read, swapTermsOf, v2Legs,
        SwapTerms.hop]

theorem universalRouterV3Hops_eq (kind : CommandKind) (v3 : kind.dex = .v3) (input : Bytes) :
    universalRouterV3Hops abi input kind.exactOut = .ok (commandHops abi ⟨kind, input⟩) := by
  cases decodes : abi.decode v3CommandTypes input with
  | none => simp [universalRouterV3Hops, commandHops, swapTerms, v3, decodes, readV3Command_none abi decodes]
  | some decoded =>
    obtain ⟨primary, secondary, path, at1, at2, at3, read⟩ := readV3Command_eq abi decodes
    cases side : kind.exactOut with
    | false =>
      simp [universalRouterV3Hops, commandHops, swapTerms, v3, side, decodes, at1, at2, at3, read, swapTermsOf, v3Legs,
        SwapTerms.hop, Function.comp_def, parseV3PathSegments_eq, Bind.bind, Except.bind, pure, Except.pure]
    | true =>
      simp [universalRouterV3Hops, commandHops, swapTerms, v3, side, decodes, at1, at2, at3, read, swapTermsOf, v3Legs,
        SwapTerms.hop, Function.comp_def, parseV3PathSegments_eq, Bind.bind, Except.bind, pure, Except.pure]

variable (selector : Selector) (router : Address)

theorem decodeUniversalRouterV2ExactIn_eq (input : Bytes) :
    decodeUniversalRouterV2ExactIn abi selector router input =
      .ofOption (directSignal abi selector router ⟨.v2ExactIn, input⟩) := by
  cases decodes : abi.decode v2CommandTypes input with
  | none =>
    simp [decodeUniversalRouterV2ExactIn, directSignal, swapTerms, CommandKind.dex, decodes,
      readV2Command_none abi decodes]
  | some decoded =>
    obtain ⟨primary, secondary, path, at1, at2, at3, read⟩ := readV2Command_eq abi decodes
    simp [decodeUniversalRouterV2ExactIn, directSignal, swapTerms, CommandKind.dex, CommandKind.exactOut, decodes, at1,
      at2, at3, read, swapTermsOf, pure]

theorem decodeUniversalRouterV2ExactOut_eq (input : Bytes) :
    decodeUniversalRouterV2ExactOut abi selector router input =
      .ofOption (directSignal abi selector router ⟨.v2ExactOut, input⟩) := by
  cases decodes : abi.decode v2CommandTypes input with
  | none =>
    simp [decodeUniversalRouterV2ExactOut, directSignal, swapTerms, CommandKind.dex, decodes,
      readV2Command_none abi decodes]
  | some decoded =>
    obtain ⟨primary, secondary, path, at1, at2, at3, read⟩ := readV2Command_eq abi decodes
    simp [decodeUniversalRouterV2ExactOut, directSignal, swapTerms, CommandKind.dex, CommandKind.exactOut, decodes, at1,
      at2, at3, read, swapTermsOf, pure]

theorem decodeUniversalRouterV3ExactIn_eq (input : Bytes) :
    decodeUniversalRouterV3ExactIn abi selector router input =
      .ofOption (directSignal abi selector router ⟨.v3ExactIn, input⟩) := by
  cases decodes : abi.decode v3CommandTypes input with
  | none =>
    simp [decodeUniversalRouterV3ExactIn, directSignal, swapTerms, CommandKind.dex, decodes,
      readV3Command_none abi decodes]
  | some decoded =>
    obtain ⟨primary, secondary, path, at1, at2, at3, read⟩ := readV3Command_eq abi decodes
    cases segments : pathSegments path with
    | nil =>
      simp [decodeUniversalRouterV3ExactIn, directSignal, swapTerms, CommandKind.dex, CommandKind.exactOut, decodes, at1,
        at3, read, parseV3Path_eq, swapTermsOf, v3Legs, segments]
    | cons segment rest =>
      simp [decodeUniversalRouterV3ExactIn, directSignal, swapTerms, CommandKind.dex, CommandKind.exactOut, decodes, at1,
        at2, at3, read, parseV3Path_eq, swapTermsOf, v3Legs, segments, pure]

theorem decodeUniversalRouterV3ExactOut_eq (input : Bytes) :
    decodeUniversalRouterV3ExactOut abi selector router input =
      .ofOption (directSignal abi selector router ⟨.v3ExactOut, input⟩) := by
  cases decodes : abi.decode v3CommandTypes input with
  | none =>
    simp [decodeUniversalRouterV3ExactOut, directSignal, swapTerms, CommandKind.dex, decodes,
      readV3Command_none abi decodes]
  | some decoded =>
    obtain ⟨primary, secondary, path, at1, at2, at3, read⟩ := readV3Command_eq abi decodes
    cases segments : pathSegments path with
    | nil =>
      simp [decodeUniversalRouterV3ExactOut, directSignal, swapTerms, CommandKind.dex, CommandKind.exactOut, decodes, at1,
        at2, at3, read, parseV3ExactOutPath, parseV3Path_eq, swapTermsOf, v3Legs, segments]
    | cons segment rest =>
      cases rest with
      | nil =>
        simp [decodeUniversalRouterV3ExactOut, directSignal, swapTerms, CommandKind.dex, CommandKind.exactOut, decodes,
          at1, at2, at3, read, parseV3ExactOutPath, parseV3Path_eq, swapTermsOf, v3Legs, segments, Attempt.require, pure]
      | cons next rest =>
        simp [decodeUniversalRouterV3ExactOut, directSignal, swapTerms, CommandKind.dex, CommandKind.exactOut, decodes,
          at1, at2, at3, read, parseV3ExactOutPath, parseV3Path_eq, swapTermsOf, v3Legs, segments, Attempt.require, pure]

theorem pushed_ofOption (found : Option SwapSignal) : pushed (.ofOption found) = .ok found.toList := by
  cases found with
  | none => rfl
  | some signal => rfl

/-- One command of a plan, for a collector that finds `found` in a swap command and goes on with `collect`
in a plan inside it. -/
def walkStep {α : Type} (found : SwapCommand → List α) (collect : Bytes → List Token → Except Panic (List α))
    (opcode : UInt8) (input : Bytes) : Except Panic (List α) :=
  match commandKind opcode with
  | some kind => .ok (found ⟨kind, input⟩)
  | none =>
    if opcode = 0x21 then
      match decodeUniversalRouterSubPlan abi input with
      | some (subCommands, subInputs) => collect subCommands subInputs
      | none => .ok []
    else .ok []

/-- Whatever walks over a plan in these steps goes through the swap commands of the whole plan. -/
theorem walk_eq {α : Type} {found : SwapCommand → List α} {collect : Nat → Bytes → List Token → Except Panic (List α)}
    (bottom : ∀ commands inputs, collect 0 commands inputs = .ok [])
    (step : ∀ levels commands inputs, collect (levels + 1) commands inputs =
      forCommands (walkStep abi found (collect levels)) commands inputs) (levels : Nat) (commands : Bytes)
    (inputs : List Token) :
    collect levels commands inputs = .ok ((swapCommands abi levels commands inputs).flatMap found) := by
  induction levels generalizing commands inputs with
  | zero => exact bottom commands inputs
  | succ levels ih =>
    rw [step, swapCommands, List.flatMap_assoc]
    refine forCommands_eq ?_ commands inputs
    intro opcode input
    unfold walkStep
    split
    · rename_i kind swaps
      simp [swaps]
    · rename_i other
      simp only [other]
      split
      · cases decodeUniversalRouterSubPlan abi input with
        | none => rfl
        | some plan => exact ih plan.1 plan.2
      · rfl

/-- The direct collector goes through the swap commands. -/
theorem decodeUniversalRouterParts_eq (levels : Nat) (commands : Bytes) (inputs : List Token) :
    decodeUniversalRouterParts abi selector router levels commands inputs =
      .ok ((swapCommands abi levels commands inputs).flatMap fun command =>
        (directSignal abi selector router command).toList) := by
  refine walk_eq abi (fun _ _ => rfl) ?_ levels commands inputs
  intro levels commands inputs
  rw [decodeUniversalRouterParts]
  congr 1
  funext opcode input
  simp only [decodeUniversalRouterV3ExactIn_eq, decodeUniversalRouterV3ExactOut_eq, decodeUniversalRouterV2ExactIn_eq,
    decodeUniversalRouterV2ExactOut_eq, pushed_ofOption, walkStep, commandKind]
  split_ifs <;> rfl

/-- The graph collector goes through the same commands. -/
theorem collectUniversalRouterGraph_eq (levels : Nat) (commands : Bytes) (inputs : List Token) :
    collectUniversalRouterGraph abi levels commands inputs =
      .ok ((swapCommands abi levels commands inputs).flatMap (commandHops abi)) := by
  refine walk_eq abi (fun _ _ => rfl) ?_ levels commands inputs
  intro levels commands inputs
  rw [collectUniversalRouterGraph]
  congr 1
  funext opcode input
  have v3In : universalRouterV3Hops abi input false = .ok (commandHops abi ⟨.v3ExactIn, input⟩) :=
    universalRouterV3Hops_eq abi .v3ExactIn rfl input
  have v3Out : universalRouterV3Hops abi input true = .ok (commandHops abi ⟨.v3ExactOut, input⟩) :=
    universalRouterV3Hops_eq abi .v3ExactOut rfl input
  have v2In : universalRouterV2Hops abi input false = commandHops abi ⟨.v2ExactIn, input⟩ :=
    universalRouterV2Hops_eq abi .v2ExactIn rfl input
  have v2Out : universalRouterV2Hops abi input true = commandHops abi ⟨.v2ExactOut, input⟩ :=
    universalRouterV2Hops_eq abi .v2ExactOut rfl input
  simp only [v3In, v3Out, v2In, v2Out, walkStep, commandKind]
  split_ifs <;> rfl

end

end ArbitrageRuntime
