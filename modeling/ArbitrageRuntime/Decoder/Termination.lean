import ArbitrageRuntime.Decoder.Search

namespace ArbitrageRuntime

open Abi (Token)

/-- A plan of the Universal Router, with the depth at which it is read. -/
structure RouterPlan where
  depth : Nat
  commands : Bytes
  inputs : List Token

section

variable (abi : Abi.Decoder) {α : Type}

/-- The walk over a plan, as both collectors do it. `command` is what a collector does with a command that
is not a plan itself, and `again` stands for the recursive call on a plan inside. -/
def walkPlanWith (command : UInt8 → Bytes → Except Panic (List α)) (again : RouterPlan → Except Panic (List α))
    (plan : RouterPlan) : Except Panic (List α) :=
  if 3 < plan.depth then .ok []
  else
    forCommands (fun opcode input =>
      if opcode = 0x21 then
        match decodeUniversalRouterSubPlan abi input with
        | some (subCommands, subInputs) => again ⟨plan.depth + 1, subCommands, subInputs⟩
        | none => .ok []
      else command opcode input) plan.commands plan.inputs

def partsCommand (selector : Selector) (router : Address) (opcode : UInt8) (input : Bytes) :
    Except Panic (List SwapSignal) :=
  if opcode = 0x00 then pushed (decodeUniversalRouterV3ExactIn abi selector router input)
  else if opcode = 0x01 then pushed (decodeUniversalRouterV3ExactOut abi selector router input)
  else if opcode = 0x08 then pushed (decodeUniversalRouterV2ExactIn abi selector router input)
  else if opcode = 0x09 then pushed (decodeUniversalRouterV2ExactOut abi selector router input)
  else .ok []

def graphCommand (opcode : UInt8) (input : Bytes) : Except Panic (List UniversalRouterHop) :=
  if opcode = 0x00 then universalRouterV3Hops abi input false
  else if opcode = 0x01 then universalRouterV3Hops abi input true
  else if opcode = 0x08 then .ok (universalRouterV2Hops abi input false)
  else if opcode = 0x09 then .ok (universalRouterV2Hops abi input true)
  else .ok []

/-- The body of `decode_universal_router_parts`, with the depth counter of the source. -/
def decodeUniversalRouterPartsWith (selector : Selector) (router : Address) :
    Recursion.Body RouterPlan (Except Panic (List SwapSignal)) :=
  walkPlanWith abi (partsCommand abi selector router)

/-- The body of `collect_universal_router_graph`, with the depth counter of the source. -/
def collectUniversalRouterGraphWith : Recursion.Body RouterPlan (Except Panic (List UniversalRouterHop)) :=
  walkPlanWith abi (graphCommand abi)

/-- A plan is walked at depth three at the most, and a plan inside is walked one level deeper. -/
theorem walkPlanWith_callsOnly (command : UInt8 → Bytes → Except Panic (List α)) (plan : RouterPlan) :
    Recursion.CallsOnly (walkPlanWith abi command) plan
      fun inner => plan.depth ≤ 3 ∧ inner.depth = plan.depth + 1 := by
  intro again again' same
  unfold walkPlanWith
  by_cases deep : 3 < plan.depth
  · rw [if_pos deep, if_pos deep]
  · rw [if_neg deep, if_neg deep]
    congr 1
    funext opcode input
    cases decodeUniversalRouterSubPlan abi input with
    | none => rfl
    | some inner =>
      have call := same ⟨plan.depth + 1, inner.1, inner.2⟩ ⟨by omega, rfl⟩
      simp only [call]

theorem walkPlanWith_shrinks (command : UInt8 → Bytes → Except Panic (List α)) (plan : RouterPlan) :
    Recursion.CallsOnly (walkPlanWith abi command) plan fun inner => 4 - inner.depth < 4 - plan.depth := by
  refine (walkPlanWith_callsOnly abi command plan).mono ?_
  rintro inner ⟨bounded, deeper⟩
  omega

/-- A collector that counts the levels still allowed follows the one that counts the depth. -/
theorem walkPlanWith_solves {command : UInt8 → Bytes → Except Panic (List α)}
    {collect : Nat → Bytes → List Token → Except Panic (List α)}
    (bottom : ∀ commands inputs, collect 0 commands inputs = .ok [])
    (step : ∀ depth commands inputs, depth ≤ 3 → collect (4 - (depth + 1) + 1) commands inputs =
      walkPlanWith abi command (fun inner => collect (4 - inner.depth) inner.commands inner.inputs)
        ⟨depth, commands, inputs⟩) (plan : RouterPlan) :
    collect (4 - plan.depth) plan.commands plan.inputs =
      walkPlanWith abi command (fun inner => collect (4 - inner.depth) inner.commands inner.inputs) plan := by
  by_cases deep : 3 < plan.depth
  · have none : 4 - plan.depth = 0 := by omega
    rw [none, bottom, walkPlanWith, if_pos deep]
  · have levels : 4 - plan.depth = 4 - (plan.depth + 1) + 1 := by omega
    rw [levels]
    exact step plan.depth plan.commands plan.inputs (by omega)

end

section

variable (abi : Abi.Decoder)

theorem decodeUniversalRouterParts_solves (selector : Selector) (router : Address) (plan : RouterPlan) :
    decodeUniversalRouterParts abi selector router (4 - plan.depth) plan.commands plan.inputs =
      decodeUniversalRouterPartsWith abi selector router
        (fun inner => decodeUniversalRouterParts abi selector router (4 - inner.depth) inner.commands inner.inputs)
        plan := by
  refine walkPlanWith_solves abi (fun _ _ => rfl) ?_ plan
  intro depth commands inputs bounded
  have reads : ¬ 3 < depth := by omega
  rw [decodeUniversalRouterParts, walkPlanWith, if_neg reads]
  congr 1
  funext opcode input
  by_cases subPlan : opcode = 0x21
  · simp only [subPlan]
    cases decodeUniversalRouterSubPlan abi input with
    | none => rfl
    | some inner => rfl
  · simp only [subPlan, if_false, partsCommand]

theorem collectUniversalRouterGraph_solves (plan : RouterPlan) :
    collectUniversalRouterGraph abi (4 - plan.depth) plan.commands plan.inputs =
      collectUniversalRouterGraphWith abi
        (fun inner => collectUniversalRouterGraph abi (4 - inner.depth) inner.commands inner.inputs) plan := by
  refine walkPlanWith_solves abi (fun _ _ => rfl) ?_ plan
  intro depth commands inputs bounded
  have reads : ¬ 3 < depth := by omega
  rw [collectUniversalRouterGraph, walkPlanWith, if_neg reads]
  congr 1
  funext opcode input
  by_cases subPlan : opcode = 0x21
  · simp only [subPlan]
    cases decodeUniversalRouterSubPlan abi input with
    | none => rfl
    | some inner => rfl
  · simp only [subPlan, if_false, graphCommand]

/-- The decoder never runs for ever. It calls itself on the nested calls only, whose arguments are shorter,
and the collectors of a Universal Router plan call themselves one level deeper only, down to depth four. -/
theorem decoderRecursion_terminates (monitoredTokens : List MonitoredTokenConfig) :
    ((∀ call, Recursion.CallsOnly (decodeSwapSignalWith abi monitoredTokens) call (· ∈ nestedCalls abi call)) ∧
      (∀ call, ∀ inner ∈ nestedCalls abi call, inner.args.length < call.args.length) ∧
      Recursion.Terminates (decodeSwapSignalWith abi monitoredTokens) (fun call => call.args.length)
        (decodeSwapSignal abi monitoredTokens)) ∧
    (∀ selector router,
      (∀ plan, Recursion.CallsOnly (decodeUniversalRouterPartsWith abi selector router) plan
        fun inner => plan.depth ≤ 3 ∧ inner.depth = plan.depth + 1) ∧
      Recursion.Terminates (decodeUniversalRouterPartsWith abi selector router) (fun plan => 4 - plan.depth)
        fun plan => decodeUniversalRouterParts abi selector router (4 - plan.depth) plan.commands plan.inputs) ∧
    (∀ plan, Recursion.CallsOnly (collectUniversalRouterGraphWith abi) plan
      fun inner => plan.depth ≤ 3 ∧ inner.depth = plan.depth + 1) ∧
    Recursion.Terminates (collectUniversalRouterGraphWith abi) (fun plan => 4 - plan.depth)
      fun plan => collectUniversalRouterGraph abi (4 - plan.depth) plan.commands plan.inputs := by
  refine ⟨⟨decodeSwapSignalWith_callsOnly abi monitoredTokens, fun call inner => nestedCalls_shorter abi, ?_⟩, ?_,
    walkPlanWith_callsOnly abi _, ?_⟩
  · exact Recursion.terminates (decodeSwapSignalWith_shrinks abi monitoredTokens) (decodeSwapSignal_eq abi monitoredTokens)
  · intro selector router
    refine ⟨walkPlanWith_callsOnly abi _, ?_⟩
    exact Recursion.terminates (walkPlanWith_shrinks abi _) (decodeUniversalRouterParts_solves abi selector router)
  · exact Recursion.terminates (walkPlanWith_shrinks abi _) (collectUniversalRouterGraph_solves abi)

end

end ArbitrageRuntime
