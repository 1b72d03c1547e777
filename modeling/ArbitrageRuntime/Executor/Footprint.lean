import ArbitrageRuntime.Executor.Callback

namespace ArbitrageRuntime.Executor

open Interaction Interaction.Prog

variable {Data : Type}

/-- What a callback that pays tokens and sells through the routers asks for, besides approvals. -/
def Request.isTrade : Request Data → Bool
  | .transfer .. | .swapExactTokensForTokens .. | .exactInput .. => true
  | _ => false

section Pieces

variable {asks : Request Data → Prop}

theorem quiet_ask {request : Request Data} (asked : asks request) : (ask request).Quiet asks :=
  ⟨asked, fun _ => trivial⟩

theorem quiet_checkedMul (a b : Nat) : (checkedMul a b : Exec Data Nat).Quiet asks := by
  unfold checkedMul
  split <;> trivial

theorem quiet_checkedAdd (a b : Nat) : (checkedAdd a b : Exec Data Nat).Quiet asks := by
  unfold checkedAdd
  split <;> trivial

theorem quiet_negatedInt256 (amount : Nat) : (negatedInt256 amount : Exec Data Int).Quiet asks := by
  unfold negatedInt256
  split <;> trivial

theorem quiet_onlyOwner (msg : Message) : (onlyOwner msg : Exec Data Unit).Quiet asks :=
  fun _ => Quiet.refuse asks _ _

theorem quiet_onlyAuthorizedOperator (msg : Message) : (onlyAuthorizedOperator msg : Exec Data Unit).Quiet asks :=
  fun _ => Quiet.refuse asks _ _

theorem quiet_transferToken {token recipient : Address} {amount : Nat} (pays : asks (.transfer token recipient amount)) :
    (transferToken token recipient amount : Exec Data Unit).Quiet asks := by
  unfold transferToken
  split
  · trivial
  · exact Quiet.bind (quiet_ask pays) fun _ => Quiet.refuse _ _ _

theorem quiet_payDelta {token pool : Address} {delta : Int} (pays : asks (.transfer token pool delta.toNat)) :
    (payDelta token pool delta : Exec Data Nat).Quiet asks := by
  unfold payDelta
  split
  · exact Quiet.bind (quiet_transferToken pays) fun _ => trivial
  · trivial

theorem quiet_lastReported (stepIndex : Nat) (amounts : List Nat) :
    (lastReported stepIndex amounts : Exec Data Nat).Quiet asks := by
  unfold lastReported
  split <;> trivial

end Pieces

section Trade

variable {d : Deployment Data} {asks : Request Data → Prop} (views : ∀ request, request.isView = true → asks request)
include views

theorem quiet_currentAmountIn (requestedAmount : Nat) (tokenIn : Address) :
    (currentAmountIn d requestedAmount tokenIn).Quiet asks := by
  unfold currentAmountIn
  split
  · exact quiet_ask (views _ rfl)
  · trivial

theorem quiet_forceApprove {token spender : Address} {amount : Nat}
    (approves : ∀ n, asks (.approve token spender n)) : (forceApprove d token spender amount).Quiet asks := by
  refine Quiet.bind (quiet_ask (views _ rfl)) fun current => ?_
  dsimp only
  split
  · trivial
  · have last : (approve token spender amount >>= fun ok =>
        refuse (ok = false) (.stepExecutionFailed u256Max) : Exec Data Unit).Quiet asks :=
      Quiet.bind (quiet_ask (approves _)) fun _ => Quiet.refuse _ _ _
    split
    · exact Quiet.bind (quiet_ask (approves _)) fun _ => Quiet.bind (Quiet.refuse _ _ _) fun _ => last
    · exact last

theorem quiet_checkStepOutput (tokenOut : Address) (beforeOut reported minOut stepIndex : Nat) :
    (checkStepOutput d tokenOut beforeOut reported minOut stepIndex).Quiet asks :=
  Quiet.bind (quiet_ask (views _ rfl)) fun _ => Quiet.bind (Quiet.refuse _ _ _) fun _ =>
    Quiet.bind (Quiet.refuse _ _ _) fun _ => trivial

/-- A step asks for nothing but views, approvals of its router and its swap. -/
theorem quiet_routedStep {router tokenIn tokenOut : Address} {requestedAmount minOut stepIndex : Nat}
    {swap : Nat → Exec Data Nat} (approves : ∀ n, asks (.approve tokenIn router n))
    (swaps : ∀ amountIn, (swap amountIn).Quiet asks) :
    (routedStep d router tokenIn tokenOut requestedAmount minOut stepIndex swap).Quiet asks := by
  refine Quiet.bind (quiet_currentAmountIn views _ _) fun amountIn => Quiet.bind (Quiet.refuse _ _ _) fun _ => ?_
  refine Quiet.bind (quiet_forceApprove views approves) fun _ => ?_
  refine Quiet.bind (quiet_ask (views _ rfl)) fun beforeOut => Quiet.bind (swaps amountIn) fun reported => ?_
  exact quiet_checkStepOutput views _ _ _ _ _

theorem quiet_v2RepaymentAmountIn (pair borrowedToken repaymentToken : Address) (borrowedAmount : Nat) :
    (v2RepaymentAmountIn pair borrowedToken repaymentToken borrowedAmount : Exec Data Nat).Quiet asks := by
  unfold v2RepaymentAmountIn
  split
  · exact Quiet.bind (quiet_checkedMul _ _) fun _ => quiet_checkedAdd _ _
  · refine Quiet.bind (quiet_ask (views _ rfl)) fun first => Quiet.bind (quiet_ask (views _ rfl)) fun second => ?_
    refine Quiet.bind (Quiet.refuse _ _ _) fun _ => Quiet.bind (quiet_ask (views _ rfl)) fun reserves => ?_
    refine Quiet.bind (Quiet.refuse _ _ _) fun _ => Quiet.bind (quiet_checkedMul _ _) fun product => ?_
    refine Quiet.bind (quiet_checkedMul _ _) fun numerator => Quiet.bind (quiet_checkedMul _ _) fun denominator => ?_
    exact quiet_checkedAdd _ _

variable (trades : ∀ request, request.isTrade = true → asks request)
include trades

theorem quiet_executeV2Step {msg : Message} {step : V2SwapStep} {stepIndex : Nat}
    (approves : ∀ token n, asks (.approve token step.router n)) : (executeV2Step d msg step stepIndex).Quiet asks := by
  rcases executeV2Step_cases d msg step stepIndex with ⟨_, fails⟩ | ⟨tokenIn, tokenOut, _, _, routed⟩
  · rw [fails]
    trivial
  · rw [routed]
    refine quiet_routedStep views (approves tokenIn) fun amountIn => ?_
    exact Quiet.bind (quiet_ask (trades _ rfl)) fun amounts => quiet_lastReported stepIndex amounts

theorem quiet_executeV3Step {msg : Message} {step : V3SwapStep} {stepIndex : Nat}
    (approves : ∀ token n, asks (.approve token step.router n)) : (executeV3Step d msg step stepIndex).Quiet asks := by
  rcases executeV3Step_cases d msg step stepIndex with ⟨_, fails⟩ | ⟨tokenIn, tokenOut, _, _, routed⟩
  · rw [fails]
    trivial
  · rw [routed]
    exact quiet_routedStep views (approves tokenIn) fun amountIn => quiet_ask (trades _ rfl)

/-- The step loop approves nothing but the routers of its steps. -/
theorem quiet_runV2Steps {msg : Message} {steps : List V2SwapStep} (stepIndex : Nat)
    (approves : ∀ step ∈ steps, ∀ token n, asks (.approve token step.router n)) :
    (runV2Steps d msg stepIndex steps).Quiet asks := by
  induction steps generalizing stepIndex with
  | nil => trivial
  | cons step rest ih =>
    refine Quiet.bind (quiet_executeV2Step views trades (approves step List.mem_cons_self)) fun _ => ?_
    exact ih (stepIndex + 1) fun later inside => approves later (List.mem_cons_of_mem step inside)

theorem quiet_runV3Steps {msg : Message} {steps : List V3SwapStep} (stepIndex : Nat)
    (approves : ∀ step ∈ steps, ∀ token n, asks (.approve token step.router n)) :
    (runV3Steps d msg stepIndex steps).Quiet asks := by
  induction steps generalizing stepIndex with
  | nil => trivial
  | cons step rest ih =>
    refine Quiet.bind (quiet_executeV3Step views trades (approves step List.mem_cons_self)) fun _ => ?_
    exact ih (stepIndex + 1) fun later inside => approves later (List.mem_cons_of_mem step inside)

theorem quiet_tradeV2 {msg : Message} {ctx : V2CallbackContext} (amount0 amount1 : Nat)
    (approves : ∀ step ∈ ctx.steps, ∀ token n, asks (.approve token step.router n)) :
    (tradeV2 d msg ctx amount0 amount1).Quiet asks := by
  refine Quiet.bind (quiet_ask (views _ rfl)) fun preProfitBalance => ?_
  refine Quiet.bind (quiet_runV2Steps views trades 0 approves) fun _ => Quiet.bind ?_ fun _ => trivial
  refine Quiet.bind (quiet_v2RepaymentAmountIn views _ _ _ _) fun _ => ?_
  exact Quiet.bind (quiet_transferToken (trades _ rfl)) fun _ => trivial

theorem quiet_tradeV3 {msg : Message} {ctx : V3CallbackContext} (amount0Delta amount1Delta : Int)
    (approves : ∀ step ∈ ctx.steps, ∀ token n, asks (.approve token step.router n)) :
    (tradeV3 d msg ctx amount0Delta amount1Delta).Quiet asks := by
  refine Quiet.bind (quiet_ask (views _ rfl)) fun preProfitBalance => ?_
  refine Quiet.bind (quiet_runV3Steps views trades 0 approves) fun _ => Quiet.bind ?_ fun _ => trivial
  refine Quiet.bind (quiet_ask (views _ rfl)) fun first => Quiet.bind (quiet_ask (views _ rfl)) fun second => ?_
  refine Quiet.bind (quiet_payDelta (trades _ rfl)) fun owed0 => Quiet.bind (quiet_payDelta (trades _ rfl)) fun owed1 => ?_
  exact quiet_checkedAdd _ _

end Trade

end ArbitrageRuntime.Executor
