import ArbitrageRuntime.Executor.Callback
import ArbitrageRuntime.Lib.Environment

namespace ArbitrageRuntime.Executor

open Interaction Interaction.Prog

variable {Data W : Type} {d : Deployment Data} {env : Environment (Storage Data) (@Reply Data) W}
  {s s' : Storage Data} {w w' : W} {request : Request Data}

theorem reaches_ofExcept_bind {α : Type} {value : Except Error α} {f : α → Exec Data Unit} :
    (ofExcept value >>= f).Reaches env request s w s' w' ↔
      ∃ a, value = .ok a ∧ (f a).Reaches env request s w s' w' := by
  cases value with
  | error e => exact ⟨False.elim, fun ⟨_, found, _⟩ => absurd found (by simp)⟩
  | ok a =>
    constructor
    · exact fun rest => ⟨a, rfl, rest⟩
    · rintro ⟨b, found, rest⟩
      cases Except.ok.inj found
      exact rest

/-- A run that gets to another request has had this one answered. -/
theorem reaches_ask_bind {asked : Request Data} {f : Reply asked → Exec Data Unit} (other : asked ≠ request) :
    (ask asked >>= f).Reaches env request s w s' w' ↔
      ∃ reply t v, env asked s w reply t v ∧ (f reply).Reaches env request t v s' w' := by
  constructor
  · rintro (⟨same, _⟩ | rest)
    · exact absurd same other
    · exact rest
  · exact Or.inr

theorem reaches_token0_bind {venue : Address} {f : Address → Exec Data Unit} (other : .token0 venue ≠ request) :
    (token0 venue >>= f).Reaches env request s w s' w' ↔
      ∃ (first : Address) (t : Storage Data) (v : W), env (.token0 venue) s w first t v ∧
        (f first).Reaches env request t v s' w' :=
  reaches_ask_bind other

theorem reaches_token1_bind {venue : Address} {f : Address → Exec Data Unit} (other : .token1 venue ≠ request) :
    (token1 venue >>= f).Reaches env request s w s' w' ↔
      ∃ (second : Address) (t : Storage Data) (v : W), env (.token1 venue) s w second t v ∧
        (f second).Reaches env request t v s' w' :=
  reaches_ask_bind other

/-- The slot is taken before the venue is called. -/
theorem reaches_beginExecution_bind {executionId : Nat} {opening : Opening Data} {f : Unit → Exec Data Unit} :
    (beginExecution executionId opening >>= f).Reaches env request s w s' w' ↔
      ¬ s.executionInProgress = true ∧ (f ()).Reaches env request
        { s with executionInProgress := true, activeExecutionId := executionId, opening := some opening } w s' w' := by
  change ((refuse (s.executionInProgress = true) .executionAlreadyInProgress >>= fun _ =>
    write { s with executionInProgress := true, activeExecutionId := executionId, opening := some opening }) >>=
      f).Reaches env request s w s' w' ↔ _
  unfold refuse
  split
  · rename_i busy
    exact ⟨False.elim, fun ⟨free, _⟩ => free busy⟩
  · rename_i free
    exact ⟨fun rest => ⟨free, rest⟩, And.right⟩

theorem reaches_onlyAuthorizedOperator {msg : Message} {f : Unit → Exec Data Unit} {request : Request Data} :
    (onlyAuthorizedOperator msg >>= f).Reaches env request s w s' w' ↔
      ¬ s.authorizedOperators msg.sender = false ∧ (f ()).Reaches env request s w s' w' :=
  reaches_refuse_bind

/-- The checks with which both start calls begin. -/
theorem accepts_of_reaches {msg : Message} {venue borrowToken profitToken profitRecipient : Address} {borrowAmount : Nat}
    {f : Unit → Exec Data Unit}
    (starts : (onlyAuthorizedOperator msg >>= fun _ =>
      refuse (venue = 0 ∨ borrowToken = 0 ∨ profitToken = 0 ∨ profitRecipient = 0) .zeroAddress >>= fun _ =>
        refuse (borrowAmount = 0) .zeroAmount >>= f).Reaches env request s w s' w') :
    borrowToken ≠ 0 ∧ profitToken ≠ 0 ∧ profitRecipient ≠ 0 ∧ 0 < borrowAmount := by
  obtain ⟨_, named⟩ := reaches_onlyAuthorizedOperator.mp starts
  obtain ⟨nonzero, sized⟩ := reaches_refuse_bind.mp named
  obtain ⟨positive, _⟩ := reaches_refuse_bind.mp sized
  exact ⟨fun zero => nonzero (.inr (.inl zero)), fun zero => nonzero (.inr (.inr (.inl zero))),
    fun zero => nonzero (.inr (.inr (.inr zero))), Nat.pos_of_ne_zero positive⟩

theorem startV2FlashSwap_accepts {msg : Message} {pair borrowToken : Address} {borrowAmount minProfit : Nat}
    {profitToken profitRecipient : Address} {steps : List V2SwapStep} {request : Request Data}
    (starts : (startV2FlashSwap d msg pair borrowToken borrowAmount minProfit profitToken profitRecipient
      steps).Reaches env request s w s' w') :
    borrowToken ≠ 0 ∧ profitToken ≠ 0 ∧ profitRecipient ≠ 0 ∧ 0 < borrowAmount :=
  accepts_of_reaches starts

theorem startV3FlashSwap_accepts {msg : Message} {pool borrowToken : Address} {borrowAmount feeTier minProfit : Nat}
    {profitToken profitRecipient : Address} {steps : List V3SwapStep} {request : Request Data}
    (starts : (startV3FlashSwap d msg pool borrowToken borrowAmount feeTier minProfit profitToken profitRecipient
      steps).Reaches env request s w s' w') :
    borrowToken ≠ 0 ∧ profitToken ≠ 0 ∧ profitRecipient ≠ 0 ∧ 0 < borrowAmount :=
  accepts_of_reaches starts

/-- What the pool of an accepted V3 start call is asked for. -/
theorem startV3FlashSwap_asks {msg : Message} {pool borrowToken : Address} {borrowAmount feeTier minProfit : Nat}
    {profitToken profitRecipient : Address} {steps : List V3SwapStep} {venue recipient : Address} {zeroForOne : Bool}
    {amountSpecified : Int} {sqrtPriceLimitX96 : Nat} {data : Data}
    (starts : (startV3FlashSwap d msg pool borrowToken borrowAmount feeTier minProfit profitToken profitRecipient
      steps).Reaches env (.swapV3 venue recipient zeroForOne amountSpecified sqrtPriceLimitX96 data) s w s' w') :
    ∃ (first second : Address) (t t' : Storage Data) (v v' : W),
      env (.token0 pool) s w first t v ∧ env (.token1 pool) t v second t' v' ∧
      (borrowToken = first ∨ borrowToken = second) ∧ venue = pool ∧ recipient = d.self ∧
      zeroForOne = decide (borrowToken = second) ∧ amountSpecified = -wordAsInt256 borrowAmount ∧
      wordAsInt256 borrowAmount ≠ -2 ^ 255 := by
  obtain ⟨_, named⟩ := reaches_onlyAuthorizedOperator.mp starts
  obtain ⟨_, sized⟩ := reaches_refuse_bind.mp named
  obtain ⟨_, listed⟩ := reaches_refuse_bind.mp sized
  obtain ⟨_, lends⟩ := reaches_refuse_bind.mp listed
  obtain ⟨_, tiered⟩ := reaches_refuse_bind.mp lends
  obtain ⟨_, stepped⟩ := reaches_refuse_bind.mp tiered
  obtain ⟨_, _, asked⟩ := reaches_ofExcept_bind.mp stepped
  obtain ⟨first, t, v, firstAnswer, asked⟩ := (reaches_token0_bind (by simp)).mp asked
  obtain ⟨second, t', v', secondAnswer, rest⟩ := (reaches_token1_bind (by simp)).mp asked
  obtain ⟨member, rest⟩ := reaches_refuse_bind.mp rest
  obtain ⟨_, rest⟩ := reaches_beginExecution_bind.mp rest
  have borrowed : borrowToken = first ∨ borrowToken = second := by
    by_contra neither
    rw [not_or] at neither
    exact member neither
  unfold startV3PoolSwap negatedInt256 at rest
  split at rest
  · exact rest.elim
  · rename_i fits
    rcases rest with ⟨same, _⟩ | ⟨_, _, _, _, ended⟩
    · cases same
      exact ⟨first, second, t, t', v, v', firstAnswer, secondAnswer, borrowed, rfl, rfl, rfl, rfl, fits⟩
    · exact ended.elim

end ArbitrageRuntime.Executor
