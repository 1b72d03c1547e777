import ArbitrageRuntime.Executor.Callback
import ArbitrageRuntime.Lib.Abi
import ArbitrageRuntime.Lib.Lockstep

namespace ArbitrageRuntime.Executor

open Interaction Interaction.Prog

section ExecutionId

/-- What the execution id takes from the chain. -/
structure Chain where
  chainId : Nat
  keccak256 : Bytes → Nat

inductive Packed
  | word (value : Nat)
  | address (value : Address)

/-- `abi.encodePacked` of full words and addresses. -/
def encodePacked (values : List Packed) : Bytes :=
  values.flatMap fun
    | .word value => Abi.word value
    | .address value => Abi.bigEndian 20 value.toNat

/-- The text of the flow kind, `"V2"` or `"V3"`. -/
def FlowKind.text : FlowKind → Bytes
  | .v2 => [86, 50]
  | .v3 => [86, 51]

/-- `_deriveExecutionId` of the combined executor. -/
def Chain.deriveExecutionId (chain : Chain) (self : Address) (flowKind : Nat) (venue borrowToken : Address)
    (borrowAmount minProfit : Nat) (profitToken profitRecipient : Address) (stepCount blockNumber : Nat) : Nat :=
  chain.keccak256 (encodePacked
    [.word flowKind, .word chain.chainId, .address self, .address venue, .address borrowToken, .word borrowAmount,
      .word minProfit, .address profitToken, .address profitRecipient, .word stepCount, .word blockNumber])

/-- A deployment whose execution ids are the hashes that the combined executor takes on its chain. -/
structure ChainDeployment (Data : Type) extends Deployment Data where
  chain : Chain
  derives : ∀ kind, deriveExecutionId kind = chain.deriveExecutionId self (chain.keccak256 kind.text)

end ExecutionId

end ArbitrageRuntime.Executor

namespace ArbitrageRuntime.Split

open Interaction Interaction.Prog Executor

variable {Data σ : Type}

/-- Code of a split executor. The two share their copies of the token helpers word for word. -/
abbrev Code (Data σ : Type) : Type → Type := Prog σ (@Reply Data) Error

def ask (request : Request Data) : Code Data σ (Reply request) := .call request .done

def ofExcept {α : Type} : Except Error α → Code Data σ α
  | .ok value => .done value
  | .error error => .fail error

def checkedMul (a b : Nat) : Code Data σ Nat :=
  if u256Max < a * b then .fail .arithmeticPanic else .done (a * b)

def checkedAdd (a b : Nat) : Code Data σ Nat :=
  if u256Max < a + b then .fail .arithmeticPanic else .done (a + b)

variable (d : Deployment Data)

def balanceOf (token : Address) : Code Data σ Nat := ask (.balanceOf token d.self)

def transferToken (token recipient : Address) (amount : Nat) : Code Data σ Unit :=
  if amount = 0 then .done ()
  else do
    let ok : Bool ← ask (.transfer token recipient amount)
    refuse (ok = false) .repaymentFailed

def forceApprove (token spender : Address) (amount : Nat) : Code Data σ Unit := do
  let current : Nat ← ask (.allowance token d.self spender)
  if amount ≤ current then .done ()
  else do
    if current ≠ 0 then
      let resetOk : Bool ← ask (.approve token spender 0)
      refuse (resetOk = false) (.stepExecutionFailed u256Max)
    let ok : Bool ← ask (.approve token spender amount)
    refuse (ok = false) (.stepExecutionFailed u256Max)

def currentAmountIn (requestedAmount : Nat) (tokenIn : Address) : Code Data σ Nat :=
  if requestedAmount = u256Max then balanceOf d tokenIn else .done requestedAmount

section Alike

variable {d} {related : σ → Storage Data → Prop}

theorem ask_alike (request : Request Data) : (ask request : Code Data σ _).Alike related (Executor.ask request) := by
  exact alike_call fun reply => alike_done

theorem ofExcept_alike {α : Type} (result : Except Error α) :
    (ofExcept result : Code Data σ α).Alike related (Executor.ofExcept result) := by
  cases result with
  | ok value => exact alike_done
  | error error => exact alike_fail

/-- A check that the combined executor makes inside its guards. -/
theorem guard_alike {α β : Type} {condition : Prop} [Decidable condition] {error : Error} {rest : Except Error α}
    {f : Unit → Code Data σ β} {g : α → Exec Data β} (passes : (f ()).Alike related (Executor.ofExcept rest >>= g)) :
    (refuse condition error >>= f).Alike related
      (Executor.ofExcept (if condition then .error error else rest) >>= g) := by
  unfold refuse
  by_cases refused : condition
  · rw [if_pos refused, if_pos refused]
    exact alike_fail
  · rw [if_neg refused, if_neg refused]
    exact passes

theorem checkedMul_alike (a b : Nat) : (checkedMul a b : Code Data σ Nat).Alike related (Executor.checkedMul a b) :=
  alike_ite alike_fail alike_done

theorem checkedAdd_alike (a b : Nat) : (checkedAdd a b : Code Data σ Nat).Alike related (Executor.checkedAdd a b) :=
  alike_ite alike_fail alike_done

theorem balanceOf_alike (token : Address) :
    (balanceOf d token : Code Data σ Nat).Alike related (Executor.balanceOf d token) :=
  ask_alike _

theorem transferToken_alike (token recipient : Address) (amount : Nat) :
    (transferToken token recipient amount : Code Data σ Unit).Alike related
      (Executor.transferToken token recipient amount) := by
  refine alike_ite alike_done ?_
  exact (ask_alike _).bind fun (ok : Bool) => alike_refuse Iff.rfl

theorem forceApprove_alike (token spender : Address) (amount : Nat) :
    (forceApprove d token spender amount : Code Data σ Unit).Alike related
      (Executor.forceApprove d token spender amount) := by
  refine (ask_alike _).bind fun (current : Nat) => alike_ite alike_done ?_
  have approves : (ask (.approve token spender amount) >>= fun (ok : Bool) =>
        refuse (ok = false) (.stepExecutionFailed u256Max) : Code Data σ Unit).Alike related
      (Executor.approve token spender amount >>= fun (ok : Bool) =>
        refuse (ok = false) (.stepExecutionFailed u256Max)) :=
    (ask_alike _).bind fun (ok : Bool) => alike_refuse Iff.rfl
  refine alike_ite ?_ ?_
  · refine (ask_alike _).bind fun (resetOk : Bool) => ?_
    exact (alike_refuse Iff.rfl).bind fun _ => approves
  · exact approves

theorem currentAmountIn_alike (requestedAmount : Nat) (tokenIn : Address) :
    (currentAmountIn d requestedAmount tokenIn : Code Data σ Nat).Alike related
      (Executor.currentAmountIn d requestedAmount tokenIn) :=
  alike_ite (balanceOf_alike tokenIn) alike_done

/-- `_finalizeExecution` pays the profit out and then opens the guard, on both sides. -/
theorem finalize_alike {release : σ → σ} {releaseWhole : Storage Data → Storage Data}
    (released : ∀ s whole, related s whole → related (release s) (releaseWhole whole))
    (profitToken profitRecipient : Address) (grossProfit : Nat) :
    (do if 0 < grossProfit ∧ profitRecipient ≠ d.self then
          transferToken profitToken profitRecipient grossProfit
        let s ← read
        write (release s)
        .done grossProfit : Code Data σ Nat).Alike related
      (do if 0 < grossProfit ∧ profitRecipient ≠ d.self then
            Executor.transferToken profitToken profitRecipient grossProfit
          let whole ← read
          write (releaseWhole whole)
          .done grossProfit) := by
  have closes : (read >>= fun s => write (release s) >>= fun _ => .done grossProfit : Code Data σ Nat).Alike related
      (read >>= fun whole => write (releaseWhole whole) >>= fun _ => .done grossProfit) := by
    refine Alike.read_bind fun s whole held => ?_
    exact (alike_write (released s whole held)).bind fun _ => alike_done
  refine alike_ite ?_ closes
  exact (transferToken_alike _ _ _).bind fun _ => closes

end Alike

end ArbitrageRuntime.Split
