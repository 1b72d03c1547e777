import ArbitrageRuntime.Amm.UniswapV3
import ArbitrageRuntime.Executor.Accounting
import ArbitrageRuntime.Executor.Footprint

namespace ArbitrageRuntime.Executor

open Interaction Interaction.Prog

variable {Data : Type} (d : Deployment Data)

def spend (w : Balances) (token : Address) (amount : Nat) : Balances :=
  fun t => if t = token then w t - amount else w t

/-- The pool names its two tokens, tokens move as they are told, and the router sells the loan for
`sale` profit tokens. -/
def PoolAnswers (pool : V3PoolState) (ctx : V3CallbackContext) (sale : Nat) :
    Environment (Storage Data) (@Reply Data) Balances
  | .token0 _, s, w, (reply : Address), s', w' => reply = pool.token0 ∧ s' = s ∧ w' = w
  | .token1 _, s, w, (reply : Address), s', w' => reply = pool.token1 ∧ s' = s ∧ w' = w
  | .balanceOf token owner, s, w, (reply : Nat), s', w' =>
    (owner = d.self → reply = w token) ∧ reply ≤ u256Max ∧ s' = s ∧ w' = w
  | .transfer token _ amount, s, w, (reply : Bool), s', w' =>
    reply = true ∧ amount ≤ w token ∧ s' = s ∧ w' = spend w token amount
  | .exactInput .., s, w, (reply : Nat), s', w' =>
    reply = sale ∧ ctx.borrowAmount ≤ w ctx.borrowToken ∧ s' = s ∧
      w' = lend (spend w ctx.borrowToken ctx.borrowAmount) ctx.profitToken sale
  | _, s, w, _, s', w' => s' = s ∧ w' = w

variable {d} {pool : V3PoolState} {ctx : V3CallbackContext} {sale : Nat} {s s' : Storage Data} {w w' : Balances}

/-- Everything but a payment and the sale leaves the balances alone. -/
def Request.isIdle : Request Data → Prop
  | .transfer .. | .exactInput .. => False
  | _ => True

theorem poolAnswers_idle (r : Request Data) (t : Storage Data) (v : Balances) (reply : Reply r) (t' : Storage Data)
    (v' : Balances) (idle : r.isIdle) (answered : PoolAnswers d pool ctx sale r t v reply t' v') : t' = t ∧ v' = v := by
  cases r with
  | token0 venue => exact answered.2
  | token1 venue => exact answered.2
  | balanceOf token owner => exact answered.2.2
  | transfer token recipient amount => exact idle.elim
  | exactInput router path recipient deadline amountIn minOut => exact idle.elim
  | _ => exact answered

theorem idle_of_view (r : Request Data) (view : r.isView = true) : r.isIdle := by
  cases r with
  | transfer token recipient amount => exact absurd view (by simp [Request.isView])
  | exactInput router path recipient deadline amountIn minOut => exact absurd view (by simp [Request.isView])
  | _ => trivial

/-- Nothing but its swap moves anything in a step. -/
theorem routedStep_swaps {W : Type} {env : Environment (Storage Data) (@Reply Data) W} {asks : Request Data → Prop}
    {s s' : Storage Data} {w w' : W}
    (frame : ∀ r t v (reply : Reply r) t' v', asks r → env r t v reply t' v' → t' = t ∧ v' = v)
    (views : ∀ request, request.isView = true → asks request) {router tokenIn tokenOut : Address}
    {requestedAmount minOut stepIndex amountOut : Nat} {swap : Nat → Exec Data Nat}
    (approves : ∀ n, asks (.approve tokenIn router n))
    (steps : (routedStep d router tokenIn tokenOut requestedAmount minOut stepIndex swap).Yields env s w amountOut
      s' w') : ∃ amountIn reported, (swap amountIn).Yields env s w reported s' w' := by
  obtain ⟨amountIn, _, _, amount, steps1⟩ := yields_bind.mp steps
  obtain ⟨rfl, rfl⟩ := Quiet.unchanged (quiet_currentAmountIn views _ _) frame amount
  obtain ⟨_, _, _, nonzero, steps2⟩ := yields_bind.mp steps1
  obtain ⟨_, rfl, rfl⟩ := yields_refuse.mp nonzero
  obtain ⟨_, _, _, approved, steps3⟩ := yields_bind.mp steps2
  obtain ⟨rfl, rfl⟩ := Quiet.unchanged (quiet_forceApprove views approves) frame approved
  obtain ⟨beforeOut, _, _, balance, steps4⟩ := yields_bind.mp steps3
  obtain ⟨rfl, rfl⟩ := Quiet.unchanged (quiet_ask (views _ rfl)) frame balance
  obtain ⟨reported, _, _, swaps, checks⟩ := yields_bind.mp steps4
  obtain ⟨rfl, rfl⟩ := Quiet.unchanged (quiet_checkStepOutput views _ _ _ _ _) frame checks
  exact ⟨amountIn, reported, swaps⟩

/-- One step sells the loan. -/
theorem executeV3Step_sells {msg : Message} {step : V3SwapStep} {stepIndex result : Nat}
    (steps : (executeV3Step d msg step stepIndex).Yields (PoolAnswers d pool ctx sale) s w result s' w') :
    ctx.borrowAmount ≤ w ctx.borrowToken ∧
      w' = lend (spend w ctx.borrowToken ctx.borrowAmount) ctx.profitToken sale := by
  rcases executeV3Step_cases d msg step stepIndex with ⟨_, fails⟩ | ⟨tokenIn, tokenOut, _, _, routed⟩
  · rw [fails] at steps
    exact steps.elim
  · rw [routed] at steps
    obtain ⟨amountIn, reported, _, _, _, ⟨_, enough, rfl, rfl⟩, rfl, rfl, rfl⟩ :=
      routedStep_swaps poolAnswers_idle idle_of_view (fun _ => trivial) steps
    exact ⟨enough, rfl⟩

theorem payDelta_owed {token venue : Address} {owed result : Nat}
    (pays : (payDelta token venue owed).Yields (PoolAnswers d pool ctx sale) s w result s' w') :
    s' = s ∧ w' = spend w token owed := by
  unfold payDelta transferToken at pays
  split at pays
  · rename_i positive
    rw [Int.toNat_natCast, if_neg (by omega)] at pays
    obtain ⟨_, _, _, paid, ended⟩ := yields_bind.mp pays
    obtain ⟨_, _, _, ⟨_, _, _, ⟨_, _, rfl, rfl⟩, rfl, rfl, rfl⟩, accepted⟩ := yields_bind.mp paid
    obtain ⟨_, rfl, rfl⟩ := yields_refuse.mp accepted
    exact ended.2
  · rename_i nothing
    have zero : owed = 0 := by omega
    refine ⟨pays.2.1, pays.2.2.trans ?_⟩
    funext t
    simp [spend, zero]

theorem payDelta_lent {token venue : Address} {lent result : Nat}
    (pays : (payDelta token venue (-(lent : Int))).Yields (PoolAnswers d pool ctx sale) s w result s' w') :
    s' = s ∧ w' = w := by
  unfold payDelta at pays
  rw [if_neg (by omega)] at pays
  exact pays.2

/-- The deltas of a pool that lends `lent` and asks for `charge`. -/
def amount0Delta (zeroForOne : Bool) (lent charge : Nat) : Int := if zeroForOne then charge else -lent

def amount1Delta (zeroForOne : Bool) (lent charge : Nat) : Int := if zeroForOne then -lent else charge

/-- The pool is paid its charge in the token it did not lend. -/
theorem settleV3PoolDebt_pays {zeroForOne : Bool} {lent charge result : Nat}
    (settles : (settleV3PoolDebt ctx (amount0Delta zeroForOne lent charge)
      (amount1Delta zeroForOne lent charge)).Yields (PoolAnswers d pool ctx sale) s w result s' w') :
    w' = spend w (if zeroForOne then pool.token0 else pool.token1) charge := by
  obtain ⟨_, _, _, ⟨first, _, _, ⟨firstToken, rfl, rfl⟩, rfl, rfl, rfl⟩, settles1⟩ := yields_bind.mp settles
  obtain ⟨_, _, _, ⟨second, _, _, ⟨secondToken, rfl, rfl⟩, rfl, rfl, rfl⟩, settles2⟩ := yields_bind.mp settles1
  obtain ⟨owed0, _, _, paid0, settles3⟩ := yields_bind.mp settles2
  obtain ⟨owed1, _, _, paid1, summed⟩ := yields_bind.mp settles3
  obtain ⟨_, same⟩ := Quiet.unchanged (quiet_checkedAdd _ _) poolAnswers_idle summed
  cases zeroForOne with
  | true =>
    obtain ⟨rfl, rfl⟩ := payDelta_owed paid0
    obtain ⟨rfl, rfl⟩ := payDelta_lent paid1
    rw [same, firstToken, if_pos rfl]
  | false =>
    obtain ⟨rfl, rfl⟩ := payDelta_lent paid0
    obtain ⟨rfl, rfl⟩ := payDelta_owed paid1
    rw [same, secondToken, if_neg (by decide)]

/-- The profit balance after a callback with one step: the loan has come and gone, the sale has come and
the charge has gone. -/
theorem tradeV3_profitBalance {msg : Message} {step : V3SwapStep} {zeroForOne : Bool} {charge preProfitBalance : Nat}
    {before : Balances} (single : ctx.steps = [step])
    (paid : ctx.profitToken = if zeroForOne then pool.token0 else pool.token1)
    (trades : (tradeV3 d msg ctx (amount0Delta zeroForOne ctx.borrowAmount charge)
      (amount1Delta zeroForOne ctx.borrowAmount charge)).Yields (PoolAnswers d pool ctx sale) s
      (lend before ctx.borrowToken ctx.borrowAmount) preProfitBalance s' w') :
    w' ctx.profitToken = before ctx.profitToken + sale - charge := by
  obtain ⟨_, _, _, sampled, trades1⟩ := yields_bind.mp trades
  obtain ⟨rfl, rfl⟩ := Quiet.unchanged (quiet_ask (idle_of_view _ rfl)) poolAnswers_idle sampled
  obtain ⟨_, _, _, stepped, trades2⟩ := yields_bind.mp trades1
  rw [single] at stepped
  obtain ⟨_, _, _, sold, _, rfl, rfl⟩ := yields_bind.mp stepped
  obtain ⟨_, balances⟩ := executeV3Step_sells sold
  obtain ⟨_, _, _, settled, _, rfl, rfl⟩ := yields_bind.mp trades2
  rw [settleV3PoolDebt_pays settled, ← paid, balances]
  by_cases same : ctx.profitToken = ctx.borrowToken
  · simp [spend, lend, same]
  · simp [spend, lend, same]

end ArbitrageRuntime.Executor
