import ArbitrageRuntime.Executor.PoolRun

namespace ArbitrageRuntime.Executor

open Interaction Interaction.Prog

variable {Data : Type} (d : Deployment Data)

/-- What honest tokens and routers do themselves: a token moves the amount it was told to move and nothing
else, and a router takes at most what a step offers it and no other token. -/
def Moves : (request : Request Data) → Balances → Reply request → Balances → Prop
  | .transfer token recipient amount, w, (ok : Bool), w' =>
    if ok = true ∧ recipient ≠ d.self then amount ≤ w token ∧ w' = spend w token amount else w' = w
  | .swapExactTokensForTokens _ amountIn _ path _ _, w, _, w' =>
    ∀ token, w token ≤ w' token + if path.head? = some token then amountIn else 0
  | .exactInput _ path _ _ amountIn _, w, _, w' =>
    ∀ token, w token ≤ w' token + if (v3PathTokenIn path).toOption = some token then amountIn else 0
  | _, w, _, w' => w' = w

/-- While a call of the executor is open, whoever has control may pay in and may call the executor again. -/
inductive Meanwhile (reentry : Storage Data → Balances → Storage Data → Balances → Prop) :
    Storage Data → Balances → Storage Data → Balances → Prop
  | rest {s w} : Meanwhile reentry s w s w
  | paid {s w w' s'' w''} : (∀ token, w token ≤ w' token) → Meanwhile reentry s w' s'' w'' →
      Meanwhile reentry s w s'' w''
  | reentered {s w s' w' s'' w''} : reentry s w s' w' → Meanwhile reentry s' w' s'' w'' →
      Meanwhile reentry s w s'' w''

/-- Views tell the truth; any other call moves what it moves, with whatever happens meanwhile. -/
def HonoursAround (reentry : Storage Data → Balances → Storage Data → Balances → Prop) :
    Environment (Storage Data) (@Reply Data) Balances := fun request s w reply s' w' =>
  if request.isView = true then Answers d request s w reply s' w'
  else ∃ t v v', Meanwhile reentry s w t v ∧ Moves d request v reply v' ∧ Meanwhile reentry t v' s' w'

/-- Balances are honoured, with calls of the executor nested so deep: a call during another one is made by
somebody other than the owner, runs the executor's own code and meets honest tokens and routers again. -/
def Honours : Nat → Environment (Storage Data) (@Reply Data) Balances
  | 0 => HonoursAround d fun _ _ _ _ => False
  | depth + 1 => HonoursAround d fun s w s' w' =>
    ∃ call, call.msg.sender ≠ s.owner ∧ (body d call).Yields (Honours depth) s w () s' w'

/-- An execution among tokens and routers that honour balances. -/
structure HonestV2Execution extends V2Execution d where
  depth : Nat
  tradesHonestly : (tradeV2 d callback ctx amount0 amount1).Yields (Honours d depth) opened
    (lend before ctx.borrowToken ctx.borrowAmount) preProfitBalance repaid after
  closesHonestly : (closeExecution d ctx.profitToken ctx.profitRecipient ctx.minProfit preProfitBalance).Yields
    (Honours d depth) repaid after netProfit closed paid

structure HonestV3Execution extends V3Execution d where
  depth : Nat
  tradesHonestly : (tradeV3 d callback ctx amount0Delta amount1Delta).Yields (Honours d depth) opened
    (lend before ctx.borrowToken ctx.borrowAmount) preProfitBalance repaid after
  closesHonestly : (closeExecution d ctx.profitToken ctx.profitRecipient ctx.minProfit preProfitBalance).Yields
    (Honours d depth) repaid after netProfit closed paid

/-- No execution with these tokens, this recipient and this minimum leaves less of the profit token than the
executor held before the loan. -/
def OwnFundsProtected (borrowToken profitToken profitRecipient : Address) (minProfit : Nat) : Prop :=
  (∀ e : HonestV2Execution d, e.ctx.borrowToken = borrowToken → e.ctx.profitToken = profitToken →
    e.ctx.profitRecipient = profitRecipient → e.ctx.minProfit = minProfit → e.before profitToken ≤ e.paid profitToken) ∧
  ∀ e : HonestV3Execution d, e.ctx.borrowToken = borrowToken → e.ctx.profitToken = profitToken →
    e.ctx.profitRecipient = profitRecipient → e.ctx.minProfit = minProfit → e.before profitToken ≤ e.paid profitToken

/-- A loss is refused and nobody is paid, or nothing can run: the start calls refuse zero addresses, and no
balance above zero grows so much. -/
def FundsSafe (borrowToken profitToken profitRecipient : Address) (minProfit : Nat) : Prop :=
  (0 < minProfit ∧ profitRecipient = d.self) ∨ borrowToken = 0 ∨ profitToken = 0 ∨ profitRecipient = 0 ∨
    u256Max ≤ minProfit + if profitToken = borrowToken then 1 else 0

section Kept

variable {d} {s s' : Storage Data} {w w' : Balances}

/-- Without a payout the end of an execution moves nothing. -/
theorem finalizeExecution_keeps {profitToken : Address} {grossProfit netProfit : Nat}
    (ends : (finalizeExecution d profitToken d.self grossProfit).Yields (Answers d) s w netProfit s' w') : w' = w := by
  unfold finalizeExecution at ends
  dsimp only at ends
  split at ends
  · rename_i pays
    exact absurd rfl pays.2
  · exact ends.2.2

theorem closeExecution_keeps {profitToken : Address} {minProfit preProfitBalance netProfit : Nat}
    (closes : (closeExecution d profitToken d.self minProfit preProfitBalance).Yields (Answers d) s w netProfit
      s' w') : w' = w := by
  obtain ⟨post, _, _, balance, rest⟩ := yields_bind.mp closes
  obtain ⟨_, _, rfl, rfl⟩ := yields_balanceOf.mp balance
  obtain ⟨net, _, _, finalized, checked⟩ := yields_bind.mp rest
  obtain ⟨_, _, _, accepted, _, rfl, rfl⟩ := yields_bind.mp checked
  obtain ⟨_, rfl, rfl⟩ := yields_refuse.mp accepted
  exact finalizeExecution_keeps finalized

/-- With a minimum above zero the second sample is above the first, which holds the executor's own funds. -/
theorem Books.protects {borrowToken profitToken profitRecipient : Address} {minProfit before after netProfit paid : Nat}
    (books : Books borrowToken profitToken minProfit before after netProfit) (recipient : profitRecipient ≠ 0)
    (safe : FundsSafe d borrowToken profitToken profitRecipient minProfit)
    (leaves : profitRecipient = d.self → paid = after) : before ≤ paid := by
  obtain ⟨borrow, profit, ⟨loan, positive, difference⟩, enough, word⟩ := books
  rcases safe with ⟨atLeast, own⟩ | zero | zero | zero | large
  · rw [leaves own]
    by_cases same : profitToken = borrowToken
    · rw [if_pos same] at difference
      omega
    · rw [if_neg same] at difference
      omega
  · exact absurd zero borrow
  · exact absurd zero profit
  · exact absurd zero recipient
  · have some : 1 < u256Max := by decide
    by_cases same : profitToken = borrowToken
    · rw [if_pos same] at difference large
      omega
    · rw [if_neg same] at difference large
      omega

theorem HonestV2Execution.protects (e : HonestV2Execution d)
    (safe : FundsSafe d e.ctx.borrowToken e.ctx.profitToken e.ctx.profitRecipient e.ctx.minProfit) :
    e.before e.ctx.profitToken ≤ e.paid e.ctx.profitToken := by
  obtain ⟨_, _, recipient, _⟩ := startV2FlashSwap_accepts e.starts
  refine e.books.protects recipient safe fun own => ?_
  have closes := e.closes
  rw [own] at closes
  rw [closeExecution_keeps closes]

theorem HonestV3Execution.protects (e : HonestV3Execution d)
    (safe : FundsSafe d e.ctx.borrowToken e.ctx.profitToken e.ctx.profitRecipient e.ctx.minProfit) :
    e.before e.ctx.profitToken ≤ e.paid e.ctx.profitToken := by
  obtain ⟨_, _, recipient, _⟩ := startV3FlashSwap_accepts e.starts
  refine e.books.protects recipient safe fun own => ?_
  have closes := e.closes
  rw [own] at closes
  rw [closeExecution_keeps closes]

end Kept

section Honest

variable {d} {reentry : Storage Data → Balances → Storage Data → Balances → Prop} {depth : Nat}

theorem honoursAround_answers (r : Request Data) (t : Storage Data) (v : Balances) (reply : Reply r)
    (t' : Storage Data) (v' : Balances) (honoured : HonoursAround d reentry r t v reply t' v') :
    Answers d r t v reply t' v' := by
  by_cases view : r.isView = true
  · exact (if_pos view).mp honoured
  · cases r with
    | transfer | swapExactTokensForTokens | exactInput | approve | sendNative | swapV2 | swapV3 => trivial
    | _ => exact absurd rfl view

theorem honours_answers (r : Request Data) (t : Storage Data) (v : Balances) (reply : Reply r) (t' : Storage Data)
    (v' : Balances) (honoured : Honours d depth r t v reply t' v') : Answers d r t v reply t' v' := by
  cases depth with
  | zero => exact honoursAround_answers r t v reply t' v' honoured
  | succ depth => exact honoursAround_answers r t v reply t' v' honoured

theorem honoursAround_views : AnswersViews d (HonoursAround d reentry) where
  balanceOf token s w word := (if_pos rfl).mpr (answers_views.balanceOf token s w word)
  view request reply s w isView other := (if_pos isView).mpr (answers_views.view request reply s w isView other)

theorem honours_views : AnswersViews d (Honours d depth) := by
  cases depth with
  | zero => exact honoursAround_views
  | succ depth => exact honoursAround_views

/-- A call that moves something, and then what happens meanwhile. -/
theorem honoursAround_moves {request : Request Data} {reply : Reply request} {s s' : Storage Data}
    {w moved w' : Balances} (other : request.isView ≠ true) (moves : Moves d request w reply moved)
    (after : Meanwhile reentry s moved s' w') : HonoursAround d reentry request s w reply s' w' :=
  (if_neg other).mpr ⟨s, w, moved, .rest, moves, after⟩

theorem honours_moves {request : Request Data} {reply : Reply request} {s : Storage Data} {w moved w' : Balances}
    (other : request.isView ≠ true) (moves : Moves d request w reply moved)
    (gained : ∀ token, moved token ≤ w' token) : Honours d depth request s w reply s w' := by
  cases depth with
  | zero => exact honoursAround_moves other moves (.paid gained .rest)
  | succ depth => exact honoursAround_moves other moves (.paid gained .rest)

end Honest

section Sample

variable {d} {depth held : Nat}

/-- What the executor holds of each token, with the loan of one unit. -/
def lentBalances (held : Nat) (borrowToken : Address) : Balances := lend (fun _ => held) borrowToken 1

/-- The router has sold the loan for one unit of a token nobody asked for, and fills up the profit token to the two
units of the repayment. -/
def soldBalances (held : Nat) (profitToken : Address) : Balances :=
  Function.update (lend (fun _ => held) (profitToken + 1) 1) profitToken 2

/-- The repayment has left, and so many units of the profit token are there after it. -/
def repaidBalances (held : Nat) (profitToken : Address) (left : Nat) : Balances :=
  Function.update (spend (soldBalances held profitToken) profitToken 2) profitToken left

theorem lentBalances_le (held : Nat) (borrowToken token : Address) :
    held ≤ lentBalances held borrowToken token ∧ lentBalances held borrowToken token ≤ held + 1 := by
  unfold lentBalances lend
  dsimp only
  split <;> omega

theorem soldBalances_self (held : Nat) (profitToken : Address) : soldBalances held profitToken profitToken = 2 :=
  Function.update_self ..

theorem soldBalances_next (held : Nat) (profitToken : Address) :
    soldBalances held profitToken (profitToken + 1) = held + 1 := by
  unfold soldBalances
  rw [Function.update_of_ne (succ_ne profitToken)]
  exact if_pos rfl

theorem lentBalances_sold (few : held ≤ 2) (borrowToken profitToken token : Address) :
    lentBalances held borrowToken token ≤
      soldBalances held profitToken token + if [borrowToken, profitToken + 1].head? = some token then 1 else 0 := by
  have sold : held ≤ soldBalances held profitToken token := by
    unfold soldBalances
    by_cases own : token = profitToken
    · subst own
      rw [Function.update_self]
      exact few
    · rw [Function.update_of_ne own, lend]
      split <;> omega
  unfold lentBalances lend
  by_cases loan : token = borrowToken
  · subst loan
    simp only [if_true, List.head?_cons]
    omega
  · rw [if_neg loan]
    exact sold.trans (Nat.le_add_right _ _)

/-- An address that is neither zero, nor the owner's, nor the executor's. -/
theorem exists_other (d : Deployment Data) : ∃ other : Address, other ≠ 0 ∧ other ≠ 1 ∧ other ≠ d.self := by
  by_cases taken : d.self = 2
  · exact ⟨3, by decide, by decide, by rw [taken]; decide⟩
  · exact ⟨2, by decide, by decide, Ne.symm taken⟩

/-- The loan of one unit is sold for another token and repaid with two units of the profit token, whatever anybody
pays in then. -/
theorem tradeV2_repays {pair : Address} (borrowToken profitToken profitRecipient : Address) (minProfit left depth : Nat)
    (other : pair ≠ d.self) (few : held ≤ 2) :
    (tradeV2 d ⟨pair, 0, 0⟩ (contextAt d pair borrowToken profitToken profitRecipient minProfit) 1 0).Yields
      (Honours d depth) (openedAt d pair borrowToken profitToken profitRecipient minProfit)
      (lentBalances held borrowToken) (lentBalances held borrowToken profitToken)
      (openedAt d pair borrowToken profitToken profitRecipient minProfit) (repaidBalances held profitToken left) := by
  have max : 3 ≤ u256Max := by decide
  have lent := lentBalances_le held borrowToken
  have own := lent profitToken
  have next := lent (profitToken + 1)
  have sold := soldBalances_next held profitToken
  have emptied : spend (soldBalances held profitToken) profitToken 2 profitToken = 0 := by
    rw [spend, if_pos rfl, soldBalances_self]
  have routed : Honours d depth (.swapExactTokensForTokens 4 1 1 [borrowToken, profitToken + 1] d.self 0)
      (openedAt d pair borrowToken profitToken profitRecipient minProfit) (lentBalances held borrowToken)
      (show List Nat from [1]) (openedAt d pair borrowToken profitToken profitRecipient minProfit)
      (soldBalances held profitToken) :=
    honours_moves (by simp [Request.isView]) (lentBalances_sold few borrowToken profitToken) fun _ => le_rfl
  have repays : Honours d depth (.transfer profitToken pair 2)
      (openedAt d pair borrowToken profitToken profitRecipient minProfit) (soldBalances held profitToken) true
      (openedAt d pair borrowToken profitToken profitRecipient minProfit) (repaidBalances held profitToken left) := by
    have moves : Moves d (.transfer profitToken pair 2) (soldBalances held profitToken) true
        (spend (soldBalances held profitToken) profitToken 2) := by
      refine (if_pos ⟨rfl, other⟩).mpr ⟨?_, rfl⟩
      rw [soldBalances_self]
    refine honours_moves (by simp [Request.isView]) moves fun token => ?_
    unfold repaidBalances
    by_cases same : token = profitToken
    · subst same
      omega
    · rw [Function.update_of_ne same]
  exact tradeV2_yields honours_views (by omega) routed (by omega) (by omega) (by omega) repays

/-- An execution on that loan, given how it ends. -/
theorem exists_execution_of_closes (d : Deployment Data) {pair borrowToken profitToken profitRecipient : Address}
    {minProfit left netProfit : Nat} {closed : Storage Data} {paid : Balances} (few : held ≤ 2) (venue : pair ≠ 0)
    (other : pair ≠ d.self) (borrow : borrowToken ≠ 0) (profit : profitToken ≠ 0) (recipient : profitRecipient ≠ 0)
    (closes : (closeExecution d profitToken profitRecipient minProfit
      (lentBalances held borrowToken profitToken)).Yields (Honours d depth)
      (openedAt d pair borrowToken profitToken profitRecipient minProfit) (repaidBalances held profitToken left)
      netProfit closed paid) :
    ∃ e : HonestV2Execution d, e.ctx.borrowToken = borrowToken ∧ e.ctx.profitToken = profitToken ∧
      e.ctx.profitRecipient = profitRecipient ∧ e.ctx.minProfit = minProfit ∧ e.before profitToken = held ∧
      e.paid = paid := by
  have trades := tradeV2_repays borrowToken profitToken profitRecipient minProfit left depth other few
  exact ⟨{
    ctx := contextAt d pair borrowToken profitToken profitRecipient minProfit
    start := ⟨1, 0, 0⟩
    callback := ⟨pair, 0, 0⟩
    amount0 := 1
    amount1 := 0
    initial := permissive
    funds := fun _ => held
    opened := openedAt d pair borrowToken profitToken profitRecipient minProfit
    before := fun _ => held
    preProfitBalance := lentBalances held borrowToken profitToken
    repaid := openedAt d pair borrowToken profitToken profitRecipient minProfit
    after := repaidBalances held profitToken left
    netProfit := netProfit
    closed := closed
    paid := paid
    depth := depth
    starts := startV2FlashSwap_sample answers_views venue borrow profit recipient
    guards := openedAt_guards d pair borrowToken profitToken profitRecipient minProfit
    trades := trades.mono honours_answers
    closes := closes.mono honours_answers
    tradesHonestly := trades
    closesHonestly := closes }, rfl, rfl, rfl, rfl, rfl, rfl⟩

/-- With no minimum, nothing more has to come in. -/
theorem exists_losing_execution (d : Deployment Data) {borrowToken profitToken profitRecipient : Address}
    (borrow : borrowToken ≠ 0) (profit : profitToken ≠ 0) (recipient : profitRecipient ≠ 0) :
    ∃ e : HonestV2Execution d, e.ctx.borrowToken = borrowToken ∧ e.ctx.profitToken = profitToken ∧
      e.ctx.profitRecipient = profitRecipient ∧ e.ctx.minProfit = 0 ∧ e.before profitToken = 2 ∧
      e.paid profitToken = 0 := by
  obtain ⟨pair, venue, _, other⟩ := exists_other d
  have views : AnswersViews d (Honours d 0) := honours_views
  have emptied : repaidBalances 2 profitToken 0 profitToken = 0 := Function.update_self ..
  obtain ⟨closed, closes⟩ := closeExecution_yields views emptied (Nat.zero_le _) (Nat.zero_le _)
    fun gained => absurd gained (by omega)
  obtain ⟨e, sameBorrow, sameProfit, sameRecipient, minimum, before, paid⟩ :=
    exists_execution_of_closes d le_rfl venue other borrow profit recipient closes
  exact ⟨e, sameBorrow, sameProfit, sameRecipient, minimum, before, by rw [paid, emptied]⟩

end Sample

section Drained

variable {d} {env : Environment (Storage Data) (@Reply Data) Balances} {s s' : Storage Data} {w w' : Balances}

/-- A context without steps that carries the active id and asks for a repayment in the profit token. -/
def drainingContext (s : Storage Data) (thief profitToken : Address) : V2CallbackContext where
  executionId := s.activeExecutionId
  pair := thief
  borrowToken := profitToken
  borrowAmount := 0
  minProfit := 0
  profitToken := profitToken
  profitRecipient := thief
  steps := []

def drainingCallback (d : Deployment Data) (s : Storage Data) (thief profitToken : Address) (amount0 : Nat) :
    Call Data :=
  ⟨⟨thief, 0, 0⟩, .uniswapV2Call d.self amount0 0 (d.encodeV2 (drainingContext s thief profitToken))⟩

/-- One unit or two are repaid for a loan of none or one. -/
theorem settleV2PairDebt_drains {thief profitToken : Address} {amount0 : Nat}
    (few : amount0 ≤ 1) (pays : env (.transfer profitToken thief (amount0 + 1)) s w true s w') :
    (settleV2PairDebt (drainingContext s thief profitToken) amount0 0).Yields env s w (amount0 + 1) s w' := by
  have owed : (v2RepaymentAmountIn thief profitToken profitToken amount0).Yields env s w (amount0 + 1) s w := by
    unfold v2RepaymentAmountIn
    rw [if_pos rfl]
    rcases Nat.le_one_iff_eq_zero_or_eq_one.mp few with rfl | rfl
    · exact ⟨rfl, rfl, rfl⟩
    · exact ⟨rfl, rfl, rfl⟩
  have reported : (if (if 0 < amount0 then amount0 else 0) = 0 then 0 else if 0 < amount0 then amount0 else 0) =
      amount0 := by
    rcases Nat.le_one_iff_eq_zero_or_eq_one.mp few with rfl | rfl <;> rfl
  unfold settleV2PairDebt
  simp only [drainingContext, reported]
  refine yields_bind.mpr ⟨amount0 + 1, s, w, owed, ?_⟩
  exact yields_bind.mpr ⟨(), s, w', transferToken_yields (Nat.succ_pos _) pays, rfl, rfl, rfl⟩

/-- While an execution is in progress, anybody may have the profit token paid out with a forged callback. -/
theorem drainingCallback_yields (views : AnswersViews d env) {thief profitToken : Address} {amount0 : Nat}
    (inProgress : s.executionInProgress = true) (few : amount0 ≤ 1) (held : w profitToken = amount0 + 1)
    (pays : env (.transfer profitToken thief (amount0 + 1)) s w true s (spend w profitToken (amount0 + 1))) :
    ∃ closed, (body d (drainingCallback d s thief profitToken amount0)).Yields env s w () closed
      (spend w profitToken (amount0 + 1)) := by
  have max : 2 ≤ u256Max := by decide
  have guards : v2Guards d s ⟨thief, 0, 0⟩ d.self (d.encodeV2 (drainingContext s thief profitToken)) =
      .ok (drainingContext s thief profitToken) :=
    v2Guards_eq_ok.mpr ⟨inProgress, rfl, d.decode_encodeV2 _, rfl, rfl⟩
  have word : w profitToken ≤ u256Max := by omega
  have trades : (tradeV2 d ⟨thief, 0, 0⟩ (drainingContext s thief profitToken) amount0 0).Yields env s w
      (w profitToken) s (spend w profitToken (amount0 + 1)) := by
    refine yields_bind.mpr ⟨w profitToken, s, w, balanceOf_yields views word, ?_⟩
    refine yields_bind.mpr ⟨(), s, w, ⟨rfl, rfl, rfl⟩, ?_⟩
    exact yields_bind.mpr ⟨amount0 + 1, s, _, settleV2PairDebt_drains few pays, rfl, rfl, rfl⟩
  have emptied : spend w profitToken (amount0 + 1) profitToken = 0 := by
    rw [spend, if_pos rfl]
    omega
  obtain ⟨closed, closes⟩ : ∃ closed, (closeExecution d profitToken thief 0 (w profitToken)).Yields env s
      (spend w profitToken (amount0 + 1)) (0 - w profitToken) closed (spend w profitToken (amount0 + 1)) :=
    closeExecution_yields views emptied (Nat.zero_le _) (Nat.zero_le _) fun gained => absurd gained (by omega)
  refine ⟨closed, ?_⟩
  change (ofExcept (v2Guards d s ⟨thief, 0, 0⟩ d.self (d.encodeV2 (drainingContext s thief profitToken))) >>= fun ctx =>
    v2Body d ⟨thief, 0, 0⟩ ctx amount0 0 >>= fun _ => Prog.done ()).Yields env s w () closed _
  rw [guards]
  refine yields_bind.mpr ⟨drainingContext s thief profitToken, s, w, ⟨rfl, rfl, rfl⟩, ?_⟩
  exact yields_bind.mpr ⟨_, closed, _, yields_bind.mpr ⟨w profitToken, s, _, trades, closes⟩, rfl, rfl, rfl⟩

/-- The end of an execution that pays its profit to somebody else. -/
theorem closeExecution_pays (views : AnswersViews d env) {profitToken profitRecipient : Address}
    {minProfit preProfitBalance : Nat} (left : w profitToken = preProfitBalance + minProfit) (gained : 0 < minProfit)
    (word : w profitToken ≤ u256Max) (other : profitRecipient ≠ d.self)
    (pays : env (.transfer profitToken profitRecipient minProfit) s w true s' w') :
    ∃ closed, (closeExecution d profitToken profitRecipient minProfit preProfitBalance).Yields env s w minProfit
      closed w' := by
  have gross : (if preProfitBalance < w profitToken then w profitToken - preProfitBalance else 0) = minProfit := by
    rw [if_pos (by omega)]
    omega
  refine ⟨{ s' with executionInProgress := false, activeExecutionId := 0, opening := none },
    yields_bind.mpr ⟨w profitToken, s, w, balanceOf_yields views word, ?_⟩⟩
  refine yields_bind.mpr ⟨minProfit, _, w', ?_,
    yields_bind.mpr ⟨(), _, w', yields_refuse.mpr ⟨by omega, rfl, rfl⟩, rfl, rfl, rfl⟩⟩
  rw [gross]
  unfold finalizeExecution
  dsimp only
  rw [if_pos ⟨gained, other⟩]
  exact yields_bind.mpr ⟨(), s', w', transferToken_yields gained pays, rfl, rfl, rfl⟩

/-- The payout to a recipient that hands control on: while it runs, a forged callback takes the rest. -/
theorem closeExecution_drained {profitToken profitRecipient thief : Address} {minProfit amount0 : Nat}
    (inProgress : s.executionInProgress = true) (stranger : thief ≠ s.owner) (apart : thief ≠ d.self)
    (outside : profitRecipient ≠ d.self) (few : amount0 ≤ 1) (gained : 0 < minProfit)
    (left : w profitToken = amount0 + 1 + minProfit) (word : w profitToken ≤ u256Max) :
    ∃ closed paid, (closeExecution d profitToken profitRecipient minProfit (amount0 + 1)).Yields (Honours d 1) s w
      minProfit closed paid ∧ paid profitToken = 0 := by
  have paidOut : spend w profitToken minProfit profitToken = amount0 + 1 := by
    rw [spend, if_pos rfl, left]
    omega
  have steals : Honours d 0 (.transfer profitToken thief (amount0 + 1)) s (spend w profitToken minProfit) true s
      (spend (spend w profitToken minProfit) profitToken (amount0 + 1)) := by
    refine honours_moves (by simp [Request.isView]) ((if_pos ⟨rfl, apart⟩).mpr ⟨?_, rfl⟩) fun _ => le_rfl
    rw [paidOut]
  have views : AnswersViews d (Honours d 0) := honours_views
  obtain ⟨cleared, drains⟩ := drainingCallback_yields views inProgress few paidOut steals
  have pays : Honours d 1 (.transfer profitToken profitRecipient minProfit) s w true cleared
      (spend (spend w profitToken minProfit) profitToken (amount0 + 1)) := by
    refine honoursAround_moves (by simp [Request.isView]) ((if_pos ⟨rfl, outside⟩).mpr ⟨?_, rfl⟩)
      (.reentered ⟨_, stranger, drains⟩ .rest)
    rw [left]
    omega
  have views' : AnswersViews d (Honours d 1) := honours_views
  obtain ⟨closed, closes⟩ := closeExecution_pays views' left gained word outside pays
  refine ⟨closed, _, closes, ?_⟩
  rw [spend, if_pos rfl, paidOut, Nat.sub_self]

theorem exists_drained_execution (d : Deployment Data) {borrowToken profitToken profitRecipient : Address}
    {minProfit : Nat} (borrow : borrowToken ≠ 0) (profit : profitToken ≠ 0) (recipient : profitRecipient ≠ 0)
    (outside : profitRecipient ≠ d.self) (gained : 0 < minProfit)
    (fits : minProfit + (if profitToken = borrowToken then 1 else 0) < u256Max) :
    ∃ e : HonestV2Execution d, e.ctx.borrowToken = borrowToken ∧ e.ctx.profitToken = profitToken ∧
      e.ctx.profitRecipient = profitRecipient ∧ e.ctx.minProfit = minProfit ∧ e.before profitToken = 1 ∧
      e.paid profitToken = 0 := by
  obtain ⟨pair, venue, stranger, other⟩ := exists_other d
  obtain ⟨amount0, few, sampled, room⟩ : ∃ amount0, amount0 ≤ 1 ∧
      lentBalances 1 borrowToken profitToken = amount0 + 1 ∧ minProfit + amount0 < u256Max := by
    unfold lentBalances lend
    by_cases same : profitToken = borrowToken
    · rw [if_pos same] at fits
      exact ⟨1, le_rfl, if_pos same, fits⟩
    · rw [if_neg same] at fits
      exact ⟨0, zero_le_one, if_neg same, fits⟩
  have left : repaidBalances 1 profitToken (amount0 + 1 + minProfit) profitToken = amount0 + 1 + minProfit :=
    Function.update_self ..
  -- the thief is the pair itself, which may call while the recipient has control
  have inProgress : (openedAt d pair borrowToken profitToken profitRecipient minProfit).executionInProgress = true :=
    rfl
  obtain ⟨closed, paid, closes, emptied⟩ := closeExecution_drained inProgress stranger other outside few gained left
    (by omega)
  rw [← sampled] at closes
  obtain ⟨e, sameBorrow, sameProfit, sameRecipient, minimum, before, rfl⟩ :=
    exists_execution_of_closes d one_le_two venue other borrow profit recipient closes
  exact ⟨e, sameBorrow, sameProfit, sameRecipient, minimum, before, emptied⟩

end Drained

/-- Own funds are safe exactly with a minimum above zero and a profit that stays with the executor, apart from
arguments with which nothing runs. -/
theorem ownFundsProtected_iff (borrowToken profitToken profitRecipient : Address) (minProfit : Nat) :
    OwnFundsProtected d borrowToken profitToken profitRecipient minProfit ↔
      FundsSafe d borrowToken profitToken profitRecipient minProfit := by
  constructor
  · intro protected'
    by_contra unsafe'
    simp only [FundsSafe, not_or, not_and, not_le] at unsafe'
    obtain ⟨leaves, borrow, profit, recipient, fits⟩ := unsafe'
    rcases Nat.eq_zero_or_pos minProfit with zero | atLeast
    · obtain ⟨e, sameBorrow, sameProfit, sameRecipient, minimum, before, paid⟩ :=
        exists_losing_execution d borrow profit recipient
      have kept := protected'.1 e sameBorrow sameProfit sameRecipient (minimum.trans zero.symm)
      omega
    · obtain ⟨e, sameBorrow, sameProfit, sameRecipient, minimum, before, paid⟩ :=
        exists_drained_execution d borrow profit recipient (leaves atLeast) atLeast fits
      have kept := protected'.1 e sameBorrow sameProfit sameRecipient minimum
      omega
  · intro safe
    refine ⟨fun e => ?_, fun e => ?_⟩
    · rintro rfl rfl rfl rfl
      exact e.protects safe
    · rintro rfl rfl rfl rfl
      exact e.protects safe

/-- Token 3 is borrowed, sold away and repaid from the two units of token 5 that the executor held: with no
minimum the execution completes and leaves none. -/
theorem ownFunds_spent_without_minimum : ∃ e : HonestV2Execution plain, e.ctx.borrowToken = 3 ∧
    e.ctx.profitToken = 5 ∧ e.ctx.profitRecipient = 9 ∧ e.ctx.minProfit = 0 ∧ e.before 5 = 2 ∧ e.paid 5 = 0 ∧
    ¬ e.before 5 ≤ e.paid 5 := by
  obtain ⟨e, borrow, profit, recipient, minimum, before, paid⟩ := exists_losing_execution plain
    (show (3 : Address) ≠ 0 by decide) (show (5 : Address) ≠ 0 by decide) (show (9 : Address) ≠ 0 by decide)
  exact ⟨e, borrow, profit, recipient, minimum, before, paid, by omega⟩

end ArbitrageRuntime.Executor
