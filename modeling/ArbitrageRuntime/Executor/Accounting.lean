import ArbitrageRuntime.Executor.Start

namespace ArbitrageRuntime.Executor

open Interaction Interaction.Prog

variable {Data : Type} (d : Deployment Data)

/-- The token balances of the executor. -/
abbrev Balances : Type := Address → Nat

/-- Views change nothing and report balances truthfully. Every other call may come back with any reply,
any storage and any balances: whoever has control may re-enter, pay or take. -/
def Answers : Environment (Storage Data) (@Reply Data) Balances
  | .balanceOf token owner, s, w, (reply : Nat), s', w' =>
    (owner = d.self → reply = w token) ∧ reply ≤ u256Max ∧ s' = s ∧ w' = w
  | .token0 _, s, w, _, s', w' | .token1 _, s, w, _, s', w' | .getReserves _, s, w, _, s', w'
  | .allowance .., s, w, _, s', w' | .nativeBalance, s, w, _, s', w' => s' = s ∧ w' = w
  | _, _, _, _, _, _ => True

/-- What the venue of a flash swap does before it calls back. -/
def lend (w : Balances) (token : Address) (amount : Nat) : Balances :=
  fun t => if t = token then w t + amount else w t

/-- A V2 execution that does not revert: the start call runs up to the swap, the pair lends and calls
back with the context, the steps run and the pair is repaid, and the callback ends. -/
structure V2Execution where
  ctx : V2CallbackContext
  start : Message
  callback : Message
  amount0 : Nat
  amount1 : Nat
  initial : Storage Data
  funds : Balances
  opened : Storage Data
  before : Balances
  preProfitBalance : Nat
  repaid : Storage Data
  after : Balances
  netProfit : Nat
  closed : Storage Data
  paid : Balances
  starts : (startV2FlashSwap d start ctx.pair ctx.borrowToken ctx.borrowAmount ctx.minProfit ctx.profitToken
    ctx.profitRecipient ctx.steps).Reaches (Answers d) (.swapV2 ctx.pair amount0 amount1 d.self (d.encodeV2 ctx))
    initial funds opened before
  guards : v2Guards d opened callback d.self (d.encodeV2 ctx) = .ok ctx
  trades : (tradeV2 d callback ctx amount0 amount1).Yields (Answers d) opened
    (lend before ctx.borrowToken ctx.borrowAmount) preProfitBalance repaid after
  closes : (closeExecution d ctx.profitToken ctx.profitRecipient ctx.minProfit preProfitBalance).Yields (Answers d)
    repaid after netProfit closed paid

structure V3Execution where
  ctx : V3CallbackContext
  start : Message
  callback : Message
  zeroForOne : Bool
  amountSpecified : Int
  sqrtPriceLimitX96 : Nat
  amount0Delta : Int
  amount1Delta : Int
  initial : Storage Data
  funds : Balances
  opened : Storage Data
  before : Balances
  preProfitBalance : Nat
  repaid : Storage Data
  after : Balances
  netProfit : Nat
  closed : Storage Data
  paid : Balances
  starts : (startV3FlashSwap d start ctx.pool ctx.borrowToken ctx.borrowAmount ctx.feeTier ctx.minProfit
    ctx.profitToken ctx.profitRecipient ctx.steps).Reaches (Answers d)
    (.swapV3 ctx.pool d.self zeroForOne amountSpecified sqrtPriceLimitX96 (d.encodeV3 ctx)) initial funds opened before
  guards : v3Guards d opened callback (d.encodeV3 ctx) = .ok ctx
  trades : (tradeV3 d callback ctx amount0Delta amount1Delta).Yields (Answers d) opened
    (lend before ctx.borrowToken ctx.borrowAmount) preProfitBalance repaid after
  closes : (closeExecution d ctx.profitToken ctx.profitRecipient ctx.minProfit preProfitBalance).Yields (Answers d)
    repaid after netProfit closed paid

section Specs

variable {d} {s s' : Storage Data} {w w' : Balances}

theorem yields_balanceOf {token : Address} {result : Nat} :
    (balanceOf d token).Yields (Answers d) s w result s' w' ↔
      result = w token ∧ result ≤ u256Max ∧ s' = s ∧ w' = w := by
  constructor
  · rintro ⟨reply, t, v, ⟨truthful, bounded, rfl, rfl⟩, rfl, rfl, rfl⟩
    exact ⟨truthful rfl, bounded, rfl, rfl⟩
  · rintro ⟨truthful, bounded, rfl, rfl⟩
    exact ⟨result, s', w', ⟨fun _ => truthful, bounded, rfl, rfl⟩, rfl, rfl, rfl⟩

/-- A balance that is sampled before two more stages and returned after them. -/
theorem sample_of_yields {token : Address} {α β : Type} {first : Exec Data α} {second : Exec Data β}
    {sample : Nat} (yields : (balanceOf d token >>= fun sampled => first >>= fun _ => second >>= fun _ =>
      .done sampled).Yields (Answers d) s w sample s' w') : sample = w token := by
  obtain ⟨sampled, _, _, balance, rest⟩ := yields_bind.mp yields
  obtain ⟨_, _, _, _, settled⟩ := yields_bind.mp rest
  obtain ⟨_, _, _, _, ended⟩ := yields_bind.mp settled
  exact ended.1.trans (yields_balanceOf.mp balance).1

/-- The reference balance is the one the callback finds, with the loan already in it. -/
theorem tradeV2_samples {msg : Message} {ctx : V2CallbackContext} {amount0 amount1 preProfitBalance : Nat}
    (trades : (tradeV2 d msg ctx amount0 amount1).Yields (Answers d) s w preProfitBalance s' w') :
    preProfitBalance = w ctx.profitToken :=
  sample_of_yields trades

theorem tradeV3_samples {msg : Message} {ctx : V3CallbackContext} {amount0Delta amount1Delta : Int}
    {preProfitBalance : Nat}
    (trades : (tradeV3 d msg ctx amount0Delta amount1Delta).Yields (Answers d) s w preProfitBalance s' w') :
    preProfitBalance = w ctx.profitToken :=
  sample_of_yields trades

theorem finalizeExecution_returns {profitToken profitRecipient : Address} {grossProfit netProfit : Nat}
    (ends : (finalizeExecution d profitToken profitRecipient grossProfit).Yields (Answers d) s w netProfit s' w') :
    netProfit = grossProfit := by
  unfold finalizeExecution at ends
  dsimp only at ends
  split at ends
  · obtain ⟨_, _, _, _, rest⟩ := yields_bind.mp ends
    exact rest.1
  · exact ends.1

/-- Truncated subtraction of the two samples. -/
theorem closeExecution_returns {profitToken profitRecipient : Address} {minProfit preProfitBalance netProfit : Nat}
    (closes : (closeExecution d profitToken profitRecipient minProfit preProfitBalance).Yields (Answers d)
      s w netProfit s' w') :
    netProfit = w profitToken - preProfitBalance ∧ minProfit ≤ netProfit ∧ w profitToken ≤ u256Max := by
  obtain ⟨post, _, _, balance, rest⟩ := yields_bind.mp closes
  obtain ⟨rfl, bounded, rfl, rfl⟩ := yields_balanceOf.mp balance
  obtain ⟨net, _, _, finalized, checked⟩ := yields_bind.mp rest
  obtain ⟨_, _, _, accepted, rfl, _⟩ := yields_bind.mp checked
  have enough := (yields_refuse.mp accepted).1
  have gross := finalizeExecution_returns finalized
  refine ⟨?_, by omega, bounded⟩
  split at gross
  · exact gross
  · omega

end Specs

/-- What both kinds of execution do with the profit balance: the first sample holds the loan when the
loan is in the profit token, and the check is on the truncated difference. -/
structure Books (borrowToken profitToken : Address) (minProfit before after netProfit : Nat) : Prop where
  borrow_ne : borrowToken ≠ 0
  profit_ne : profitToken ≠ 0
  difference : ∃ loan, 0 < loan ∧ netProfit = after - (if profitToken = borrowToken then before + loan else before)
  enough : minProfit ≤ netProfit
  word : after ≤ u256Max

theorem V2Execution.books (e : V2Execution d) :
    Books e.ctx.borrowToken e.ctx.profitToken e.ctx.minProfit (e.before e.ctx.profitToken) (e.after e.ctx.profitToken)
      e.netProfit := by
  obtain ⟨borrow, profit, _, positive⟩ := startV2FlashSwap_accepts e.starts
  obtain ⟨difference, enough, word⟩ := closeExecution_returns e.closes
  rw [tradeV2_samples e.trades, lend] at difference
  exact ⟨borrow, profit, ⟨e.ctx.borrowAmount, positive, difference⟩, enough, word⟩

theorem V3Execution.books (e : V3Execution d) :
    Books e.ctx.borrowToken e.ctx.profitToken e.ctx.minProfit (e.before e.ctx.profitToken) (e.after e.ctx.profitToken)
      e.netProfit := by
  obtain ⟨borrow, profit, _, positive⟩ := startV3FlashSwap_accepts e.starts
  obtain ⟨difference, enough, word⟩ := closeExecution_returns e.closes
  rw [tradeV3_samples e.trades, lend] at difference
  exact ⟨borrow, profit, ⟨e.ctx.borrowAmount, positive, difference⟩, enough, word⟩

/-- The loan is not in the profit token and a loss is refused, or nothing can run: a zero address is
refused by the start call, and no balance grows by the largest word. -/
def Accountable (borrowToken profitToken : Address) (minProfit : Nat) : Prop :=
  (borrowToken ≠ profitToken ∧ 0 < minProfit) ∨ borrowToken = 0 ∨ profitToken = 0 ∨ u256Max ≤ minProfit

theorem Books.accounted {borrowToken profitToken : Address} {minProfit before after netProfit : Nat}
    (books : Books borrowToken profitToken minProfit before after netProfit)
    (accountable : Accountable borrowToken profitToken minProfit) :
    (netProfit : Int) = (after : Int) - before := by
  obtain ⟨borrow, profit, ⟨loan, positive, difference⟩, enough, word⟩ := books
  have max : 0 < u256Max := by decide
  rcases accountable with ⟨distinct, atLeast⟩ | zero | zero | unreachable
  · rw [if_neg (Ne.symm distinct)] at difference
    omega
  · exact absurd zero borrow
  · exact absurd zero profit
  · by_cases same : profitToken = borrowToken
    · rw [if_pos same] at difference
      omega
    · rw [if_neg same] at difference
      omega

section Sample

variable {d} {env : Environment (Storage Data) (@Reply Data) Balances} {s s' : Storage Data} {w w' : Balances}

variable (d env) in
/-- Views may be answered with anything, balances with the truth. -/
structure AnswersViews : Prop where
  balanceOf : ∀ (token : Address) (s : Storage Data) (w : Balances), w token ≤ u256Max →
    env (.balanceOf token d.self) s w (w token) s w
  view : ∀ (request : Request Data) (reply : Reply request) (s : Storage Data) (w : Balances),
    request.isView = true → (∀ token owner, request ≠ .balanceOf token owner) → env request s w reply s w

theorem answers_views : AnswersViews d (Answers d) where
  balanceOf token s w word := ⟨fun _ => rfl, word, rfl, rfl⟩
  view request reply s w isView other := by
    cases request with
    | balanceOf token owner => exact absurd rfl (other token owner)
    | token0 | token1 | getReserves | allowance | nativeBalance => exact ⟨rfl, rfl⟩
    | _ => exact absurd isView (by simp [Request.isView])

theorem yields_ask {request : Request Data} {reply : Reply request} (answered : env request s w reply s' w') :
    (ask request).Yields env s w reply s' w' :=
  ⟨reply, s', w', answered, rfl, rfl, rfl⟩

theorem transferToken_yields {token recipient : Address} {amount : Nat} (positive : 0 < amount)
    (paid : env (.transfer token recipient amount) s w true s' w') :
    (transferToken token recipient amount).Yields env s w () s' w' := by
  unfold transferToken
  rw [if_neg (by omega)]
  exact yields_bind.mpr ⟨true, s', w', yields_ask paid, yields_refuse.mpr ⟨by simp, rfl, rfl⟩⟩

section Views

variable (views : AnswersViews d env)
include views

theorem balanceOf_yields {token : Address} (word : w token ≤ u256Max) :
    (balanceOf d token).Yields env s w (w token) s w :=
  yields_ask (views.balanceOf token s w word)

/-- A callback that finds enough can end, with its profit paid out. -/
theorem closeExecution_yields {profitToken profitRecipient : Address} {minProfit preProfitBalance post : Nat}
    (left : w profitToken = post) (enough : minProfit ≤ post - preProfitBalance) (word : post ≤ u256Max)
    (pays : 0 < post - preProfitBalance →
      env (.transfer profitToken profitRecipient (post - preProfitBalance)) s w true s w) :
    ∃ closed, (closeExecution d profitToken profitRecipient minProfit preProfitBalance).Yields env s w
      (post - preProfitBalance) closed w := by
  subst left
  have gross : (if preProfitBalance < w profitToken then w profitToken - preProfitBalance else 0) =
      w profitToken - preProfitBalance := by
    split <;> omega
  have checked : ∀ t : Storage Data, (checkMinProfit (w profitToken - preProfitBalance) minProfit :
      Exec Data Unit).Yields env t w () t w := fun t => yields_refuse.mpr ⟨by omega, rfl, rfl⟩
  refine ⟨{ s with executionInProgress := false, activeExecutionId := 0, opening := none },
    yields_bind.mpr ⟨w profitToken, s, w, balanceOf_yields views word, ?_⟩⟩
  refine yields_bind.mpr ⟨w profitToken - preProfitBalance, _, w, ?_,
    yields_bind.mpr ⟨(), _, w, checked _, rfl, rfl, rfl⟩⟩
  rw [gross]
  unfold finalizeExecution
  dsimp only
  split
  · rename_i paid
    exact yields_bind.mpr ⟨(), s, w, transferToken_yields paid.1 (pays paid.1), rfl, rfl, rfl⟩
  · exact ⟨rfl, rfl, rfl⟩

/-- A step of one unit, by a router that has its approval already and reports one unit. -/
theorem executeV2Step_yields {msg : Message} {borrowToken tokenOut : Address} {stepIndex : Nat}
    (routed : env (.swapExactTokensForTokens 4 1 1 [borrowToken, tokenOut] d.self msg.timestamp) s w [1] s w')
    (kept : w tokenOut ≤ w' tokenOut) (most : w' tokenOut ≤ w tokenOut + 1) (word : w' tokenOut ≤ u256Max) :
    (executeV2Step d msg ⟨4, [borrowToken, tokenOut], 1, 1⟩ stepIndex).Yields env s w 1 s w' := by
  have amountIn : currentAmountIn d 1 borrowToken = .done 1 := by
    unfold currentAmountIn
    rw [if_neg (by decide)]
  have approved : (forceApprove d borrowToken 4 1).Yields env s w () s w := by
    refine yields_bind.mpr ⟨u256Max, s, w, yields_ask (views.view _ _ s w rfl (by simp)), ?_⟩
    dsimp only
    rw [if_pos (by decide)]
    exact ⟨rfl, rfl, rfl⟩
  have checked : (checkStepOutput d tokenOut (w tokenOut) 1 1 stepIndex).Yields env s w' 1 s w' := by
    refine yields_bind.mpr ⟨w' tokenOut, s, w', balanceOf_yields views word, ?_⟩
    refine yields_bind.mpr ⟨(), s, w', yields_refuse.mpr ⟨by omega, rfl, rfl⟩, ?_⟩
    have reported : (if 1 < w' tokenOut - w tokenOut then w' tokenOut - w tokenOut else 1) = 1 := by
      rw [if_neg (by omega)]
    dsimp only
    rw [reported]
    exact yields_bind.mpr ⟨(), s, w', yields_refuse.mpr ⟨by decide, rfl, rfl⟩, rfl, rfl, rfl⟩
  simp only [executeV2Step, List.head?_cons, List.getLast?_cons_cons, List.getLast?_singleton, amountIn]
  refine yields_bind.mpr ⟨1, s, w, ⟨rfl, rfl, rfl⟩, ?_⟩
  refine yields_bind.mpr ⟨(), s, w, yields_refuse.mpr ⟨by decide, rfl, rfl⟩, ?_⟩
  refine yields_bind.mpr ⟨(), s, w, approved, ?_⟩
  refine yields_bind.mpr ⟨w tokenOut, s, w, balanceOf_yields views (by omega), ?_⟩
  exact yields_bind.mpr ⟨([1] : List Nat), s, w', yields_ask routed, checked⟩

/-- Two units repay one, in the borrowed token or in the other token of a pair with reserves 2 and 1. -/
theorem v2RepaymentAmountIn_yields {pair borrowToken profitToken : Address} :
    (v2RepaymentAmountIn pair borrowToken profitToken 1).Yields env s w 2 s w := by
  unfold v2RepaymentAmountIn
  split
  · exact ⟨rfl, rfl, rfl⟩
  · rename_i distinct
    refine yields_bind.mpr ⟨borrowToken, s, w, yields_ask (views.view _ _ s w rfl (by simp)), ?_⟩
    refine yields_bind.mpr ⟨profitToken, s, w, yields_ask (views.view _ _ s w rfl (by simp)), ?_⟩
    refine yields_bind.mpr ⟨(), s, w, yields_refuse.mpr ⟨by simp, rfl, rfl⟩, ?_⟩
    refine yields_bind.mpr ⟨(2, 1), s, w, yields_ask (views.view _ _ s w rfl (by simp)), ?_⟩
    dsimp only
    rw [if_neg distinct, if_pos rfl]
    exact ⟨rfl, rfl, rfl⟩

end Views

/-- One unit borrowed from pair 2, with one step to a token that is not the profit token. -/
def sampleContext (d : Deployment Data) (borrowToken profitToken : Address) (minProfit : Nat) : V2CallbackContext where
  executionId := d.deriveExecutionId .v2 2 borrowToken 1 minProfit profitToken profitToken 1 0
  pair := 2
  borrowToken := borrowToken
  borrowAmount := 1
  minProfit := minProfit
  profitToken := profitToken
  profitRecipient := profitToken
  steps := [⟨4, [borrowToken, profitToken + 1], 1, 1⟩]

/-- The same loan from any pair, with its profit for any recipient. -/
def contextAt (d : Deployment Data) (pair borrowToken profitToken profitRecipient : Address) (minProfit : Nat) :
    V2CallbackContext :=
  { sampleContext d borrowToken profitToken minProfit with
    executionId := d.deriveExecutionId .v2 pair borrowToken 1 minProfit profitToken profitRecipient 1 0
    pair := pair
    profitRecipient := profitRecipient }

theorem succ_ne (token : Address) : token + 1 ≠ token := by
  intro same
  simp at same

/-- The sample's callback, by a router and a profit token that answer so. -/
theorem tradeV2_yields (views : AnswersViews d env) {msg : Message}
    {pair borrowToken profitToken profitRecipient : Address} {minProfit : Nat} {traded paid : Balances}
    (word : w profitToken ≤ u256Max)
    (routed : env (.swapExactTokensForTokens 4 1 1 [borrowToken, profitToken + 1] d.self msg.timestamp) s w [1] s
      traded)
    (kept : w (profitToken + 1) ≤ traded (profitToken + 1)) (most : traded (profitToken + 1) ≤ w (profitToken + 1) + 1)
    (outWord : traded (profitToken + 1) ≤ u256Max) (repays : env (.transfer profitToken pair 2) s traded true s paid) :
    (tradeV2 d msg (contextAt d pair borrowToken profitToken profitRecipient minProfit) 1 0).Yields env s w
      (w profitToken) s paid := by
  have stepped : (executeV2Step d msg ⟨4, [borrowToken, profitToken + 1], 1, 1⟩ 0).Yields env s w 1 s traded :=
    executeV2Step_yields views routed kept most outWord
  refine yields_bind.mpr ⟨w profitToken, s, w, balanceOf_yields views word, ?_⟩
  refine yields_bind.mpr ⟨(), s, traded, yields_bind.mpr ⟨1, s, traded, stepped, rfl, rfl, rfl⟩, ?_⟩
  refine yields_bind.mpr ⟨2, s, paid, ?_, rfl, rfl, rfl⟩
  refine yields_bind.mpr ⟨2, s, traded, v2RepaymentAmountIn_yields views, ?_⟩
  exact yields_bind.mpr ⟨(), s, paid, transferToken_yields (by decide) repays, rfl, rfl, rfl⟩

/-- An owner who allows everything. -/
def permissive : Storage Data :=
  { deployed 1 with
    allowedV2Pairs := fun _ => true
    allowedRouters := fun _ => true
    allowedBorrowTokens := fun _ => true }

def sampleOpened (d : Deployment Data) (borrowToken profitToken : Address) (minProfit : Nat) : Storage Data :=
  { (permissive : Storage Data) with
    executionInProgress := true
    activeExecutionId := (sampleContext d borrowToken profitToken minProfit).executionId
    opening := some (.v2 (sampleContext d borrowToken profitToken minProfit)
      (d.encodeV2 (sampleContext d borrowToken profitToken minProfit)) fun _ => true) }

def openedAt (d : Deployment Data) (pair borrowToken profitToken profitRecipient : Address) (minProfit : Nat) :
    Storage Data :=
  { (permissive : Storage Data) with
    executionInProgress := true
    activeExecutionId := (contextAt d pair borrowToken profitToken profitRecipient minProfit).executionId
    opening := some (.v2 (contextAt d pair borrowToken profitToken profitRecipient minProfit)
      (d.encodeV2 (contextAt d pair borrowToken profitToken profitRecipient minProfit)) fun _ => true) }

theorem startV2FlashSwap_sample (views : AnswersViews d env) {pair borrowToken profitToken profitRecipient : Address}
    {minProfit : Nat} (venue : pair ≠ 0) (borrow : borrowToken ≠ 0) (profit : profitToken ≠ 0)
    (recipient : profitRecipient ≠ 0) :
    (startV2FlashSwap d ⟨1, 0, 0⟩ pair borrowToken 1 minProfit profitToken profitRecipient
      (contextAt d pair borrowToken profitToken profitRecipient minProfit).steps).Reaches env
      (.swapV2 pair 1 0 d.self (d.encodeV2 (contextAt d pair borrowToken profitToken profitRecipient minProfit)))
      permissive w (openedAt d pair borrowToken profitToken profitRecipient minProfit) w := by
  refine reaches_onlyAuthorizedOperator.mpr ⟨by simp [permissive, deployed], ?_⟩
  have addresses : ¬ (pair = 0 ∨ borrowToken = 0 ∨ profitToken = 0 ∨ profitRecipient = 0) := by
    rintro (zero | zero | zero | zero)
    · exact venue zero
    · exact borrow zero
    · exact profit zero
    · exact recipient zero
  -- the other token of the pair is the profit token whenever that differs from the loan
  obtain ⟨second, other⟩ : ∃ second, second = if borrowToken = profitToken then borrowToken + 1 else profitToken :=
    ⟨_, rfl⟩
  have distinct : borrowToken ≠ second := by
    rw [other]
    split
    · exact (succ_ne borrowToken).symm
    · assumption
  refine reaches_refuse_bind.mpr ⟨addresses, reaches_refuse_bind.mpr ⟨by decide, ?_⟩⟩
  refine reaches_refuse_bind.mpr ⟨by simp [permissive], reaches_refuse_bind.mpr ⟨by simp [permissive], ?_⟩⟩
  refine .inr ⟨borrowToken, permissive, w, views.view (.token0 pair) borrowToken _ _ rfl (by simp),
    .inr ⟨second, permissive, w, views.view (.token1 pair) second _ _ rfl (by simp), ?_⟩⟩
  refine reaches_refuse_bind.mpr ⟨fun neither => neither.1 rfl, ?_⟩
  refine .inl ⟨?_, rfl, rfl⟩
  rw [if_pos rfl, if_neg distinct]
  rfl

theorem openedAt_guards (d : Deployment Data) (pair borrowToken profitToken profitRecipient : Address)
    (minProfit : Nat) :
    v2Guards d (openedAt d pair borrowToken profitToken profitRecipient minProfit) ⟨pair, 0, 0⟩ d.self
      (d.encodeV2 (contextAt d pair borrowToken profitToken profitRecipient minProfit)) =
      .ok (contextAt d pair borrowToken profitToken profitRecipient minProfit) :=
  v2Guards_eq_ok.mpr ⟨rfl, rfl, d.decode_encodeV2 _, rfl, rfl⟩

/-- Whatever balance the steps and the repayment leave, some execution leaves it, if it is enough. -/
theorem exists_v2Execution (d : Deployment Data) {borrowToken profitToken : Address} (minProfit held post : Nat)
    (borrow : borrowToken ≠ 0) (profit : profitToken ≠ 0) (small : held < u256Max) (word : post ≤ u256Max)
    (enough : minProfit ≤ post - lend (fun _ => held) borrowToken 1 profitToken) :
    ∃ e : V2Execution d, e.ctx = sampleContext d borrowToken profitToken minProfit ∧ e.before profitToken = held ∧
      e.after profitToken = post ∧ e.netProfit = post - lend (fun _ => held) borrowToken 1 profitToken := by
  have words : ∀ token, lend (fun _ => held) borrowToken 1 token ≤ u256Max := by
    intro token
    dsimp only [lend]
    split <;> omega
  have left : Function.update (lend (fun _ => held) borrowToken 1) profitToken post profitToken = post :=
    Function.update_self ..
  obtain ⟨closed, closes⟩ := closeExecution_yields answers_views left enough word fun _ => trivial
  exact ⟨{
    ctx := sampleContext d borrowToken profitToken minProfit
    start := ⟨1, 0, 0⟩
    callback := ⟨2, 0, 0⟩
    amount0 := 1
    amount1 := 0
    initial := permissive
    funds := fun _ => held
    opened := sampleOpened d borrowToken profitToken minProfit
    before := fun _ => held
    preProfitBalance := lend (fun _ => held) borrowToken 1 profitToken
    repaid := sampleOpened d borrowToken profitToken minProfit
    after := Function.update (lend (fun _ => held) borrowToken 1) profitToken post
    netProfit := post - lend (fun _ => held) borrowToken 1 profitToken
    closed := closed
    paid := Function.update (lend (fun _ => held) borrowToken 1) profitToken post
    starts := startV2FlashSwap_sample answers_views (show (2 : Address) ≠ 0 by decide) borrow profit profit
    guards := openedAt_guards d 2 borrowToken profitToken profitToken minProfit
    trades := tradeV2_yields answers_views (words _) trivial le_rfl (by omega) (words _) trivial
    closes := closes }, rfl, rfl, left, rfl⟩

end Sample

/-- Every execution with these tokens and this minimum compares and pays out what it gained. -/
def ProfitAccounted (borrowToken profitToken : Address) (minProfit : Nat) : Prop :=
  (∀ e : V2Execution d, e.ctx.borrowToken = borrowToken → e.ctx.profitToken = profitToken →
    e.ctx.minProfit = minProfit → (e.netProfit : Int) = (e.after profitToken : Int) - e.before profitToken) ∧
  ∀ e : V3Execution d, e.ctx.borrowToken = borrowToken → e.ctx.profitToken = profitToken →
    e.ctx.minProfit = minProfit → (e.netProfit : Int) = (e.after profitToken : Int) - e.before profitToken

/-- The loan is counted as capital of the executor when it is in the profit token, and a loss counts
as no profit; these are the only ways to miss the gain. -/
theorem profitAccounted_iff (borrowToken profitToken : Address) (minProfit : Nat) :
    ProfitAccounted d borrowToken profitToken minProfit ↔ Accountable borrowToken profitToken minProfit := by
  constructor
  · intro accounted
    by_contra unaccountable
    have borrow : borrowToken ≠ 0 := fun zero => unaccountable (.inr (.inl zero))
    have profit : profitToken ≠ 0 := fun zero => unaccountable (.inr (.inr (.inl zero)))
    have reachable : minProfit < u256Max := by
      by_contra large
      exact unaccountable (.inr (.inr (.inr (by omega))))
    have max : 1 < u256Max := by decide
    by_cases same : profitToken = borrowToken
    · -- the steps bring one unit more than they have to; the sample already holds the loan of one unit
      have loan : lend (fun _ => 0) borrowToken 1 profitToken = 1 := by
        unfold lend
        rw [if_pos same]
      obtain ⟨e, ctx, before, after, net⟩ := exists_v2Execution d minProfit 0 (minProfit + 1) borrow profit
        (by omega) (by omega) (by omega)
      have gained := accounted.1 e (by rw [ctx]; rfl) (by rw [ctx]; rfl) (by rw [ctx]; rfl)
      rw [before, after, net, loan] at gained
      omega
    · -- with no minimum the steps may lose the unit the executor held
      have none : minProfit = 0 := by
        by_contra some
        exact unaccountable (.inl ⟨Ne.symm same, by omega⟩)
      have loan : lend (fun _ => 1) borrowToken 1 profitToken = 1 := by
        unfold lend
        rw [if_neg same]
      obtain ⟨e, ctx, before, after, net⟩ := exists_v2Execution d minProfit 1 0 borrow profit (by omega)
        (by omega) (by omega)
      have gained := accounted.1 e (by rw [ctx]; rfl) (by rw [ctx]; rfl) (by rw [ctx]; rfl)
      rw [before, after, net, loan] at gained
      omega
  · intro accountable
    refine ⟨fun e => ?_, fun e => ?_⟩
    · rintro rfl rfl rfl
      exact e.books.accounted accountable
    · rintro rfl rfl rfl
      exact e.books.accounted accountable

/-- One unit of token 3 is borrowed from an executor that holds none and wants five: it ends with six and
books five. -/
theorem loan_counts_as_own_funds : ∃ e : V2Execution plain, e.ctx = sampleContext plain 3 3 5 ∧ e.before 3 = 0 ∧
    e.after 3 = 6 ∧ e.netProfit = 5 ∧ (e.netProfit : Int) ≠ (e.after 3 : Int) - e.before 3 := by
  obtain ⟨e, ctx, before, after, net⟩ := exists_v2Execution plain 5 0 6 (show (3 : Address) ≠ 0 by decide)
    (show (3 : Address) ≠ 0 by decide) (by decide) (by decide) (by decide)
  have booked : e.netProfit = 5 := net.trans (by decide)
  refine ⟨e, ctx, before, after, booked, ?_⟩
  rw [before, after, booked]
  decide

end ArbitrageRuntime.Executor
