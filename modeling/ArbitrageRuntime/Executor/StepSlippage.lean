import ArbitrageRuntime.Executor.Accounting
import ArbitrageRuntime.Executor.Footprint
import ArbitrageRuntime.Executor.SplitV2
import ArbitrageRuntime.Executor.SplitV3

namespace ArbitrageRuntime.Executor

open Interaction Interaction.Prog

variable {Data σ τ : Type} (d : Deployment Data)

/-- Balances are reported truthfully and approvals move nothing; the router reports `amounts` or `reported`
and leaves the executor with `after`. Whoever has control may do anything to the storage. -/
def Trades (amounts : List Nat) (reported : Nat) (after : Balances) : Environment σ (@Reply Data) Balances
  | .balanceOf token owner, s, w, (reply : Nat), s', w' => (owner = d.self → reply = w token) ∧ s' = s ∧ w' = w
  | .token0 _, s, w, _, s', w' | .token1 _, s, w, _, s', w' | .getReserves _, s, w, _, s', w'
  | .allowance .., s, w, _, s', w' | .nativeBalance, s, w, _, s', w' => s' = s ∧ w' = w
  | .approve .., _, w, _, _, w' => w' = w
  | .swapExactTokensForTokens .., _, _, (reply : List Nat), _, w' => reply = amounts ∧ w' = after
  | .exactInput .., _, _, (reply : Nat), _, w' => reply = reported ∧ w' = after
  | _, _, _, _, _, _ => True

/-- A step that does not revert leaves at least `minOut` more of its last token than it found. -/
def GainsMinOut (env : Environment σ (@Reply Data) Balances) (step : Prog σ (@Reply Data) Error Nat) (w : Balances)
    (tokenOut : Option Address) (minOut : Nat) : Prop :=
  ∀ s amountOut s' w', step.Yields env s w amountOut s' w' →
    ∃ token, tokenOut = some token ∧ w token + minOut ≤ w' token

/-- The amount a step offers to its router. -/
def offered (w : Balances) (requestedAmount : Nat) (tokenIn : Address) : Nat :=
  if requestedAmount = u256Max then w tokenIn else requestedAmount

/-- The step gets to its router, and the router reports the minimum, takes nothing back and pays less. -/
def Underpaid (w after : Balances) (requestedAmount minOut : Nat) (tokenIn tokenOut : Option Address)
    (report : Option Nat) : Prop :=
  ∃ input output reported, tokenIn = some input ∧ tokenOut = some output ∧ report = some reported ∧
    offered w requestedAmount input ≠ 0 ∧ minOut ≤ reported ∧ w output ≤ after output ∧
    after output < w output + minOut

def V2SwapStep.Underpaid (step : V2SwapStep) (w after : Balances) (amounts : List Nat) : Prop :=
  Executor.Underpaid w after step.amountIn step.minOut step.path.head? step.path.getLast? amounts.getLast?

def V3SwapStep.Underpaid (step : V3SwapStep) (w after : Balances) (reported : Nat) : Prop :=
  Executor.Underpaid w after step.amountIn step.minOut (v3PathTokenIn step.path).toOption
    (v3PathTokenOut step.path).toOption (some reported)

section Parts

variable {d} {amounts : List Nat} {reported : Nat} {after : Balances} {s s' : Storage Data} {w w' : Balances}

theorem yields_trades_balanceOf {token : Address} {result : Nat} :
    (balanceOf d token).Yields (Trades d amounts reported after) s w result s' w' ↔
      result = w token ∧ s' = s ∧ w' = w := by
  constructor
  · rintro ⟨reply, _, _, ⟨truthful, rfl, rfl⟩, rfl, rfl, rfl⟩
    exact ⟨truthful rfl, rfl, rfl⟩
  · rintro ⟨truthful, rfl, rfl⟩
    exact ⟨result, s', w', ⟨fun _ => truthful, rfl, rfl⟩, rfl, rfl, rfl⟩

theorem yields_trades_currentAmountIn {requestedAmount result : Nat} {tokenIn : Address} :
    (currentAmountIn d requestedAmount tokenIn).Yields (Trades d amounts reported after) s w result s' w' ↔
      result = offered w requestedAmount tokenIn ∧ s' = s ∧ w' = w := by
  unfold currentAmountIn offered
  split
  · exact yields_trades_balanceOf
  · exact Iff.rfl

/-- Neither a view nor an approval moves balances. -/
def Request.movesNothing : Request Data → Prop
  | .approve .. => True
  | request => request.isView = true

theorem movesNothing_of_view (r : Request Data) (view : r.isView = true) : r.movesNothing := by
  cases r with
  | approve token spender amount => trivial
  | _ => exact view

theorem trades_movesNothing (r : Request Data) (t : Storage Data) (v : Balances) (reply : Reply r) (t' : Storage Data)
    (v' : Balances) (still : r.movesNothing) (answered : Trades d amounts reported after r t v reply t' v') :
    v' = v := by
  cases r with
  | balanceOf token owner => exact answered.2.2
  | approve token spender amount => exact answered
  | token0 | token1 | getReserves | allowance | nativeBalance => exact answered.2
  | _ => exact absurd still (by simp [Request.movesNothing, Request.isView])

/-- Approving moves no balance. -/
theorem forceApprove_moves_nothing {token spender : Address} {amount : Nat} {result : Unit}
    (approves : (forceApprove d token spender amount).Yields (Trades d amounts reported after) s w result s' w') :
    w' = w := by
  have quiet : (forceApprove d token spender amount).Quiet Request.movesNothing :=
    quiet_forceApprove movesNothing_of_view fun _ => trivial
  exact quiet.world_unchanged trades_movesNothing approves

/-- A token that has approved enough already. -/
theorem forceApprove_approved {token spender : Address} {amount : Nat} :
    (forceApprove d token spender amount).Yields (Trades d amounts reported after) s w () s w := by
  refine yields_bind.mpr ⟨amount, s, w, yields_ask ⟨rfl, rfl⟩, ?_⟩
  dsimp only
  rw [if_pos le_rfl]
  exact ⟨rfl, rfl, rfl⟩

theorem yields_checkStepOutput {tokenOut : Address} {beforeOut answer minOut stepIndex amountOut : Nat} :
    (checkStepOutput d tokenOut beforeOut answer minOut stepIndex).Yields (Trades d amounts reported after) s w
        amountOut s' w' ↔
      beforeOut ≤ w tokenOut ∧ amountOut = max answer (w tokenOut - beforeOut) ∧ minOut ≤ amountOut ∧ s' = s ∧
        w' = w := by
  have larger : ∀ gained, (if answer < gained then gained else answer) = max answer gained := by
    intro gained
    split <;> omega
  constructor
  · intro checks
    obtain ⟨afterOut, _, _, balance, checks1⟩ := yields_bind.mp checks
    obtain ⟨rfl, rfl, rfl⟩ := yields_trades_balanceOf.mp balance
    obtain ⟨_, _, _, kept, checks2⟩ := yields_bind.mp checks1
    obtain ⟨noLoss, rfl, rfl⟩ := yields_refuse.mp kept
    dsimp only at checks2
    rw [larger] at checks2
    obtain ⟨_, _, _, reached, ended⟩ := yields_bind.mp checks2
    obtain ⟨enough, rfl, rfl⟩ := yields_refuse.mp reached
    obtain ⟨rfl, rfl, rfl⟩ := ended
    exact ⟨by omega, rfl, by omega, rfl, rfl⟩
  · rintro ⟨noLoss, rfl, enough, rfl, rfl⟩
    refine yields_bind.mpr ⟨w' tokenOut, s', w', yields_trades_balanceOf.mpr ⟨rfl, rfl, rfl⟩, ?_⟩
    refine yields_bind.mpr ⟨(), s', w', yields_refuse.mpr ⟨by omega, rfl, rfl⟩, ?_⟩
    dsimp only
    rw [larger]
    exact yields_bind.mpr ⟨(), s', w', yields_refuse.mpr ⟨by omega, rfl, rfl⟩, rfl, rfl, rfl⟩

end Parts

section Routed

variable {d} {amounts : List Nat} {reported : Nat} {after : Balances} {s s' : Storage Data} {w w' : Balances}
  {router tokenIn tokenOut : Address} {requestedAmount minOut stepIndex amountOut : Nat} {swap : Nat → Exec Data Nat}
  {report : Option Nat}

/-- A routed step that ends has the router's word or the balance for its minimum. -/
theorem routedStep_ends
    (answers : ∀ amountIn s w answer s' w', (swap amountIn).Yields (Trades d amounts reported after) s w answer s' w' →
      report = some answer ∧ w' = after)
    (steps : (routedStep d router tokenIn tokenOut requestedAmount minOut stepIndex swap).Yields
      (Trades d amounts reported after) s w amountOut s' w') :
    offered w requestedAmount tokenIn ≠ 0 ∧ w' = after ∧ w tokenOut ≤ after tokenOut ∧
      ∃ answer, report = some answer ∧ minOut ≤ max answer (after tokenOut - w tokenOut) := by
  obtain ⟨amountIn, _, _, amount, steps1⟩ := yields_bind.mp steps
  obtain ⟨rfl, rfl, rfl⟩ := yields_trades_currentAmountIn.mp amount
  obtain ⟨_, _, _, nonzero, steps2⟩ := yields_bind.mp steps1
  obtain ⟨offers, rfl, rfl⟩ := yields_refuse.mp nonzero
  obtain ⟨_, _, _, approves, steps3⟩ := yields_bind.mp steps2
  obtain rfl := forceApprove_moves_nothing approves
  obtain ⟨beforeOut, _, _, balance, steps4⟩ := yields_bind.mp steps3
  obtain ⟨rfl, rfl, rfl⟩ := yields_trades_balanceOf.mp balance
  obtain ⟨answer, _, _, swaps, checks⟩ := yields_bind.mp steps4
  obtain ⟨told, rfl⟩ := answers _ _ _ _ _ _ swaps
  obtain ⟨noLoss, rfl, enough, _, rfl⟩ := yields_checkStepOutput.mp checks
  exact ⟨offers, rfl, noLoss, answer, told, enough⟩

/-- A router that reports the minimum and takes nothing back lets the step end. -/
theorem routedStep_yields {answer : Nat}
    (swaps : ∀ amountIn s w, (swap amountIn).Yields (Trades d amounts reported after) s w answer s after)
    (offers : offered w requestedAmount tokenIn ≠ 0) (noLoss : w tokenOut ≤ after tokenOut) (enough : minOut ≤ answer) :
    (routedStep d router tokenIn tokenOut requestedAmount minOut stepIndex swap).Yields
      (Trades d amounts reported after) s w (max answer (after tokenOut - w tokenOut)) s after := by
  refine yields_bind.mpr ⟨_, s, w, yields_trades_currentAmountIn.mpr ⟨rfl, rfl, rfl⟩, ?_⟩
  refine yields_bind.mpr ⟨(), s, w, yields_refuse.mpr ⟨offers, rfl, rfl⟩, ?_⟩
  refine yields_bind.mpr ⟨(), s, w, forceApprove_approved, ?_⟩
  refine yields_bind.mpr ⟨w tokenOut, s, w, yields_trades_balanceOf.mpr ⟨rfl, rfl, rfl⟩, ?_⟩
  refine yields_bind.mpr ⟨answer, s, after, swaps _ s w, ?_⟩
  exact yields_checkStepOutput.mpr ⟨noLoss, rfl, by omega, rfl, rfl⟩

theorem routedStep_gainsMinOut_iff
    (answers : ∀ amountIn s w answer s' w', (swap amountIn).Yields (Trades d amounts reported after) s w answer s' w' →
      report = some answer ∧ w' = after)
    (swaps : ∀ answer, report = some answer → ∀ amountIn s w,
      (swap amountIn).Yields (Trades d amounts reported after) s w answer s after) :
    GainsMinOut (Trades d amounts reported after)
        (routedStep d router tokenIn tokenOut requestedAmount minOut stepIndex swap) w (some tokenOut) minOut ↔
      ¬ Underpaid w after requestedAmount minOut (some tokenIn) (some tokenOut) report := by
  constructor
  · rintro gains ⟨_, _, answer, ⟨rfl⟩, ⟨rfl⟩, told, offers, enough, noLoss, less⟩
    obtain ⟨_, ⟨rfl⟩, gained⟩ := gains (deployed 0) _ _ _ (routedStep_yields (swaps answer told) offers noLoss enough)
    omega
  · intro paid s amountOut s' w' steps
    obtain ⟨offers, rfl, noLoss, answer, told, enough⟩ := routedStep_ends answers steps
    refine ⟨tokenOut, rfl, ?_⟩
    by_contra less
    exact paid ⟨tokenIn, tokenOut, answer, rfl, rfl, told, offers, by omega, noLoss, by omega⟩

end Routed

section Kinds

variable {amounts : List Nat} {reported : Nat} {after w : Balances}

theorem yields_lastReported {stepIndex answer : Nat} {s s' : Storage Data} {v v' : Balances}
    {env : Environment (Storage Data) (@Reply Data) Balances} :
    (lastReported stepIndex amounts).Yields env s v answer s' v' ↔
      amounts.getLast? = some answer ∧ s' = s ∧ v' = v := by
  unfold lastReported
  cases amounts.getLast? with
  | none => exact ⟨False.elim, fun ended => absurd ended.1 (by simp)⟩
  | some reported => exact and_congr_left fun _ => ⟨fun same => same ▸ rfl, fun same => (Option.some.inj same).symm⟩

theorem executeV2Step_gainsMinOut_iff (msg : Message) (step : V2SwapStep) (stepIndex : Nat) :
    GainsMinOut (Trades d amounts reported after) (executeV2Step d msg step stepIndex) w step.path.getLast?
        step.minOut ↔ ¬ step.Underpaid w after amounts := by
  rcases executeV2Step_cases d msg step stepIndex with ⟨unnamed, fails⟩ | ⟨tokenIn, tokenOut, first, last, routed⟩
  · rw [fails]
    refine iff_of_true (fun _ _ _ _ steps => steps.elim) ?_
    rintro ⟨tokenIn, tokenOut, _, first, last, _⟩
    exact unnamed ⟨tokenIn, tokenOut, first, last⟩
  · rw [routed, V2SwapStep.Underpaid, first, last]
    refine routedStep_gainsMinOut_iff ?_ ?_
    · intro amountIn s v answer s' v' swaps
      obtain ⟨_, _, _, ⟨_, _, _, ⟨rfl, rfl⟩, rfl, rfl, rfl⟩, ended⟩ := yields_bind.mp swaps
      obtain ⟨told, rfl, rfl⟩ := yields_lastReported.mp ended
      exact ⟨told, rfl⟩
    · intro answer told amountIn s v
      exact yields_bind.mpr ⟨amounts, s, after, yields_ask ⟨rfl, rfl⟩, yields_lastReported.mpr ⟨told, rfl, rfl⟩⟩

theorem executeV3Step_gainsMinOut_iff (msg : Message) (step : V3SwapStep) (stepIndex : Nat) :
    GainsMinOut (Trades d amounts reported after) (executeV3Step d msg step stepIndex) w
        (v3PathTokenOut step.path).toOption step.minOut ↔ ¬ step.Underpaid w after reported := by
  rcases executeV3Step_cases d msg step stepIndex with ⟨short, fails⟩ | ⟨tokenIn, tokenOut, first, last, routed⟩
  · rw [fails]
    refine iff_of_true (fun _ _ _ _ steps => steps.elim) ?_
    rintro ⟨tokenIn, _, _, first, _⟩
    rw [short] at first
    exact absurd first (by simp [Except.toOption])
  · rw [routed, V3SwapStep.Underpaid, first, last]
    refine routedStep_gainsMinOut_iff ?_ ?_
    · rintro amountIn s v answer s' v' ⟨_, _, _, ⟨rfl, rfl⟩, rfl, rfl, rfl⟩
      exact ⟨rfl, rfl⟩
    · rintro answer ⟨rfl⟩ amountIn s v
      exact yields_ask ⟨rfl, rfl⟩

end Kinds

section Split

variable {amounts : List Nat} {reported : Nat} {after w : Balances} {minOut : Nat} {tokenOut : Option Address}

theorem trades_mirrors :
    Mirrors (fun _ _ => True) (Trades d amounts reported after : Environment σ (@Reply Data) Balances)
      (Trades d amounts reported after : Environment τ (@Reply Data) Balances) := by
  intro r s v reply s' v' t answered _
  refine ⟨t, trivial, ?_⟩
  cases r with
  | balanceOf token owner => exact ⟨answered.1, rfl, answered.2.2⟩
  | token0 | token1 | getReserves | allowance | nativeBalance => exact ⟨rfl, answered.2⟩
  | approve | swapExactTokensForTokens | exactInput => exact answered
  | _ => trivial

/-- The storage plays no part in what a step gains. -/
theorem GainsMinOut.of_alike {p : Prog σ (@Reply Data) Error Nat} {q : Prog τ (@Reply Data) Error Nat}
    (alike : p.Alike (fun _ _ => True) q) (t : τ)
    (gains : GainsMinOut (Trades d amounts reported after) q w tokenOut minOut) :
    GainsMinOut (Trades d amounts reported after) p w tokenOut minOut := by
  intro s amountOut s' w' steps
  have same : (fun (_ : σ) (_ : τ) => True) s t := trivial
  obtain ⟨t', _, mirrored⟩ := alike.yields (trades_mirrors d) same steps
  exact gains t amountOut t' w' mirrored

theorem gainsMinOut_iff_of_alike {p : Prog σ (@Reply Data) Error Nat} {q : Prog τ (@Reply Data) Error Nat}
    (alike : p.Alike (fun _ _ => True) q) (s : σ) (t : τ) :
    GainsMinOut (Trades d amounts reported after) p w tokenOut minOut ↔
      GainsMinOut (Trades d amounts reported after) q w tokenOut minOut :=
  ⟨.of_alike d alike.symm s, .of_alike d alike t⟩

end Split

/-- A step gains its minimum unless its router reports what it has not paid, in the combined executor and
in the split ones. -/
theorem steps_gainMinOut_iff (msg : Message) (stepIndex : Nat) (amounts : List Nat) (reported : Nat)
    (w after : Balances) :
    (∀ step : V2SwapStep,
      (GainsMinOut (Trades d amounts reported after) (executeV2Step d msg step stepIndex) w step.path.getLast?
          step.minOut ↔ ¬ step.Underpaid w after amounts) ∧
      (GainsMinOut (Trades d amounts reported after) (SplitV2.executeV2Step d msg step stepIndex) w step.path.getLast?
          step.minOut ↔ ¬ step.Underpaid w after amounts)) ∧
    ∀ step : V3SwapStep,
      (GainsMinOut (Trades d amounts reported after) (executeV3Step d msg step stepIndex) w
          (v3PathTokenOut step.path).toOption step.minOut ↔ ¬ step.Underpaid w after reported) ∧
      (GainsMinOut (Trades d amounts reported after) (SplitV3.executeV3Step d msg step stepIndex) w
          (v3PathTokenOut step.path).toOption step.minOut ↔ ¬ step.Underpaid w after reported) := by
  have storage : Storage Data := deployed 0
  refine ⟨fun step => ⟨executeV2Step_gainsMinOut_iff d msg step stepIndex, ?_⟩,
    fun step => ⟨executeV3Step_gainsMinOut_iff d msg step stepIndex, ?_⟩⟩
  · have alike : (SplitV2.executeV2Step d msg step stepIndex).Alike (fun _ _ => True)
        (executeV2Step d msg step stepIndex) := SplitV2.executeV2Step_alike msg step stepIndex
    exact (gainsMinOut_iff_of_alike d alike (SplitV2.shared storage) storage).trans
      (executeV2Step_gainsMinOut_iff d msg step stepIndex)
  · have alike : (SplitV3.executeV3Step d msg step stepIndex).Alike (fun _ _ => True)
        (executeV3Step d msg step stepIndex) := SplitV3.executeV3Step_alike msg step stepIndex
    exact (gainsMinOut_iff_of_alike d alike (SplitV3.shared storage) storage).trans
      (executeV3Step_gainsMinOut_iff d msg step stepIndex)

/-- A token that keeps a tenth of every transfer: the router reports the thousand units it sent, and nine
hundred arrive. -/
theorem feeOnTransfer_passes_minOut :
    (executeV2Step plain ⟨1, 0, 0⟩ ⟨4, [3, 5], 10, 1000⟩ 0).Yields
        (Trades plain [10, 1000] 0 (lend (fun _ => 0) 5 900)) (deployed 1) (lend (fun _ => 0) 3 10) 1000 (deployed 1)
        (lend (fun _ => 0) 5 900) ∧
      ¬ GainsMinOut (Trades plain [10, 1000] 0 (lend (fun _ => 0) 5 900))
        (executeV2Step plain ⟨1, 0, 0⟩ ⟨4, [3, 5], 10, 1000⟩ 0) (lend (fun _ => 0) 3 10) (some 5) 1000 := by
  have steps : (executeV2Step plain ⟨1, 0, 0⟩ ⟨4, [3, 5], 10, 1000⟩ 0).Yields
      (Trades plain [10, 1000] 0 (lend (fun _ => 0) 5 900)) (deployed 1) (lend (fun _ => 0) 3 10) 1000 (deployed 1)
      (lend (fun _ => 0) 5 900) := by
    rw [executeV2Step_eq_routed plain rfl rfl]
    refine routedStep_yields (fun amountIn s v => ?_) (by decide) (by decide) le_rfl
    exact yields_bind.mpr ⟨[10, 1000], s, _, yields_ask ⟨rfl, rfl⟩, yields_lastReported.mpr ⟨rfl, rfl, rfl⟩⟩
  refine ⟨steps, fun gains => ?_⟩
  obtain ⟨token, same, gained⟩ := gains _ _ _ _ steps
  cases same
  exact absurd gained (by decide)

end ArbitrageRuntime.Executor
