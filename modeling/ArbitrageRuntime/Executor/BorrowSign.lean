import ArbitrageRuntime.Executor.SplitV3
import ArbitrageRuntime.Executor.Start

namespace ArbitrageRuntime.Executor

open Interaction Interaction.Prog

variable {Data σ W : Type}

/-- The pool is asked for exactly the borrowed amount of the borrowed token: a pool reads a negative amount as
the output it has to pay, in its second token when `zeroForOne` is set and in its first otherwise. -/
structure AsksForLoan (env : Environment σ (@Reply Data) W) (s : σ) (w : W) (pool borrowToken : Address)
    (borrowAmount : Nat) (venue : Address) (zeroForOne : Bool) (amountSpecified : Int) : Prop where
  venue_eq : venue = pool
  borrows : ∃ (first second : Address) (t t' : σ) (v v' : W), env (.token0 pool) s w first t v ∧
    env (.token1 pool) t v second t' v' ∧ (if zeroForOne then second else first) = borrowToken
  exact_output : amountSpecified = -(borrowAmount : Int)
  negative : amountSpecified < 0

theorem wordAsInt256_eq_iff {amount : Nat} : wordAsInt256 amount = (amount : Int) ↔ amount < 2 ^ 255 := by
  unfold wordAsInt256
  split
  · rename_i small
    exact iff_of_true rfl small
  · rename_i large
    refine iff_of_false ?_ large
    omega

section Combined

variable {d : Deployment Data} {env : Environment (Storage Data) (@Reply Data) W} {s s' : Storage Data} {w w' : W}

/-- The direction follows from the token order, so the pool is always asked for the right token. -/
theorem startV3FlashSwap_borrows {msg : Message} {pool borrowToken : Address} {borrowAmount feeTier minProfit : Nat}
    {profitToken profitRecipient : Address} {steps : List V3SwapStep} {venue recipient : Address} {zeroForOne : Bool}
    {amountSpecified : Int} {sqrtPriceLimitX96 : Nat} {data : Data}
    (starts : (startV3FlashSwap d msg pool borrowToken borrowAmount feeTier minProfit profitToken profitRecipient
      steps).Reaches env (.swapV3 venue recipient zeroForOne amountSpecified sqrtPriceLimitX96 data) s w s' w') :
    AsksForLoan env s w pool borrowToken borrowAmount venue zeroForOne amountSpecified ↔ borrowAmount < 2 ^ 255 := by
  have positive := (startV3FlashSwap_accepts starts).2.2.2
  obtain ⟨first, second, t, t', v, v', asked0, asked1, member, rfl, _, rfl, rfl, _⟩ := startV3FlashSwap_asks starts
  constructor
  · intro asks
    have negated := asks.exact_output
    exact wordAsInt256_eq_iff.mp (by omega)
  · intro small
    have same := wordAsInt256_eq_iff.mpr small
    refine ⟨rfl, ⟨first, second, t, t', v, v', asked0, asked1, ?_⟩, by omega, by omega⟩
    by_cases isSecond : borrowToken = second
    · rw [if_pos (decide_eq_true isSecond), isSecond]
    · rw [if_neg (by simpa using isSecond)]
      exact (member.resolve_right isSecond).symm

end Combined

section Split

variable {env : Environment SplitV3.Storage (@Reply Data) W} {s s' : SplitV3.Storage} {w w' : W}

/-- The outside of the V3 executor, as the combined one meets it. -/
def onShared (env : Environment SplitV3.Storage (@Reply Data) W) : Environment (Storage Data) (@Reply Data) W :=
  fun request t w reply t' w' => env request (SplitV3.shared t) w reply (SplitV3.shared t') w'

/-- A storage of the combined executor with the V3 part given. -/
def withShared (s : SplitV3.Storage) : Storage Data :=
  { (deployed s.owner : Storage Data) with
    authorizedOperators := s.authorizedOperators
    allowedV3Pools := s.allowedV3Pools
    allowedRouters := s.allowedRouters
    allowedBorrowTokens := s.allowedBorrowTokens
    allowedFeeTiers := s.allowedFeeTiers
    activeExecutionId := s.activeExecutionId
    executionInProgress := s.executionInProgress }

theorem onShared_mirrors : Mirrors SplitV3.SharesWith env (onShared env) := by
  intro r s w reply s' w' t answered same
  subst same
  exact ⟨withShared s', rfl, answered⟩

theorem AsksForLoan.of_onShared {pool borrowToken : Address} {borrowAmount : Nat} {venue : Address} {zeroForOne : Bool}
    {amountSpecified : Int} :
    AsksForLoan (onShared env) (withShared s : Storage Data) w pool borrowToken borrowAmount venue zeroForOne
      amountSpecified ↔
      AsksForLoan env s w pool borrowToken borrowAmount venue zeroForOne amountSpecified := by
  constructor
  · rintro ⟨venue_eq, ⟨first, second, t, t', v, v', asked0, asked1, output⟩, exact_output, negative⟩
    exact ⟨venue_eq, ⟨first, second, _, _, v, v', asked0, asked1, output⟩, exact_output, negative⟩
  · rintro ⟨venue_eq, ⟨first, second, t, t', v, v', asked0, asked1, output⟩, exact_output, negative⟩
    exact ⟨venue_eq, ⟨first, second, withShared t, withShared t', v, v', asked0, asked1, output⟩, exact_output,
      negative⟩

end Split

/-- Of the loans that a start call accepts, exactly those below `2 ^ 255` are asked for as they are, in the
combined executor and in the V3 one. -/
theorem startV3FlashSwap_asksForLoan_iff (d : ChainDeployment Data) (msg : Message) (pool borrowToken : Address)
    (borrowAmount feeTier minProfit : Nat) (profitToken profitRecipient : Address) (steps : List V3SwapStep)
    (venue recipient : Address) (zeroForOne : Bool) (amountSpecified : Int) (sqrtPriceLimitX96 : Nat) (data : Data) :
    (∀ (env : Environment (Storage Data) (@Reply Data) W) s w s' w',
      (startV3FlashSwap d.toDeployment msg pool borrowToken borrowAmount feeTier minProfit profitToken profitRecipient
        steps).Reaches env (.swapV3 venue recipient zeroForOne amountSpecified sqrtPriceLimitX96 data) s w s' w' →
      (AsksForLoan env s w pool borrowToken borrowAmount venue zeroForOne amountSpecified ↔ borrowAmount < 2 ^ 255)) ∧
    ∀ (env : Environment SplitV3.Storage (@Reply Data) W) s w s' w',
      (SplitV3.startV3FlashSwap d msg pool borrowToken borrowAmount feeTier minProfit profitToken profitRecipient
        steps).Reaches env (.swapV3 venue recipient zeroForOne amountSpecified sqrtPriceLimitX96 data) s w s' w' →
      (AsksForLoan env s w pool borrowToken borrowAmount venue zeroForOne amountSpecified ↔
        borrowAmount < 2 ^ 255) := by
  refine ⟨fun env s w s' w' starts => startV3FlashSwap_borrows starts, fun env s w s' w' starts => ?_⟩
  have alike := SplitV3.startV3FlashSwap_alike d msg pool borrowToken borrowAmount feeTier minProfit profitToken
    profitRecipient steps
  have same : SplitV3.SharesWith s (withShared s : Storage Data) := rfl
  obtain ⟨t', _, mirrored⟩ := alike.reaches onShared_mirrors same starts
  exact AsksForLoan.of_onShared.symm.trans (startV3FlashSwap_borrows mirrored)

section Sample

/-- A pool of tokens 3 and 5. -/
def NamesTokens : Environment σ (@Reply Data) Unit
  | .token0 _, s, _, (reply : Address), s', _ => reply = 3 ∧ s' = s
  | .token1 _, s, _, (reply : Address), s', _ => reply = 5 ∧ s' = s
  | _, _, _, _, _, _ => True

/-- An owner who allows every pool, token, tier and router. -/
def permissiveV3 : Storage Data :=
  { deployed 1 with
    allowedV3Pools := fun _ => true
    allowedRouters := fun _ => true
    allowedBorrowTokens := fun _ => true
    allowedFeeTiers := fun _ => true }

/-- Token 5 is borrowed from pool 2. -/
def sampleV3Context (d : Deployment Data) (amount : Nat) : V3CallbackContext where
  executionId := d.deriveExecutionId .v3 2 5 amount 1 5 1 1 0
  pool := 2
  borrowToken := 5
  borrowAmount := amount
  feeTier := 3000
  minProfit := 1
  profitToken := 5
  profitRecipient := 1
  steps := [⟨4, List.replicate 43 0, 1, 1⟩]

def openedV3 (d : Deployment Data) (amount : Nat) : Storage Data :=
  { (permissiveV3 : Storage Data) with
    executionInProgress := true
    activeExecutionId := (sampleV3Context d amount).executionId
    opening := some (.v3 (sampleV3Context d amount) (d.encodeV3 (sampleV3Context d amount)) fun _ => true) }

/-- Plain contexts on a chain whose hashes are lengths. -/
def plainChain : ChainDeployment PlainData where
  toDeployment := { plain with
    deriveExecutionId := fun kind =>
      Chain.deriveExecutionId ⟨1, List.length⟩ plain.self (List.length kind.text) }
  chain := ⟨1, List.length⟩
  derives := fun _ => rfl

theorem startV3FlashSwap_sample (d : Deployment Data) {amount : Nat} (positive : amount ≠ 0)
    (negatable : wordAsInt256 amount ≠ -2 ^ 255) :
    (startV3FlashSwap d ⟨1, 0, 0⟩ 2 5 amount 3000 1 5 1 (sampleV3Context d amount).steps).Reaches NamesTokens
      (.swapV3 2 d.self true (-wordAsInt256 amount) minSqrtRatioPlusOne (d.encodeV3 (sampleV3Context d amount)))
      permissiveV3 () (openedV3 d amount) () := by
  refine reaches_onlyAuthorizedOperator.mpr ⟨by simp [permissiveV3, deployed], ?_⟩
  refine reaches_refuse_bind.mpr ⟨by decide, reaches_refuse_bind.mpr ⟨positive, ?_⟩⟩
  refine reaches_refuse_bind.mpr ⟨by simp [permissiveV3], reaches_refuse_bind.mpr ⟨by simp [permissiveV3], ?_⟩⟩
  refine reaches_refuse_bind.mpr ⟨by simp [permissiveV3], ?_⟩
  refine .inr ⟨(3 : Address), permissiveV3, (), ⟨rfl, rfl⟩, .inr ⟨(5 : Address), permissiveV3, (), ⟨rfl, rfl⟩, ?_⟩⟩
  refine reaches_refuse_bind.mpr ⟨by decide, reaches_beginExecution_bind.mpr ⟨by simp [permissiveV3, deployed], ?_⟩⟩
  unfold startV3PoolSwap negatedInt256
  rw [if_neg negatable]
  exact .inl ⟨rfl, rfl, rfl⟩

theorem namesTokens_mirrors : Mirrors (fun (whole : Storage Data) s => SplitV3.SharesWith s whole)
    (NamesTokens : Environment (Storage Data) (@Reply Data) Unit) NamesTokens := by
  intro r whole w reply whole' w' s answered same
  subst same
  refine ⟨SplitV3.shared whole', rfl, ?_⟩
  cases r with
  | token0 | token1 => exact ⟨answered.1, congrArg SplitV3.shared answered.2⟩
  | _ => trivial

/-- The V3 executor makes the same request. -/
theorem splitV3_startV3FlashSwap_sample (d : ChainDeployment Data) {amount : Nat} (positive : amount ≠ 0)
    (negatable : wordAsInt256 amount ≠ -2 ^ 255) :
    ∃ s', (SplitV3.startV3FlashSwap d ⟨1, 0, 0⟩ 2 5 amount 3000 1 5 1
      (sampleV3Context d.toDeployment amount).steps).Reaches NamesTokens
      (.swapV3 2 d.self true (-wordAsInt256 amount) minSqrtRatioPlusOne
        (d.encodeV3 (sampleV3Context d.toDeployment amount)))
      (SplitV3.shared (permissiveV3 : Storage Data)) () s' () := by
  have alike := SplitV3.startV3FlashSwap_alike d ⟨1, 0, 0⟩ 2 5 amount 3000 1 5 1
    (sampleV3Context d.toDeployment amount).steps
  have same : SplitV3.SharesWith (SplitV3.shared permissiveV3) (permissiveV3 : Storage Data) := rfl
  obtain ⟨s', _, mirrored⟩ := alike.symm.reaches namesTokens_mirrors same
    (startV3FlashSwap_sample d.toDeployment positive negatable)
  exact ⟨s', mirrored⟩

/-- A loan of five units is asked for with -5. -/
theorem fiveUnits_askedForLoan :
    AsksForLoan (NamesTokens : Environment _ (@Reply PlainData) _) (permissiveV3 : Storage PlainData) () 2 5 5 2 true
        (-5) ∧
      AsksForLoan (NamesTokens : Environment _ (@Reply PlainData) _)
        (SplitV3.shared (permissiveV3 : Storage PlainData)) () 2 5 5 2 true (-5) := by
  have asks := @startV3FlashSwap_asksForLoan_iff PlainData Unit plainChain ⟨1, 0, 0⟩ 2 5 5 3000 1 5 1
    (sampleV3Context plainChain.toDeployment 5).steps 2 100 true (-5) minSqrtRatioPlusOne
    (plainChain.encodeV3 (sampleV3Context plainChain.toDeployment 5))
  have combined := startV3FlashSwap_sample plainChain.toDeployment (show 5 ≠ 0 by decide) (by decide)
  obtain ⟨s', split⟩ := splitV3_startV3FlashSwap_sample plainChain (show 5 ≠ 0 by decide) (by decide)
  exact ⟨(asks.1 _ _ _ _ _ combined).mpr (by decide), (asks.2 _ _ _ _ _ split).mpr (by decide)⟩

/-- A loan of the largest word is accepted and asked for with 1, the exact input of one unit. -/
theorem largestLoan_asksWithOne :
    (startV3FlashSwap plain ⟨1, 0, 0⟩ 2 5 u256Max 3000 1 5 1 (sampleV3Context plain u256Max).steps).Reaches NamesTokens
        (.swapV3 2 100 true 1 minSqrtRatioPlusOne (.inr (sampleV3Context plain u256Max))) permissiveV3 ()
        (openedV3 plain u256Max) () ∧
      ¬ AsksForLoan (NamesTokens : Environment _ (@Reply PlainData) _) (permissiveV3 : Storage PlainData) () 2 5
        u256Max 2 true 1 := by
  have one : -wordAsInt256 u256Max = 1 := by decide
  have starts := startV3FlashSwap_sample plain (show u256Max ≠ 0 by decide) (by decide)
  rw [one] at starts
  refine ⟨starts, fun asks => ?_⟩
  exact absurd asks.negative (by decide)

end Sample

end ArbitrageRuntime.Executor
