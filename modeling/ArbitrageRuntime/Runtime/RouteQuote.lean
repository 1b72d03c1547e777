import ArbitrageRuntime.Amm.SwapSound
import ArbitrageRuntime.Runtime.ReverseRoute
import Mathlib.Logic.Function.Basic

namespace ArbitrageRuntime

/-- The pools of a route by the address of their pair. -/
def storeOf (pools : List V2PoolState) (pair : Address) : Option V2PoolState :=
  pools.find? fun pool => pool.pair = pair

/-- Swaps along a path: every hop trades with a pool as the hops before it left it. -/
def swapHops (store : Address → Option V2PoolState) : Nat → List Address → List Address → Option Nat
  | amount, _, [] => some amount
  | amount, tokenIn :: tokenOut :: rest, pair :: pairs => do
    let pool ← store pair
    let (next, result) ← pool.applySwapExactIn tokenIn tokenOut amount
    swapHops (Function.update store pair (some next)) result.amountOut (tokenOut :: rest) pairs
  | _, _, _ :: _ => none

/-- The output of the last swap of a route. -/
def swapV2RouteExactIn (amountIn : Nat) (path : List Address) (pools : List V2PoolState) : Option Nat :=
  if path.length < 2 ∨ pools.length + 1 ≠ path.length then none
  else swapHops (storeOf pools) amountIn path (pools.map V2PoolState.pair)

/-- A property of the pool, the output reserve, the input and the output of every hop that a quote goes through. -/
def EveryHop (holds : V2PoolState → Nat → Nat → Nat → Prop) : Nat → List Address → List V2PoolState → Prop
  | amount, tokenIn :: tokenOut :: rest, pool :: pools =>
    match pool.reservesFor tokenIn tokenOut with
    | none => True
    | some (reserveIn, reserveOut) =>
      match amountOutExactIn amount reserveIn reserveOut pool.feeBps with
      | none => True
      | some amountOut => holds pool reserveOut amount amountOut ∧ EveryHop holds amountOut (tokenOut :: rest) pools
  | _, _, _ => True

instance EveryHop.decidable {holds : V2PoolState → Nat → Nat → Nat → Prop}
    [∀ pool reserveOut amount amountOut, Decidable (holds pool reserveOut amount amountOut)] :
    (amount : Nat) → (path : List Address) → (pools : List V2PoolState) → Decidable (EveryHop holds amount path pools)
  | _, _, [] => isTrue (by simp [EveryHop])
  | _, [], _ :: _ => isTrue trivial
  | _, [_], _ :: _ => isTrue trivial
  | amount, tokenIn :: tokenOut :: rest, pool :: pools =>
    match sides : pool.reservesFor tokenIn tokenOut with
    | none => isTrue (by simp [EveryHop, sides])
    | some (reserveIn, reserveOut) =>
      match quoted : amountOutExactIn amount reserveIn reserveOut pool.feeBps with
      | none => isTrue (by simp [EveryHop, sides, quoted])
      | some amountOut =>
        have : Decidable (EveryHop holds amountOut (tokenOut :: rest) pools) :=
          EveryHop.decidable amountOut (tokenOut :: rest) pools
        decidable_of_iff (holds pool reserveOut amount amountOut ∧ EveryHop holds amountOut (tokenOut :: rest) pools)
          (by simp [EveryHop, sides, quoted])

/-- The hop pays something. -/
def HopPays (_ : V2PoolState) (_ _ amountOut : Nat) : Prop := amountOut ≠ 0

instance (pool : V2PoolState) (reserveOut amountIn amountOut : Nat) :
    Decidable (HopPays pool reserveOut amountIn amountOut) := inferInstanceAs (Decidable (amountOut ≠ 0))

/-- A pool with one unit left is not sold an amount that stops at the top of the word. -/
def HopFits (pool : V2PoolState) (reserveOut amountIn _ : Nat) : Prop :=
  reserveOut = 1 → amountIn * (10000 - pool.feeBps) < u256Max

instance (pool : V2PoolState) (reserveOut amountIn amountOut : Nat) :
    Decidable (HopFits pool reserveOut amountIn amountOut) :=
  inferInstanceAs (Decidable (reserveOut = 1 → amountIn * (10000 - pool.feeBps) < u256Max))

/-- The runtime's walk over the pools and their edges is the hop loop of the builder. -/
theorem quoteHops_eq_walk {pools : List V2PoolState} (fees : ∀ pool ∈ pools, pool.feeBps ≠ 0)
    (fallbackFeeBps amount : Nat) {path : List Address} (lengths : pools.length + 1 = path.length) :
    quoteHops fallbackFeeBps amount path pools =
      (pools.zip (routeEdges path)).foldlM (fun amount hop => do
        let (reserveIn, reserveOut) ← hop.1.reservesFor hop.2.1 hop.2.2
        amountOutExactIn amount reserveIn reserveOut hop.1.feeBps) amount := by
  induction pools generalizing amount path with
  | nil => cases path <;> simp [quoteHops]
  | cons pool pools ih =>
    cases path with
    | nil => simp at lengths
    | cons tokenIn path =>
      cases path with
      | nil => simp at lengths
      | cons tokenOut rest =>
        have later : ∀ next, quoteHops fallbackFeeBps next (tokenOut :: rest) pools = _ := fun next =>
          ih (fun other inside => fees other (List.mem_cons_of_mem pool inside)) next (by simpa using lengths)
        simp only [quoteHops, if_neg (fees pool List.mem_cons_self), routeEdges, List.zip_cons_cons,
          List.foldlM_cons, later, Option.bind_eq_bind, Option.bind_assoc]

theorem quoteV2RouteExactIn_eq_runtime {pools : List V2PoolState} (fees : ∀ pool ∈ pools, pool.feeBps ≠ 0)
    (amountIn fallbackFeeBps : Nat) (path : List Address) :
    quoteV2RouteExactIn amountIn path pools fallbackFeeBps = quoteV2RuntimeRouteExactIn amountIn path pools := by
  unfold quoteV2RouteExactIn quoteV2RuntimeRouteExactIn walkRoute
  split
  · rfl
  · rename_i lengths
    exact quoteHops_eq_walk fees fallbackFeeBps amountIn (by omega)

theorem storeOf_mem {pools : List V2PoolState} (distinct : pools.Pairwise fun a b => a.pair ≠ b.pair)
    {pool : V2PoolState} (inside : pool ∈ pools) : storeOf pools pool.pair = some pool := by
  induction pools with
  | nil => exact absurd inside (by simp)
  | cons first pools ih =>
    obtain ⟨apart, rest⟩ := List.pairwise_cons.mp distinct
    rcases List.mem_cons.mp inside with rfl | later
    · simp [storeOf]
    · have other := apart pool later
      rw [storeOf, List.find?_cons_of_neg (by simpa using other)]
      exact ih rest later

/-- A quote stays below the output reserve, but for the one unit that a saturated input buys. -/
theorem amountOutExactIn_lt {amountIn reserveIn reserveOut feeBps amountOut : Nat}
    (quoted : amountOutExactIn amountIn reserveIn reserveOut feeBps = some amountOut) :
    amountOut < reserveOut ∨ reserveOut = 1 ∧ u256Max ≤ amountIn * (10000 - feeBps) := by
  have top : 10000 ≤ u256Max := by decide
  unfold amountOutExactIn at quoted
  split at quoted
  · exact absurd quoted (by simp)
  · rename_i nonzero
    have stocked : 0 < reserveIn ∧ 0 < reserveOut := by omega
    have scaled : 0 < u256Mul reserveIn 10000 := Nat.lt_min.mpr ⟨by omega, by omega⟩
    dsimp only at quoted
    split at quoted
    · exact absurd quoted (by simp)
    · rw [← Option.some.inj quoted]
      have cut : u256Mul (u256Mul amountIn (10000 - feeBps)) reserveOut ≤
          u256Mul amountIn (10000 - feeBps) * reserveOut := Saturating.mul_le_exact _ _ _
      have word : u256Mul (u256Mul amountIn (10000 - feeBps)) reserveOut ≤ u256Max := Nat.min_le_right _ _
      generalize u256Mul reserveIn 10000 = reserve at *
      rcases Nat.lt_or_ge u256Max (reserve + u256Mul amountIn (10000 - feeBps)) with above | fits
      · rw [u256Add, Saturating.add, Nat.min_eq_right above.le]
        rcases Nat.lt_or_ge 1 reserveOut with many | one
        · left
          exact lt_of_le_of_lt (Nat.div_le_of_le_mul (by omega)) many
        · have single : reserveOut = 1 := by omega
          subst single
          rcases Nat.lt_or_ge (amountIn * (10000 - feeBps)) u256Max with small | large
          · left
            have charged : u256Mul amountIn (10000 - feeBps) = amountIn * (10000 - feeBps) :=
              Saturating.mul_eq small.le
            rw [Nat.mul_one] at cut
            exact (Nat.div_lt_iff_lt_mul (by omega)).mpr (by omega)
          · exact Or.inr ⟨rfl, large⟩
      · left
        rw [u256Add, Saturating.add_eq fits]
        refine (Nat.div_lt_iff_lt_mul (by omega)).mpr (cut.trans_lt ?_)
        rw [Nat.mul_comm, Nat.mul_lt_mul_left stocked.2]
        omega

/-- Where a hop quotes a positive amount that the pool can pay, the swap pays it. -/
theorem applySwapExactIn_of_quote {pool : V2PoolState} {tokenIn tokenOut : Address}
    {amountIn reserveIn reserveOut amountOut : Nat}
    (sides : pool.reservesFor tokenIn tokenOut = some (reserveIn, reserveOut))
    (quoted : amountOutExactIn amountIn reserveIn reserveOut pool.feeBps = some amountOut) (pays : amountOut ≠ 0)
    (within : amountOut < reserveOut) :
    ∃ next result, pool.applySwapExactIn tokenIn tokenOut amountIn = some (next, result) ∧
      result.amountOut = amountOut := by
  have guard : ¬ (amountIn = 0 ∨ reserveIn = 0 ∨ reserveOut = 0) := by
    rintro (zero | zero | zero) <;> simp [amountOutExactIn, zero] at quoted
  have paid : ¬ (amountOut = 0 ∨ reserveOut ≤ amountOut) := by omega
  simp [V2PoolState.applySwapExactIn, sides, quoted, guard, paid]

theorem applySwapExactIn_of_no_quote {pool : V2PoolState} {tokenIn tokenOut : Address}
    {amountIn reserveIn reserveOut : Nat}
    (sides : pool.reservesFor tokenIn tokenOut = some (reserveIn, reserveOut))
    (unquoted : amountOutExactIn amountIn reserveIn reserveOut pool.feeBps = none) :
    pool.applySwapExactIn tokenIn tokenOut amountIn = none := by
  simp [V2PoolState.applySwapExactIn, sides, unquoted]

/-- The hops of a quote are swaps: a hop does not see what the hops before it did to the other pools. -/
theorem quoteHops_eq_swapHops {pools : List V2PoolState} {store : Address → Option V2PoolState}
    (fees : ∀ pool ∈ pools, pool.feeBps ≠ 0) (distinct : pools.Pairwise fun a b => a.pair ≠ b.pair)
    (stored : ∀ pool ∈ pools, store pool.pair = some pool)
    {amount fallbackFeeBps : Nat} {path : List Address} (pays : EveryHop HopPays amount path pools)
    (fits : EveryHop HopFits amount path pools) :
    quoteHops fallbackFeeBps amount path pools = swapHops store amount path (pools.map V2PoolState.pair) := by
  induction pools generalizing store amount path with
  | nil => cases path <;> simp [quoteHops, swapHops]
  | cons pool pools ih =>
    obtain ⟨apart, rest⟩ := List.pairwise_cons.mp distinct
    cases path with
    | nil => rfl
    | cons tokenIn path =>
      cases path with
      | nil => rfl
      | cons tokenOut later =>
        have here := stored pool List.mem_cons_self
        simp only [quoteHops, if_neg (fees pool List.mem_cons_self), List.map_cons, swapHops, here, Option.bind_eq_bind,
          Option.bind_some]
        cases sides : pool.reservesFor tokenIn tokenOut with
        | none => simp [V2PoolState.applySwapExactIn, sides]
        | some reserves =>
          obtain ⟨reserveIn, reserveOut⟩ := reserves
          simp only [Option.bind_some]
          cases quoted : amountOutExactIn amount reserveIn reserveOut pool.feeBps with
          | none => rw [applySwapExactIn_of_no_quote sides quoted]; rfl
          | some amountOut =>
            simp only [EveryHop, sides, quoted] at pays fits
            obtain ⟨paid, paysLater⟩ := pays
            obtain ⟨small, fitsLater⟩ := fits
            have within : amountOut < reserveOut := by
              rcases amountOutExactIn_lt quoted with below | ⟨single, large⟩
              · exact below
              · exact absurd (small single) (not_lt.mpr large)
            obtain ⟨next, result, swap, same⟩ := applySwapExactIn_of_quote sides quoted paid within
            rw [swap]
            simp only [Option.bind_some, same]
            refine ih (fun other inside => fees other (List.mem_cons_of_mem pool inside)) rest
              (fun other inside => ?_) paysLater fitsLater
            rw [Function.update_of_ne (apart other inside).symm]
            exact stored other (List.mem_cons_of_mem pool inside)

/-- On numbers of the pair's size nothing saturates. -/
theorem amountOutExactIn_exact {amountIn reserveIn reserveOut feeBps : Nat} (sold : 0 < amountIn)
    (stockedIn : 0 < reserveIn) (stockedOut : 0 < reserveOut) (fee : feeBps < 10000) (smallAmount : amountIn < 2 ^ 112)
    (smallIn : reserveIn < 2 ^ 112) (smallOut : reserveOut < 2 ^ 112) :
    amountOutExactIn amountIn reserveIn reserveOut feeBps =
      some (amountIn * (10000 - feeBps) * reserveOut / (reserveIn * 10000 + amountIn * (10000 - feeBps))) := by
  have top : u256Max = 2 ^ 256 - 1 := rfl
  have guard : ¬ (amountIn = 0 ∨ reserveIn = 0 ∨ reserveOut = 0 ∨ 10000 ≤ feeBps) := by omega
  have charged : amountIn * (10000 - feeBps) ≤ 2 ^ 112 * 10000 := Nat.mul_le_mul smallAmount.le (by omega)
  have withFee : u256Mul amountIn (10000 - feeBps) = amountIn * (10000 - feeBps) := Saturating.mul_eq (by omega)
  have product : amountIn * (10000 - feeBps) * reserveOut ≤ 2 ^ 112 * 10000 * 2 ^ 112 :=
    Nat.mul_le_mul charged smallOut.le
  have numerator : u256Mul (amountIn * (10000 - feeBps)) reserveOut = amountIn * (10000 - feeBps) * reserveOut :=
    Saturating.mul_eq (by omega)
  have scaled : u256Mul reserveIn 10000 = reserveIn * 10000 := Saturating.mul_eq (by omega)
  have denominator : u256Add (reserveIn * 10000) (amountIn * (10000 - feeBps)) =
      reserveIn * 10000 + amountIn * (10000 - feeBps) := Saturating.add_eq (by omega)
  have positive : ¬ (reserveIn * 10000 + amountIn * (10000 - feeBps) = 0) := by omega
  simp only [amountOutExactIn, if_neg guard, withFee, numerator, scaled, denominator, if_neg positive]

theorem amountOutExactIn_mono {small large reserveIn reserveOut feeBps amountOut : Nat} (order : small ≤ large)
    (smallAmount : large < 2 ^ 112) (smallIn : reserveIn < 2 ^ 112) (smallOut : reserveOut < 2 ^ 112)
    (quoted : amountOutExactIn small reserveIn reserveOut feeBps = some amountOut) :
    ∃ amountOut', amountOutExactIn large reserveIn reserveOut feeBps = some amountOut' ∧ amountOut ≤ amountOut' ∧
      amountOut' < 2 ^ 112 := by
  have nonzero : 0 < small ∧ 0 < reserveIn ∧ 0 < reserveOut ∧ feeBps < 10000 := by
    by_contra degenerate
    have guard : small = 0 ∨ reserveIn = 0 ∨ reserveOut = 0 ∨ 10000 ≤ feeBps := by omega
    rw [amountOutExactIn, if_pos guard] at quoted
    exact absurd quoted (by simp)
  obtain ⟨sold, stockedIn, stockedOut, fee⟩ := nonzero
  rw [amountOutExactIn_exact sold stockedIn stockedOut fee (order.trans_lt smallAmount) smallIn smallOut] at quoted
  refine ⟨_, amountOutExactIn_exact (sold.trans_le order) stockedIn stockedOut fee smallAmount smallIn smallOut, ?_, ?_⟩
  · rw [← Option.some.inj quoted]
    exact ConstantProduct.floor_mono (Nat.mul_le_mul_right _ order) (by omega)
  · exact (ConstantProduct.floor_lt (by omega) stockedOut).trans smallOut

theorem quoteHops_mono {pools : List V2PoolState}
    (reserves : ∀ pool ∈ pools, pool.reserve0 < 2 ^ 112 ∧ pool.reserve1 < 2 ^ 112)
    {fallbackFeeBps small large quote : Nat} {path : List Address} (order : small ≤ large) (bound : large < 2 ^ 112)
    (quoted : quoteHops fallbackFeeBps small path pools = some quote) :
    ∃ quote', quoteHops fallbackFeeBps large path pools = some quote' ∧ quote ≤ quote' := by
  induction pools generalizing small large path with
  | nil =>
    have last : ∀ amount, quoteHops fallbackFeeBps amount path [] = some amount := by
      intro amount
      cases path <;> simp [quoteHops]
    rw [last] at quoted
    exact ⟨large, last large, Option.some.inj quoted ▸ order⟩
  | cons pool pools ih =>
    cases path with
    | nil => simp [quoteHops] at quoted
    | cons tokenIn path =>
      cases path with
      | nil => simp [quoteHops] at quoted
      | cons tokenOut rest =>
        simp only [quoteHops, Option.bind_eq_bind, Option.bind_eq_some_iff, Prod.exists] at quoted ⊢
        obtain ⟨reserveIn, reserveOut, sides, amountOut, hop, later⟩ := quoted
        have bounds : reserveIn < 2 ^ 112 ∧ reserveOut < 2 ^ 112 := by
          have both := reserves pool List.mem_cons_self
          rcases V2PoolState.reservesFor_cases sides with ⟨_, _, rfl, rfl⟩ | ⟨_, _, _, rfl, rfl⟩
          · exact both
          · exact both.symm
        obtain ⟨amountOut', hop', grows, small'⟩ := amountOutExactIn_mono order bound bounds.1 bounds.2 hop
        obtain ⟨quote', later', more⟩ := ih (fun next inside => reserves next (List.mem_cons_of_mem pool inside)) grows
          small' later
        exact ⟨quote', ⟨reserveIn, reserveOut, sides, amountOut', hop', later'⟩, more⟩

/-- The two quotes of a route are one function, the outputs of the swaps along it, and monotone in what is sold. -/
theorem quoteV2RouteExactIn_spec {path : List Address} {pools : List V2PoolState}
    (fees : ∀ pool ∈ pools, pool.feeBps ≠ 0) (fallbackFeeBps : Nat) :
    (∀ amountIn, quoteV2RouteExactIn amountIn path pools fallbackFeeBps =
      quoteV2RuntimeRouteExactIn amountIn path pools) ∧
    (pools.Pairwise (fun a b => a.pair ≠ b.pair) → (∀ pool ∈ pools, pool.reserve0 ≠ 0 ∧ pool.reserve1 ≠ 0) →
      ∀ amountIn, EveryHop HopPays amountIn path pools → EveryHop HopFits amountIn path pools →
        quoteV2RouteExactIn amountIn path pools fallbackFeeBps = swapV2RouteExactIn amountIn path pools) ∧
    ((∀ pool ∈ pools, pool.reserve0 < 2 ^ 112 ∧ pool.reserve1 < 2 ^ 112) →
      ∀ small large quote, small ≤ large → large < 2 ^ 112 →
        quoteV2RouteExactIn small path pools fallbackFeeBps = some quote →
          ∃ quote', quoteV2RouteExactIn large path pools fallbackFeeBps = some quote' ∧ quote ≤ quote') := by
  refine ⟨fun amountIn => quoteV2RouteExactIn_eq_runtime fees amountIn fallbackFeeBps path, ?_, ?_⟩
  · intro distinct _ amountIn pays fits
    unfold quoteV2RouteExactIn swapV2RouteExactIn
    split
    · rfl
    · exact quoteHops_eq_swapHops fees distinct (fun pool inside => storeOf_mem distinct inside) pays fits
  · intro reserves small large quote order bound quoted
    unfold quoteV2RouteExactIn at quoted ⊢
    split at quoted
    · exact absurd quoted (by simp)
    · rename_i lengths
      rw [if_neg lengths]
      exact quoteHops_mono reserves order bound quoted

/-- Two pools in a row, of a deep reserve and a shallow one. -/
def samplePools : List V2PoolState :=
  [{ pair := 7, token0 := 1, token1 := 2, reserve0 := 10 ^ 21, reserve1 := 10 ^ 12, feeBps := 30 },
    { pair := 8, token0 := 3, token1 := 2, reserve0 := 10 ^ 6, reserve1 := 10 ^ 12, feeBps := 25 }]

theorem samplePools_quote :
    quoteV2RouteExactIn (10 ^ 18) [1, 2, 3] samplePools 30 = quoteV2RuntimeRouteExactIn (10 ^ 18) [1, 2, 3] samplePools ∧
    quoteV2RouteExactIn (10 ^ 18) [1, 2, 3] samplePools 30 = swapV2RouteExactIn (10 ^ 18) [1, 2, 3] samplePools ∧
    ∃ quote', quoteV2RouteExactIn (2 * 10 ^ 18) [1, 2, 3] samplePools 30 = some quote' ∧ 992 ≤ quote' := by
  have spec := @quoteV2RouteExactIn_spec [1, 2, 3] samplePools (by decide) 30
  refine ⟨spec.1 (10 ^ 18), spec.2.1 (by decide) (by decide) (10 ^ 18) (by decide) (by decide), ?_⟩
  exact spec.2.2 (by decide) (10 ^ 18) (2 * 10 ^ 18) 992 (by decide) (by decide) (by decide)

/-- A pool with one unit left on both sides. -/
def lastUnits : List V2PoolState :=
  [{ pair := 7, token0 := 1, token1 := 2, reserve0 := 1, reserve1 := 1, feeBps := 30 }]

/-- The quote of a saturated input is the last unit, which no swap pays. -/
theorem lastUnit_quote :
    EveryHop HopPays u256Max [1, 2] lastUnits ∧ quoteV2RouteExactIn u256Max [1, 2] lastUnits 30 = some 1 ∧
      swapV2RouteExactIn u256Max [1, 2] lastUnits = none := by
  decide

end ArbitrageRuntime
