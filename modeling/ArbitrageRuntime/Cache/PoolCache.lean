import ArbitrageRuntime.Lib.Transition
import ArbitrageRuntime.Engine.Budget
import Mathlib.Data.List.Chain
import Mathlib.Logic.Function.Basic

namespace ArbitrageRuntime

/-- A V2 pair with all that the cache keeps of it. -/
structure PoolCache.CachedV2Pool where
  pair : Address
  token0 : Address
  token1 : Address
  reserve0 : Nat
  reserve1 : Nat
  blockNumber : Nat
  cachedAt : Instant

structure PoolCache.CachedV3Pool where
  pool : Address
  token0 : Address
  token1 : Address
  sqrtPriceX96 : Nat
  liquidity : Nat
  currentTick : Int
  blockNumber : Nat
  cachedAt : Instant

structure PoolCacheEntry (T : Type) where
  data : T
  cachedAt : Instant
  blockNumber : Nat

structure CacheStats where
  v2Hits : Nat
  v2Misses : Nat
  v3Hits : Nat
  v3Misses : Nat
  staleReads : Nat
  refreshCount : Nat

/-- What `get_or_fetch_v2` and `get_or_fetch_v3` do not share: what the pool answers, what is kept of it, and
the counters. -/
structure PoolKind where
  Fetched : Type
  Data : Type
  cached : Address → Fetched → Nat → Instant → Data
  countHit : CacheStats → CacheStats
  countStale : CacheStats → CacheStats
  countMiss : CacheStats → CacheStats
  countRefresh : CacheStats → CacheStats

structure FetchedV2 where
  token0 : Address
  token1 : Address
  reserve0 : Nat
  reserve1 : Nat

structure FetchedV3 where
  token0 : Address
  token1 : Address
  liquidity : Nat
  sqrtPriceX96 : Nat
  tick : Int

def PoolKind.v2 : PoolKind where
  Fetched := FetchedV2
  Data := PoolCache.CachedV2Pool
  cached pair answer currentBlock now :=
    { pair := pair, token0 := answer.token0, token1 := answer.token1, reserve0 := answer.reserve0,
      reserve1 := answer.reserve1, blockNumber := currentBlock, cachedAt := now }
  countHit stats := { stats with v2Hits := stats.v2Hits + 1 }
  countStale stats := { stats with staleReads := stats.staleReads + 1 }
  countMiss stats := { stats with v2Misses := stats.v2Misses + 1 }
  countRefresh stats := { stats with refreshCount := stats.refreshCount + 1 }

/-- The V3 reader counts neither stale reads nor refreshes. -/
def PoolKind.v3 : PoolKind where
  Fetched := FetchedV3
  Data := PoolCache.CachedV3Pool
  cached pool answer currentBlock now :=
    { pool := pool, token0 := answer.token0, token1 := answer.token1, sqrtPriceX96 := answer.sqrtPriceX96,
      liquidity := answer.liquidity, currentTick := answer.tick, blockNumber := currentBlock, cachedAt := now }
  countHit stats := { stats with v3Hits := stats.v3Hits + 1 }
  countStale stats := stats
  countMiss stats := { stats with v3Misses := stats.v3Misses + 1 }
  countRefresh stats := stats

/-- The cache with the calls that wait for an answer of the chain, each with its pool and its block, the
fetches that have been completed so far, and what the calls have returned. -/
structure PoolCache (kind : PoolKind) where
  pools : Address → Option (PoolCacheEntry kind.Data)
  stats : CacheStats
  fetching : Nat → Option (Address × Nat)
  completed : List (Address × Nat)
  returned : List (Nat × Option kind.Data)

/-- A piece of a call between two awaits: the look into the cache, and the end of the fetch. -/
inductive PoolCacheStep (kind : PoolKind)
  | call (task : Nat) (pool : Address) (currentBlock : Nat) (now : Instant)
  | fetched (task : Nat) (answer : kind.Fetched) (now : Instant)
  | failed (task : Nat)

namespace PoolCache

variable {kind : PoolKind}

def new (kind : PoolKind) : PoolCache kind := ⟨fun _ => none, ⟨0, 0, 0, 0, 0, 0⟩, fun _ => none, [], []⟩

def ageMs (now cachedAt : Instant) : Nat := (now - cachedAt) / 1000000

/-- A miss, with the counters as they stand then. The call goes on waiting for the pool's answer. -/
def miss (cache : PoolCache kind) (stats : CacheStats) (task : Nat) (pool : Address) (currentBlock : Nat) :
    PoolCache kind :=
  { cache with
    stats := kind.countMiss stats
    fetching := Function.update cache.fetching task (some (pool, currentBlock)) }

/-- The look into the cache, up to the fetch. -/
def lookUp (ttlMs : Nat) (cache : PoolCache kind) (task : Nat) (pool : Address) (currentBlock : Nat)
    (now : Instant) : PoolCache kind :=
  match cache.pools pool with
  | none => cache.miss cache.stats task pool currentBlock
  | some entry =>
    if ageMs now entry.cachedAt < ttlMs ∧ currentBlock - 5 ≤ entry.blockNumber then
      { cache with stats := kind.countHit cache.stats, returned := cache.returned ++ [(task, some entry.data)] }
    else if ttlMs ≤ ageMs now entry.cachedAt then cache.miss (kind.countStale cache.stats) task pool currentBlock
    else cache.miss cache.stats task pool currentBlock

/-- The end of a fetch: what came back replaces what is there, whatever its block. -/
def insert (cache : PoolCache kind) (task : Nat) (pool : Address) (currentBlock : Nat) (answer : kind.Fetched)
    (now : Instant) : PoolCache kind where
  pools := Function.update cache.pools pool
    (some ⟨kind.cached pool answer currentBlock now, now, currentBlock⟩)
  stats := kind.countRefresh cache.stats
  fetching := Function.update cache.fetching task none
  completed := cache.completed ++ [(pool, currentBlock)]
  returned := cache.returned ++ [(task, some (kind.cached pool answer currentBlock now))]

/-- The calls of all tasks, in any interleaving of their pieces. -/
def system (kind : PoolKind) (ttlMs : Nat) : Transition.System (PoolCache kind) (PoolCacheStep kind)
  | cache, .call task pool currentBlock now =>
    match cache.fetching task with
    | none => some (cache.lookUp ttlMs task pool currentBlock now)
    | some _ => none
  | cache, .fetched task answer now =>
    match cache.fetching task with
    | none => none
    | some (pool, currentBlock) => some (cache.insert task pool currentBlock answer now)
  | cache, .failed task =>
    match cache.fetching task with
    | none => none
    | some _ => some { cache with
        fetching := Function.update cache.fetching task none
        returned := cache.returned ++ [(task, none)] }

@[simp] theorem pools_lookUp (ttlMs : Nat) (cache : PoolCache kind) (task : Nat) (pool : Address)
    (currentBlock : Nat) (now : Instant) : (cache.lookUp ttlMs task pool currentBlock now).pools = cache.pools := by
  unfold lookUp
  split
  · rfl
  · split_ifs <;> rfl

@[simp] theorem completed_lookUp (ttlMs : Nat) (cache : PoolCache kind) (task : Nat) (pool : Address)
    (currentBlock : Nat) (now : Instant) :
    (cache.lookUp ttlMs task pool currentBlock now).completed = cache.completed := by
  unfold lookUp
  split
  · rfl
  · split_ifs <;> rfl

/-- A step leaves the entries alone, or it is the end of a fetch. -/
theorem system_cases {ttlMs : Nat} {cache next : PoolCache kind} {label : PoolCacheStep kind}
    (step : system kind ttlMs cache label = some next) :
    (next.pools = cache.pools ∧ next.completed = cache.completed) ∨
    ∃ task pool currentBlock answer now, next = cache.insert task pool currentBlock answer now := by
  cases label with
  | call task pool currentBlock now =>
    cases waiting : cache.fetching task with
    | some fetch => simp [system, waiting] at step
    | none =>
      simp only [system, waiting, Option.some.injEq] at step
      rw [← step]
      exact Or.inl ⟨pools_lookUp .., completed_lookUp ..⟩
  | fetched task answer now =>
    cases waiting : cache.fetching task with
    | none => simp [system, waiting] at step
    | some fetch =>
      obtain ⟨pool, currentBlock⟩ := fetch
      simp only [system, waiting, Option.some.injEq] at step
      exact Or.inr ⟨task, pool, currentBlock, answer, now, step.symm⟩
  | failed task =>
    cases waiting : cache.fetching task with
    | none => simp [system, waiting] at step
    | some fetch =>
      simp only [system, waiting, Option.some.injEq] at step
      rw [← step]
      exact Or.inl ⟨rfl, rfl⟩

/-- The blocks of the completed fetches of a pool, in the order of their completion. -/
def completedBlocks (cache : PoolCache kind) (pool : Address) : List Nat :=
  (cache.completed.filter fun fetch => fetch.1 = pool).map Prod.snd

theorem completedBlocks_insert (cache : PoolCache kind) (task : Nat) (pool other : Address) (currentBlock : Nat)
    (answer : kind.Fetched) (now : Instant) :
    (cache.insert task pool currentBlock answer now).completedBlocks other =
      cache.completedBlocks other ++ if pool = other then [currentBlock] else [] := by
  unfold completedBlocks insert
  rw [List.filter_append, List.map_append]
  by_cases same : pool = other
  · simp [same]
  · simp [same]

/-- The entry of a pool comes from the fetch that was completed last. -/
def Latest (cache : PoolCache kind) : Prop :=
  ∀ pool, (cache.pools pool).map PoolCacheEntry.blockNumber = (cache.completedBlocks pool).getLast?

theorem Latest.step {ttlMs : Nat} {cache next : PoolCache kind} {label : PoolCacheStep kind} (latest : Latest cache)
    (step : system kind ttlMs cache label = some next) : Latest next := by
  intro pool
  rcases system_cases step with ⟨pools, completed⟩ | ⟨task, fetched, currentBlock, answer, now, rfl⟩
  · rw [pools, completedBlocks, completed]
    exact latest pool
  · rw [completedBlocks_insert]
    by_cases same : fetched = pool
    · subst same
      simp [insert]
    · rw [if_neg same, List.append_nil, ← latest pool]
      simp [insert, Function.update_of_ne (Ne.symm same)]

theorem latest_new (kind : PoolKind) : Latest (new kind) := fun _ => rfl

/-- The entry of the pool is not replaced by an older one. -/
def Forward (pool : Address) (cache : PoolCache kind) (_ : PoolCacheStep kind) (next : PoolCache kind) : Prop :=
  ∀ entry entry', cache.pools pool = some entry → next.pools pool = some entry' → entry.blockNumber ≤ entry'.blockNumber

theorem forward_of_pools {pool : Address} {cache next : PoolCache kind} {label : PoolCacheStep kind}
    (same : next.pools pool = cache.pools pool) : Forward pool cache label next := by
  intro entry entry' before after
  rw [same, before] at after
  rw [Option.some.inj after]

/-- An insertion goes forward when its block is not below that of the fetch completed before it. -/
theorem forward_insert_iff {pool : Address} {cache : PoolCache kind} {label : PoolCacheStep kind} (latest : Latest cache)
    (task currentBlock : Nat) (answer : kind.Fetched) (now : Instant) :
    Forward pool cache label (cache.insert task pool currentBlock answer now) ↔
      ∀ block ∈ (cache.completedBlocks pool).getLast?, block ≤ currentBlock := by
  rw [← latest pool]
  constructor
  · intro forward block known
    obtain ⟨entry, present, rfl⟩ := Option.map_eq_some_iff.mp known
    exact forward entry _ present (Function.update_self ..)
  · intro bound entry entry' before after
    have inserted : (cache.insert task pool currentBlock answer now).pools pool =
        some ⟨kind.cached pool answer currentBlock now, now, currentBlock⟩ := Function.update_self ..
    cases Option.some.inj (inserted.symm.trans after)
    exact bound entry.blockNumber (by rw [before]; rfl)

/-- The entry of a pool never goes back over a run exactly when its fetches are completed in the order of
their blocks. -/
theorem everyStep_forward_iff {ttlMs : Nat} {pool : Address} {steps : List (PoolCacheStep kind)} {last : PoolCache kind}
    (reached : (system kind ttlMs).after (new kind) steps = some last) :
    (system kind ttlMs).EveryStep (Forward pool) (new kind) steps ↔
      (last.completedBlocks pool).Pairwise (· ≤ ·) := by
  rw [← List.isChain_iff_pairwise]
  induction steps using List.reverseRecOn generalizing last with
  | nil =>
    cases Option.some.inj reached
    exact ⟨fun _ => .nil, fun _ => Transition.System.everyStep_nil⟩
  | append_singleton steps label ih =>
    obtain ⟨cache, before, step⟩ := Transition.System.after_concat_eq_some.mp reached
    have latest := Transition.System.invariant (fun _ _ _ => Latest.step) (latest_new kind) before
    rw [Transition.System.everyStep_concat before step, ih before]
    rcases system_cases step with ⟨pools, completed⟩ | ⟨task, fetched, currentBlock, answer, now, rfl⟩
    · have same : last.completedBlocks pool = cache.completedBlocks pool := by
        rw [completedBlocks, completed, completedBlocks]
      have forward : Forward pool cache label last := forward_of_pools (by rw [pools])
      simp only [same, forward, and_true]
    · rw [completedBlocks_insert]
      by_cases same : fetched = pool
      · subst same
        rw [if_pos rfl, List.isChain_append, forward_insert_iff latest]
        simp
      · have untouched : Forward pool cache label (cache.insert task fetched currentBlock answer now) :=
          forward_of_pools (Function.update_of_ne (Ne.symm same) ..)
        simp only [if_neg same, List.append_nil, untouched, and_true]

/-- Neither reader's entry of a pool is ever replaced by an older one exactly when the fetches of the pool are
completed in the order of their blocks. The insertion itself does not compare the blocks. -/
theorem pool_cache_forward_iff (ttlMs : Nat) (pool : Address) :
    (∀ steps last, (system .v2 ttlMs).after (new .v2) steps = some last →
      ((system .v2 ttlMs).EveryStep (Forward pool) (new .v2) steps ↔
        (last.completedBlocks pool).Pairwise (· ≤ ·))) ∧
    ∀ steps last, (system .v3 ttlMs).after (new .v3) steps = some last →
      ((system .v3 ttlMs).EveryStep (Forward pool) (new .v3) steps ↔
        (last.completedBlocks pool).Pairwise (· ≤ ·)) :=
  ⟨fun _ _ => everyStep_forward_iff, fun _ _ => everyStep_forward_iff⟩

/-- Two calls that miss at once, for a block and for the one behind it, and the ends of their fetches. -/
def sampleSteps (first second : Nat) : List (PoolCacheStep .v2) :=
  [.call 0 7 10 0, .call 1 7 11 1, .fetched first ⟨1, 2, 500, 600⟩ 2, .fetched second ⟨1, 2, 400, 700⟩ 3]

/-- The cache behind the first of the steps. -/
def sampleCache (first second count : Nat) : PoolCache .v2 :=
  ((system .v2 120).after (new .v2) ((sampleSteps first second).take count)).getD (new .v2)

theorem pool_cache_forward_sample : (system .v2 120).EveryStep (Forward 7) (new .v2) (sampleSteps 0 1) :=
  ((pool_cache_forward_iff 120 7).1 (sampleSteps 0 1) (sampleCache 0 1 4) rfl).mpr (by decide)

/-- The newer fetch is completed first, and the older one overwrites it. -/
theorem pool_cache_goes_back :
    ((system .v2 120).after (new .v2) (sampleSteps 1 0)).isSome = true ∧
    ¬ (system .v2 120).EveryStep (Forward 7) (new .v2) (sampleSteps 1 0) := by
  refine ⟨rfl, ?_⟩
  intro every
  have back := every ((sampleSteps 1 0).take 3) (.fetched 0 ⟨1, 2, 400, 700⟩ 3) (sampleCache 1 0 3) (sampleCache 1 0 4)
    (List.prefix_refl _) rfl rfl _ _ rfl rfl
  exact absurd back (by decide)

end PoolCache

end ArbitrageRuntime
