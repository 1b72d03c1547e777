import ArbitrageRuntime.Lib.SlidingWindow
import ArbitrageRuntime.Engine.Budget
import ArbitrageRuntime.Decoder.Signal

namespace ArbitrageRuntime

/-- A call of the capital budget. A request carries the time at which it is made. -/
inductive BudgetCall
  | checkAndReserve (request : BudgetReservation)
  | release (now : Instant) (victimTx : Hash)
  | prune (now : Instant)

def BudgetCall.now : BudgetCall → Instant
  | .checkAndReserve request => request.reservedAt
  | .release now _ => now
  | .prune now => now

namespace CapitalBudget

def empty : CapitalBudget := ⟨[]⟩

def apply (mev : MevConfig) (budget : CapitalBudget) : BudgetCall → CapitalBudget
  | .checkAndReserve request => (budget.checkAndReserve mev request).2
  | .release _ victimTx => budget.release victimTx
  | .prune now => budget.prune now mev.capitalWindowSecs

def run (mev : MevConfig) (calls : List BudgetCall) : CapitalBudget := calls.foldl (apply mev) empty

theorem windowEth_eq_load (budget : CapitalBudget) (counts : BudgetReservation → Bool) :
    budget.windowEth counts = SlidingWindow.load BudgetReservation.capitalEth counts budget.reservations := rfl

/-- A limit below zero stands for zero: it lets nothing in, and nothing weighs zero. -/
structure Within (mev : MevConfig) (budget : CapitalBudget) : Prop where
  total : budget.windowEth (fun _ => true) ≤ max mev.maxWindowExposureEth 0
  cluster : ∀ cluster, budget.windowEth (fun entry => entry.cluster == cluster) ≤ max mev.maxClusterWindowExposureEth 0
  pair : ∀ pair, budget.windowEth (fun entry => entry.pair == pair) ≤ max mev.maxPairWindowExposureEth 0

/-- The state of a budget up to a time. -/
structure Holds (mev : MevConfig) (now : Instant) (budget : CapitalBudget) : Prop where
  ordered : budget.reservations.Pairwise fun older newer => older.reservedAt ≤ newer.reservedAt
  past : ∀ reservation ∈ budget.reservations, reservation.reservedAt ≤ now
  nonneg : ∀ reservation ∈ budget.reservations, 0 ≤ reservation.capitalEth
  within : Within mev budget

variable {mev : MevConfig} {now later : Instant} {budget : CapitalBudget}

theorem holds_empty (mev : MevConfig) (now : Instant) : Holds mev now empty where
  ordered := .nil
  past := by simp [empty]
  nonneg := by simp [empty]
  within := by
    refine ⟨?_, ?_, ?_⟩
    · exact le_max_right _ _
    · intro cluster
      exact le_max_right _ _
    · intro pair
      exact le_max_right _ _

theorem Holds.mono (holds : Holds mev now budget) (after : now ≤ later) : Holds mev later budget where
  ordered := holds.ordered
  past := fun reservation member => (holds.past reservation member).trans after
  nonneg := holds.nonneg
  within := holds.within

/-- Expiries and releases only take reservations out. -/
theorem Holds.sublist (holds : Holds mev now budget) {fewer : CapitalBudget}
    (sub : fewer.reservations.Sublist budget.reservations) : Holds mev now fewer where
  ordered := holds.ordered.sublist sub
  past := fun reservation member => holds.past reservation (sub.subset member)
  nonneg := fun reservation member => holds.nonneg reservation (sub.subset member)
  within := by
    have less : ∀ counts, fewer.windowEth counts ≤ budget.windowEth counts :=
      fun counts => SlidingWindow.load_le_of_sublist sub holds.nonneg
    refine ⟨(less _).trans holds.within.total, ?_, ?_⟩
    · intro cluster
      exact (less _).trans (holds.within.cluster cluster)
    · intro pair
      exact (less _).trans (holds.within.pair pair)

theorem Holds.prune (holds : Holds mev now budget) (at' : Instant) (windowSecs : Nat) :
    Holds mev now (budget.prune at' windowSecs) :=
  holds.sublist (List.dropWhile_sublist _)

theorem Holds.release (holds : Holds mev now budget) (victimTx : Hash) : Holds mev now (budget.release victimTx) :=
  holds.sublist List.filter_sublist

/-- The reservations stand in the order of their times, so that the expired ones are in front. -/
theorem prune_eq_filter
    (ordered : budget.reservations.Pairwise fun older newer => older.reservedAt ≤ newer.reservedAt) (now : Instant)
    (windowSecs : Nat) : (budget.prune now windowSecs).reservations =
      budget.reservations.filter fun entry => !decide (windowSecs < secsSince now entry.reservedAt) := by
  refine SlidingWindow.dropWhile_eq_filter (ordered.imp ?_)
  intro older newer before expired
  have longer : secsSince now newer.reservedAt ≤ secsSince now older.reservedAt :=
    Nat.div_le_div_right (Nat.sub_le_sub_left before now)
  have passed := of_decide_eq_true expired
  exact decide_eq_true (by omega)

/-- The reason for a rejection, over the three sums with the request. -/
theorem rejectReason_none {totalAfter clusterAfter pairAfter : ℚ} :
    rejectReason mev totalAfter clusterAfter pairAfter = none ↔
      totalAfter ≤ mev.maxWindowExposureEth ∧ clusterAfter ≤ mev.maxClusterWindowExposureEth ∧
        pairAfter ≤ mev.maxPairWindowExposureEth := by
  unfold rejectReason
  split_ifs with total cluster pair
  · simp [total]
  · simp [cluster]
  · simp [pair]
  · simp [not_lt.mp total, not_lt.mp cluster, not_lt.mp pair]

/-- A request is allowed when the three sums with it keep to the limits. -/
theorem checkAndReserve_allowed (budget : CapitalBudget) (mev : MevConfig) (request : BudgetReservation) :
    (budget.checkAndReserve mev request).1.allowed = true ↔
      let pruned := budget.prune request.reservedAt mev.capitalWindowSecs
      pruned.windowEth (fun _ => true) + request.capitalEth ≤ mev.maxWindowExposureEth ∧
      pruned.windowEth (fun entry => entry.cluster == request.cluster) + request.capitalEth ≤
        mev.maxClusterWindowExposureEth ∧
      pruned.windowEth (fun entry => entry.pair == request.pair) + request.capitalEth ≤
        mev.maxPairWindowExposureEth := by
  simp only [checkAndReserve, Option.isNone_iff_eq_none]
  exact rejectReason_none

theorem checkAndReserve_of_allowed {request : BudgetReservation}
    (allowed : (budget.checkAndReserve mev request).1.allowed = true) :
    (budget.checkAndReserve mev request).2.reservations =
      (budget.prune request.reservedAt mev.capitalWindowSecs).reservations ++ [request] := by
  change Option.isNone _ = true at allowed
  simp only [checkAndReserve, if_pos allowed]

theorem checkAndReserve_of_rejected {request : BudgetReservation}
    (rejected : ¬ (budget.checkAndReserve mev request).1.allowed = true) :
    (budget.checkAndReserve mev request).2 = budget.prune request.reservedAt mev.capitalWindowSecs := by
  change ¬ Option.isNone _ = true at rejected
  simp only [checkAndReserve, if_neg rejected]

/-- What a new reservation adds to the sum of a class: nothing, unless it belongs to it. -/
theorem windowEth_concat {reservations : List BudgetReservation} {request : BudgetReservation}
    (same : budget.reservations = reservations ++ [request]) (counts : BudgetReservation → Bool) :
    budget.windowEth counts =
      (⟨reservations⟩ : CapitalBudget).windowEth counts + if counts request then request.capitalEth else 0 := by
  rw [windowEth_eq_load, same, SlidingWindow.load_concat]
  rfl

/-- A reservation that the checks let through keeps every sum below its limit. For its own cluster and
pair the check says so, and the other sums stay as they are. -/
theorem Holds.checkAndReserve (holds : Holds mev now budget) {request : BudgetReservation}
    (after : now ≤ request.reservedAt) (nonneg : 0 ≤ request.capitalEth) :
    Holds mev request.reservedAt (budget.checkAndReserve mev request).2 := by
  have pruned := (holds.mono after).prune request.reservedAt mev.capitalWindowSecs
  by_cases allowed : (budget.checkAndReserve mev request).1.allowed = true
  · have added := checkAndReserve_of_allowed allowed
    obtain ⟨total, cluster, pair⟩ := (checkAndReserve_allowed budget mev request).mp allowed
    have members : ∀ reservation ∈ (budget.checkAndReserve mev request).2.reservations,
        reservation ∈ (budget.prune request.reservedAt mev.capitalWindowSecs).reservations ∨ reservation = request := by
      intro reservation member
      rw [added] at member
      simpa using member
    refine ⟨?_, ?_, ?_, ?_, ?_, ?_⟩
    · rw [added]
      refine List.pairwise_append.mpr ⟨pruned.ordered, List.pairwise_singleton _ _, ?_⟩
      intro older member newer last
      rw [List.mem_singleton.mp last]
      exact pruned.past older member
    · intro reservation member
      rcases members reservation member with earlier | rfl
      · exact pruned.past reservation earlier
      · exact le_rfl
    · intro reservation member
      rcases members reservation member with earlier | rfl
      · exact pruned.nonneg reservation earlier
      · exact nonneg
    · rw [windowEth_concat added, if_pos rfl]
      exact total.trans (le_max_left _ _)
    · intro other
      rw [windowEth_concat added]
      by_cases own : (request.cluster == other) = true
      · rw [if_pos own, ← eq_of_beq own]
        exact cluster.trans (le_max_left _ _)
      · rw [if_neg own, add_zero]
        exact pruned.within.cluster other
    · intro other
      rw [windowEth_concat added]
      by_cases own : (request.pair == other) = true
      · rw [if_pos own, ← eq_of_beq own]
        exact pair.trans (le_max_left _ _)
      · rw [if_neg own, add_zero]
        exact pruned.within.pair other
  · rw [checkAndReserve_of_rejected allowed]
    exact pruned

theorem Holds.apply (holds : Holds mev now budget) {call : BudgetCall} (after : now ≤ call.now)
    (nonneg : ∀ request, call = .checkAndReserve request → 0 ≤ request.capitalEth) :
    Holds mev call.now (apply mev budget call) := by
  cases call with
  | checkAndReserve request => exact holds.checkAndReserve after (nonneg request rfl)
  | release at' victimTx => exact (holds.mono after).release victimTx
  | prune at' => exact (holds.mono after).prune at' mev.capitalWindowSecs

theorem Holds.foldl (holds : Holds mev now budget) {calls : List BudgetCall} (after : ∀ call ∈ calls, now ≤ call.now)
    (ordered : calls.Pairwise fun earlier later => earlier.now ≤ later.now)
    (nonneg : ∀ request, .checkAndReserve request ∈ calls → 0 ≤ request.capitalEth) :
    ∃ last, Holds mev last (calls.foldl (CapitalBudget.apply mev) budget) := by
  induction calls generalizing now budget with
  | nil => exact ⟨now, holds⟩
  | cons call calls ih =>
    obtain ⟨first, rest⟩ := List.pairwise_cons.mp ordered
    have next := holds.apply (after call List.mem_cons_self) fun request same =>
      nonneg request (same ▸ List.mem_cons_self)
    exact ih next first rest fun request member => nonneg request (List.mem_cons_of_mem call member)

/-- The capital budget over every sequence of calls. The three sums keep to their limits, a limit below zero
standing for zero. Pruning takes out what has expired and nothing else. A request that is rejected adds
nothing, and it is rejected exactly when one of the sums with it exceeds its limit. -/
theorem run_within {mev : MevConfig} {calls : List BudgetCall}
    (ordered : calls.Pairwise fun earlier later => earlier.now ≤ later.now)
    (nonneg : ∀ request, .checkAndReserve request ∈ calls → 0 ≤ request.capitalEth) :
    Within mev (run mev calls) ∧
    (run mev calls).reservations.Pairwise (fun older newer => older.reservedAt ≤ newer.reservedAt) ∧
    (∀ now, ((run mev calls).prune now mev.capitalWindowSecs).reservations =
      (run mev calls).reservations.filter fun entry =>
        !decide (mev.capitalWindowSecs < secsSince now entry.reservedAt)) ∧
    ∀ request, ((run mev calls).checkAndReserve mev request).1.allowed = false →
      ((run mev calls).checkAndReserve mev request).2 =
        (run mev calls).prune request.reservedAt mev.capitalWindowSecs ∧
      let pruned := (run mev calls).prune request.reservedAt mev.capitalWindowSecs
      mev.maxWindowExposureEth < pruned.windowEth (fun _ => true) + request.capitalEth ∨
      mev.maxClusterWindowExposureEth <
        pruned.windowEth (fun entry => entry.cluster == request.cluster) + request.capitalEth ∨
      mev.maxPairWindowExposureEth < pruned.windowEth (fun entry => entry.pair == request.pair) + request.capitalEth := by
  obtain ⟨last, holds⟩ := (holds_empty mev 0).foldl (fun _ _ => Nat.zero_le _) ordered nonneg
  refine ⟨holds.within, holds.ordered, fun now => prune_eq_filter holds.ordered now _, ?_⟩
  intro request rejected
  have refused : ¬ ((run mev calls).checkAndReserve mev request).1.allowed = true := by simp [rejected]
  refine ⟨checkAndReserve_of_rejected refused, ?_⟩
  by_contra fits
  simp only [not_or, not_lt] at fits
  exact refused ((checkAndReserve_allowed _ mev request).mpr fits)

/-- A request over so much capital, one second after the other. -/
def sampleRequest (second : Nat) (capitalEth : ℚ) : BudgetReservation where
  reservedAt := second * nanosPerSec
  cluster := ⟨1, 2, 3, .swapExactTokensForTokens⟩
  pair := 4
  victimTx := BitVec.ofNat 256 second
  capitalEth := capitalEth

def sampleCalls : List BudgetCall :=
  [.checkAndReserve (sampleRequest 1 (12 / 100)), .checkAndReserve (sampleRequest 2 (12 / 100)),
    .release (3 * nanosPerSec) 1, .prune (4 * nanosPerSec)]

theorem run_within_sampleCalls :
    Within testConfig.mev (run testConfig.mev sampleCalls) :=
  have ordered : sampleCalls.Pairwise fun earlier later => earlier.now ≤ later.now := by decide
  have nonneg : ∀ request, BudgetCall.checkAndReserve request ∈ sampleCalls → 0 ≤ request.capitalEth := by
    intro request member
    have amount : request = sampleRequest 1 (12 / 100) ∨ request = sampleRequest 2 (12 / 100) := by
      simpa [sampleCalls] using member
    rcases amount with rfl | rfl
    · decide +kernel
    · decide +kernel
  (run_within ordered nonneg).1

/-- With a limit below zero even the empty window is above it. -/
theorem empty_window_above_negative_limit :
    let mev := { testConfig.mev with maxWindowExposureEth := -1 }
    ¬ (run mev [.prune 0]).windowEth (fun _ => true) ≤ mev.maxWindowExposureEth := by
  decide

end CapitalBudget

end ArbitrageRuntime
