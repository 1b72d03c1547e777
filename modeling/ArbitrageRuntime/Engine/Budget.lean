import ArbitrageRuntime.Config
import Mathlib.Algebra.BigOperators.Group.List.Basic

namespace ArbitrageRuntime

abbrev Hash := BitVec 256

/-- Nanoseconds of the monotonic clock. -/
abbrev Instant := Nat

def nanosPerSec : Nat := 1000000000

/-- `now.saturating_duration_since(earlier).as_secs()` -/
def secsSince (now earlier : Instant) : Nat := (now - earlier) / nanosPerSec

/-- A value behind a lock that is poisoned once a task has panicked inside it. -/
structure Mutex (α : Type) where
  value : α
  poisoned : Bool

def Mutex.lock {α : Type} (mutex : Mutex α) : Option α := if mutex.poisoned then none else some mutex.value

structure ClusterKey where
  router : Address
  tokenIn : Address
  tokenOut : Address
  selector : Selector
  deriving DecidableEq

structure BudgetReservation where
  reservedAt : Instant
  cluster : ClusterKey
  pair : Address
  victimTx : Hash
  capitalEth : ℚ
  deriving DecidableEq

/-- The reservations, oldest first. -/
structure CapitalBudget where
  reservations : List BudgetReservation
  deriving DecidableEq

structure BudgetDecision where
  allowed : Bool
  rejectReason : String
  capitalEth : ℚ
  totalWindowEth : ℚ
  clusterWindowEth : ℚ
  pairWindowEth : ℚ

namespace CapitalBudget

def prune (budget : CapitalBudget) (now : Instant) (windowSecs : Nat) : CapitalBudget where
  reservations := budget.reservations.dropWhile fun entry => windowSecs < secsSince now entry.reservedAt

/-- The capital of the reservations that `counts` selects. -/
def windowEth (budget : CapitalBudget) (counts : BudgetReservation → Bool) : ℚ :=
  ((budget.reservations.filter counts).map BudgetReservation.capitalEth).sum

def rejectReason (mev : MevConfig) (totalAfter clusterAfter pairAfter : ℚ) : Option String :=
  if mev.maxWindowExposureEth < totalAfter then some "window_exposure_limit"
  else if mev.maxClusterWindowExposureEth < clusterAfter then some "cluster_window_limit"
  else if mev.maxPairWindowExposureEth < pairAfter then some "pair_window_limit"
  else none

def checkAndReserve (budget : CapitalBudget) (mev : MevConfig) (request : BudgetReservation) :
    BudgetDecision × CapitalBudget :=
  let pruned := budget.prune request.reservedAt mev.capitalWindowSecs
  let totalAfter := pruned.windowEth (fun _ => true) + request.capitalEth
  let clusterAfter := pruned.windowEth (fun entry => entry.cluster == request.cluster) + request.capitalEth
  let pairAfter := pruned.windowEth (fun entry => entry.pair == request.pair) + request.capitalEth
  let reason := rejectReason mev totalAfter clusterAfter pairAfter
  ({ allowed := reason.isNone
     rejectReason := reason.getD "allowed"
     capitalEth := request.capitalEth
     totalWindowEth := totalAfter
     clusterWindowEth := clusterAfter
     pairWindowEth := pairAfter },
   if reason.isNone then { reservations := pruned.reservations ++ [request] } else pruned)

def release (budget : CapitalBudget) (victimTx : Hash) : CapitalBudget where
  reservations := budget.reservations.filter fun reservation => reservation.victimTx ≠ victimTx

theorem mem_checkAndReserve {budget : CapitalBudget} {mev : MevConfig} {request : BudgetReservation}
    (allowed : (budget.checkAndReserve mev request).1.allowed = true) :
    request ∈ (budget.checkAndReserve mev request).2.reservations := by
  change Option.isNone _ = true at allowed
  simp only [checkAndReserve, allowed, if_true]
  exact List.mem_append_right _ (List.mem_singleton.mpr rfl)

theorem victimTx_ne_of_mem_release {budget : CapitalBudget} {victimTx : Hash} {reservation : BudgetReservation}
    (member : reservation ∈ (budget.release victimTx).reservations) : reservation.victimTx ≠ victimTx := by
  have kept := (List.mem_filter.mp member).2
  exact of_decide_eq_true kept

end CapitalBudget

/-- A poisoned lock lets every request pass, without a reservation. -/
def checkAndReserveBudget (capitalBudget : Mutex CapitalBudget) (mev : MevConfig) (request : BudgetReservation) :
    BudgetDecision × Mutex CapitalBudget :=
  match capitalBudget.lock with
  | none =>
    ({ allowed := true
       rejectReason := "budget_lock_unavailable"
       capitalEth := request.capitalEth
       totalWindowEth := 0
       clusterWindowEth := 0
       pairWindowEth := 0 }, capitalBudget)
  | some budget =>
    let decided := budget.checkAndReserve mev request
    (decided.1, { capitalBudget with value := decided.2 })

def releaseBudget (capitalBudget : Mutex CapitalBudget) (victimTx : Hash) : Mutex CapitalBudget :=
  match capitalBudget.lock with
  | none => capitalBudget
  | some budget => { capitalBudget with value := budget.release victimTx }

theorem Mutex.lock_eq_some {α : Type} {mutex : Mutex α} (healthy : mutex.poisoned = false) :
    mutex.lock = some mutex.value := by
  simp [Mutex.lock, healthy]

theorem Mutex.poisoned_of_lock {α : Type} {mutex : Mutex α} (stuck : mutex.lock = none) : mutex.poisoned = true := by
  by_contra healthy
  rw [Bool.not_eq_true] at healthy
  rw [Mutex.lock_eq_some healthy] at stuck
  exact absurd stuck (by simp)

theorem checkAndReserveBudget_healthy {capitalBudget : Mutex CapitalBudget} (healthy : capitalBudget.poisoned = false)
    (mev : MevConfig) (request : BudgetReservation) :
    checkAndReserveBudget capitalBudget mev request =
      ((capitalBudget.value.checkAndReserve mev request).1,
        { capitalBudget with value := (capitalBudget.value.checkAndReserve mev request).2 }) := by
  simp only [checkAndReserveBudget, Mutex.lock_eq_some healthy]

/-- After a release no reservation of the victim is left. -/
theorem victimTx_ne_of_mem_releaseBudget {capitalBudget : Mutex CapitalBudget} {victimTx : Hash}
    {reservation : BudgetReservation} (healthy : capitalBudget.poisoned = false)
    (member : reservation ∈ (releaseBudget capitalBudget victimTx).value.reservations) :
    reservation.victimTx ≠ victimTx := by
  simp only [releaseBudget, Mutex.lock_eq_some healthy] at member
  exact CapitalBudget.victimTx_ne_of_mem_release member

end ArbitrageRuntime
