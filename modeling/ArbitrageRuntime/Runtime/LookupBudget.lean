import ArbitrageRuntime.Runtime.MempoolIntake

namespace ArbitrageRuntime

/-- What the operator allows for, within the range of the setting. -/
def operatorLimit (configured : Nat) : Nat := min (max configured 1) 1000

/-- The capacity of the readers that a mode counts on at least. -/
def modeCapacityFloor : OpportunityMode → Nat
  | .conservative => 8
  | .aggressive => 10
  | .scavenger => 4

def readerLimit (mode : OpportunityMode) (pressure : RpcLookupPressure) : Nat :=
  max pressure.availableReadCapacityPerSec (modeCapacityFloor mode)

/-- What is looked up however great the pressure is. -/
def budgetFloor (pressure : RpcLookupPressure) : Nat := if pressure.availableReaders = 0 then 4 else 10

def configuredMultiplier (pressure : RpcLookupPressure) : ℚ :=
  if pressure.availableReaders = 0 then 5 / 100
  else if 0 < pressure.rateLimitedReaders then 25 / 100
  else if pressure.availableReaders < pressure.failingReaders then 60 / 100
  else 1

theorem configuredMultiplier_le (pressure : RpcLookupPressure) : configuredMultiplier pressure ≤ 1 := by
  unfold configuredMultiplier
  split
  · norm_num
  · split
    · norm_num
    · split <;> norm_num

theorem effectivePendingLookupBudget_configured (mode : OpportunityMode) (configured : Nat)
    (pressure : RpcLookupPressure) :
    effectivePendingLookupBudgetForMode mode (some configured) pressure =
      max (Rounding.halfUp (min (operatorLimit configured) (readerLimit mode pressure) *
        configuredMultiplier pressure)).toNat (budgetFloor pressure) := by
  have limit : max 1 (min configured 1000) = operatorLimit configured := by unfold operatorLimit; omega
  unfold effectivePendingLookupBudgetForMode
  simp only [Option.getD_some, Option.isSome_some, if_true, limit]
  cases mode <;> rfl

/-- Rounding a share of a whole number never passes the number. -/
theorem halfUp_mul_le (base : Nat) {share : ℚ} (le : share ≤ 1) : (Rounding.halfUp (base * share)).toNat ≤ base := by
  have bound : (base : ℚ) * share ≤ base := mul_le_of_le_one_right (Nat.cast_nonneg base) le
  have below : Rounding.halfUp (base * share) < (base : Int) + 1 := by
    unfold Rounding.halfUp
    rw [Int.floor_lt]
    push_cast
    linarith
  omega

/-- The limits stand exactly when the floor, which has the last word, is below both. -/
theorem configuredBudget_le_iff (mode : OpportunityMode) (configured : Nat) (pressure : RpcLookupPressure) :
    (effectivePendingLookupBudgetForMode mode (some configured) pressure ≤ operatorLimit configured ∧
      effectivePendingLookupBudgetForMode mode (some configured) pressure ≤ readerLimit mode pressure) ↔
      budgetFloor pressure ≤ configured ∧
        (pressure.availableReaders ≠ 0 → 10 ≤ pressure.availableReadCapacityPerSec ∨ mode = .aggressive) := by
  rw [effectivePendingLookupBudget_configured]
  have rounded := halfUp_mul_le (min (operatorLimit configured) (readerLimit mode pressure))
    (configuredMultiplier_le pressure)
  have respected : ∀ limit, min (operatorLimit configured) (readerLimit mode pressure) ≤ limit →
      (max (Rounding.halfUp (min (operatorLimit configured) (readerLimit mode pressure) *
        configuredMultiplier pressure)).toNat (budgetFloor pressure) ≤ limit ↔ budgetFloor pressure ≤ limit) := by
    intro limit le
    omega
  rw [respected _ (min_le_left _ _), respected _ (min_le_right _ _)]
  unfold budgetFloor operatorLimit readerLimit
  cases mode <;> simp only [modeCapacityFloor, reduceCtorEq, or_false, or_true, implies_true, and_true] <;> split <;>
    omega

theorem effectivePendingLookupBudget_le (mode : OpportunityMode) (configured : Option Nat)
    (pressure : RpcLookupPressure) :
    effectivePendingLookupBudgetForMode mode configured pressure ≤ 1000 := by
  have floor : budgetFloor pressure ≤ 1000 := by unfold budgetFloor; split <;> omega
  cases configured with
  | some value =>
    have rounded := halfUp_mul_le (min (operatorLimit value) (readerLimit mode pressure))
      (configuredMultiplier_le pressure)
    have limit : operatorLimit value ≤ 1000 := min_le_right _ _
    rw [effectivePendingLookupBudget_configured]
    omega
  | none =>
    unfold effectivePendingLookupBudgetForMode
    simp only [Option.getD_none, Option.isSome_none, Bool.false_eq_true, if_false]
    refine max_le ((halfUp_mul_le _ ?_).trans ?_) floor
    · repeat' split
      all_goals norm_num
    · refine (min_le_left _ _).trans ?_
      cases mode <;> decide

/-- One hash that asks to be looked up. -/
structure LookupCheck where
  budget : Nat
  allowed : Bool

/-- The greatest budget of a number of checks. -/
def largestBudget : List LookupCheck → Nat
  | [] => 0
  | check :: checks => max check.budget (largestBudget checks)

namespace PendingLookupBackpressure

def new (now : Instant) : PendingLookupBackpressure where
  windowStarted := now
  acceptedInWindow := 0
  pressureRefreshedAt := now - 2 * nanosPerSec
  pressure := ⟨1, 25, 0, 0⟩

variable (backpressure : PendingLookupBackpressure) (delivery : Delivery)

/-- The window of the last check is over. -/
def reopens : Bool := nanosPerSec ≤ delivery.now - backpressure.windowStarted

def budgetAt : Nat :=
  effectivePendingLookupBudgetForMode delivery.settings.mev.opportunityMode delivery.settings.pendingLookupMaxPerSec
    (backpressure.refresh delivery).pressure

theorem refresh_accepted : (backpressure.refresh delivery).acceptedInWindow =
    if backpressure.reopens delivery then 0 else backpressure.acceptedInWindow := by
  unfold refresh reopens
  dsimp only
  by_cases ended : nanosPerSec ≤ delivery.now - backpressure.windowStarted
  · simp only [ended, if_true, decide_true]
    split <;> rfl
  · simp only [ended, if_false, decide_false, Bool.false_eq_true]
    split <;> rfl

/-- All that a check does to the counter. -/
theorem shouldEnqueue_spec :
    ((backpressure.shouldEnqueue delivery).2 = true ∧
      (backpressure.refresh delivery).acceptedInWindow < backpressure.budgetAt delivery ∧
      (backpressure.shouldEnqueue delivery).1.acceptedInWindow =
        (backpressure.refresh delivery).acceptedInWindow + 1) ∨
    ((backpressure.shouldEnqueue delivery).2 = false ∧
      (backpressure.shouldEnqueue delivery).1.acceptedInWindow =
        (backpressure.refresh delivery).acceptedInWindow) := by
  have bounded : backpressure.budgetAt delivery ≤ 1000 := effectivePendingLookupBudget_le _ _ _
  unfold shouldEnqueue
  dsimp only
  split
  · rename_i free
    have below : (backpressure.refresh delivery).acceptedInWindow < backpressure.budgetAt delivery := free.1
    refine Or.inl ⟨rfl, below, ?_⟩
    exact Saturating.add_eq (by unfold u64Max; omega)
  · exact Or.inr ⟨rfl, rfl⟩

end PendingLookupBackpressure

/-- A run of checks with those of the current window, newest first. -/
structure WatchedLookups where
  backpressure : PendingLookupBackpressure
  window : List LookupCheck

namespace WatchedLookups

def check (watched : WatchedLookups) (delivery : Delivery) : WatchedLookups where
  backpressure := (watched.backpressure.shouldEnqueue delivery).1
  window :=
    ⟨watched.backpressure.budgetAt delivery, (watched.backpressure.shouldEnqueue delivery).2⟩ ::
    if watched.backpressure.reopens delivery then [] else watched.window

def run (start : Instant) (deliveries : List Delivery) : WatchedLookups :=
  deliveries.foldl check ⟨.new start, []⟩

/-- The counter counts the hashes of the window, which are not more than the greatest budget. -/
structure Within (watched : WatchedLookups) : Prop where
  counted : watched.window.countP LookupCheck.allowed = watched.backpressure.acceptedInWindow
  bounded : watched.backpressure.acceptedInWindow ≤ largestBudget watched.window

theorem Within.check {watched : WatchedLookups} (within : watched.Within) (delivery : Delivery) :
    (watched.check delivery).Within := by
  have before : (if watched.backpressure.reopens delivery then [] else watched.window).countP LookupCheck.allowed =
      (watched.backpressure.refresh delivery).acceptedInWindow ∧
      (watched.backpressure.refresh delivery).acceptedInWindow ≤
        largestBudget (if watched.backpressure.reopens delivery then [] else watched.window) := by
    rw [PendingLookupBackpressure.refresh_accepted]
    split
    · exact ⟨rfl, le_rfl⟩
    · exact ⟨within.counted, within.bounded⟩
  obtain ⟨counted, bounded⟩ := before
  rcases watched.backpressure.shouldEnqueue_spec delivery with ⟨allowed, below, next⟩ | ⟨refused, next⟩
  · constructor
    · simp only [WatchedLookups.check, List.countP_cons, allowed, if_true, counted, next]
    · simp only [WatchedLookups.check, largestBudget, next]
      omega
  · constructor
    · simp only [WatchedLookups.check, List.countP_cons, refused, counted, next]
      rfl
    · simp only [WatchedLookups.check, largestBudget, next]
      omega

theorem window_within (start : Instant) (deliveries : List Delivery) :
    (run start deliveries).Within := by
  induction deliveries using List.reverseRecOn with
  | nil => exact ⟨rfl, le_rfl⟩
  | append_singleton front delivery ih =>
    unfold run at ih ⊢
    rw [List.foldl_append]
    exact ih.check delivery

end WatchedLookups

/-- The configured limit and the capacity of the readers hold exactly when the floor is below both. The counter always
stays within the greatest budget of its window. -/
theorem lookupBudget_keeps_limits_iff (mode : OpportunityMode) (configured : Nat) (pressure : RpcLookupPressure)
    (start : Instant) (deliveries : List Delivery) :
    ((effectivePendingLookupBudgetForMode mode (some configured) pressure ≤ operatorLimit configured ∧
      effectivePendingLookupBudgetForMode mode (some configured) pressure ≤ readerLimit mode pressure) ∧
      (WatchedLookups.run start deliveries).window.countP LookupCheck.allowed ≤
        largestBudget (WatchedLookups.run start deliveries).window) ↔
      budgetFloor pressure ≤ configured ∧
        (pressure.availableReaders ≠ 0 → 10 ≤ pressure.availableReadCapacityPerSec ∨ mode = .aggressive) := by
  have within := WatchedLookups.window_within start deliveries
  rw [configuredBudget_le_iff]
  exact and_iff_left (within.counted.trans_le within.bounded)

/-- A limit of one hash a second lets ten through, and so do readers that have a capacity of five. -/
theorem lookupBudget_passes_limits :
    effectivePendingLookupBudgetForMode .scavenger (some 1) ⟨1, 25, 0, 0⟩ = 10 ∧ operatorLimit 1 = 1 ∧
      effectivePendingLookupBudgetForMode .scavenger (some 85) ⟨1, 5, 0, 0⟩ = 10 ∧
      readerLimit .scavenger ⟨1, 5, 0, 0⟩ = 5 := by
  decide +kernel

end ArbitrageRuntime
