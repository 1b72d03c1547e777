import ArbitrageRuntime.Runtime.PreDecodeGate
import ArbitrageRuntime.Runtime.SeenWindow

namespace ArbitrageRuntime

inductive PendingMempoolItem
  | hash (hash : Hash)
  | full (tx : MempoolTransaction)
  deriving DecidableEq

def PendingMempoolItem.txHash : PendingMempoolItem → Hash
  | .hash txHash => txHash
  | .full tx => tx.hash

/-- What the RPC fleet reports about its readers. -/
structure RpcLookupPressure where
  availableReaders : Nat
  availableReadCapacityPerSec : Nat
  rateLimitedReaders : Nat
  failingReaders : Nat
  deriving DecidableEq

/-- The throttle on hash-only announcements. Its counter of dropped hashes only goes to the dashboard. -/
structure PendingLookupBackpressure where
  windowStarted : Instant
  acceptedInWindow : Nat
  pressureRefreshedAt : Instant
  pressure : RpcLookupPressure
  deriving DecidableEq

structure PendingHashTask where
  txHash : Hash
  pendingTx : Option MempoolTransaction
  deriving DecidableEq

/-- The configuration, with the two settings that the intake reads from the environment. -/
structure IntakeSettings where
  mev : MevConfig
  pendingLookupMaxPerSec : Option Nat
  preDecodeGasCapMultiplier : Option ℚ

def lookupDecodeQueueCapacity : Nat := 8192

def effectivePendingLookupBudgetForMode (mode : OpportunityMode) (configured : Option Nat)
    (pressure : RpcLookupPressure) : Nat :=
  let base := configured.getD (match mode with
    | .conservative => 60
    | .aggressive => 90
    | .scavenger => 25)
  let healthyReaderCap := max pressure.availableReadCapacityPerSec (match mode with
    | .scavenger => 4
    | .aggressive => 10
    | .conservative => 8)
  let base := if configured.isSome then min (max 1 (min base 1000)) healthyReaderCap else min base healthyReaderCap
  let pressureMultiplier : ℚ :=
    if configured.isSome then
      if pressure.availableReaders = 0 then 5 / 100
      else if 0 < pressure.rateLimitedReaders then 25 / 100
      else if pressure.availableReaders < pressure.failingReaders then 60 / 100
      else 1
    else if pressure.availableReaders = 0 then 3 / 100
    else if pressure.availableReaders ≤ 1 ∧ 0 < pressure.rateLimitedReaders then 18 / 100
    else if pressure.availableReaders ≤ 1 ∨ 0 < pressure.rateLimitedReaders then 28 / 100
    else if pressure.availableReaders < pressure.failingReaders then 45 / 100
    else 1
  let floor := if pressure.availableReaders = 0 then 4 else 10
  max (Rounding.halfUp (base * pressureMultiplier)).toNat floor

/-- What a delivery reads on its way through the mempool branch: the settings, of which the dashboard can switch the
mode, the clock, the load of the fleet and of the queue, and how many workers still hold the queue's receiver. -/
structure Delivery where
  item : PendingMempoolItem
  settings : IntakeSettings
  paused : Bool
  now : Instant
  lookupPressure : RpcLookupPressure
  queueRemaining : Nat
  workerHandles : Nat

/-- The handles on the receiver of the lookup queue: those of the workers, and the one of `run` that they are clones
of, which it keeps to its end. -/
def Delivery.receiverHandles (delivery : Delivery) : Nat := delivery.workerHandles + 1

def millis (n : Nat) : Nat := n * 1000000

namespace PendingLookupBackpressure

/-- The window and the reading of the fleet at the time of a check. -/
def refresh (backpressure : PendingLookupBackpressure) (delivery : Delivery) : PendingLookupBackpressure :=
  let reopened := if nanosPerSec ≤ delivery.now - backpressure.windowStarted then
    { backpressure with windowStarted := delivery.now, acceptedInWindow := 0 } else backpressure
  if millis 900 ≤ delivery.now - reopened.pressureRefreshedAt then
    { reopened with pressure := delivery.lookupPressure, pressureRefreshedAt := delivery.now }
  else reopened

def shouldEnqueue (backpressure : PendingLookupBackpressure) (delivery : Delivery) : PendingLookupBackpressure × Bool :=
  let current := backpressure.refresh delivery
  let maxPerSec := effectivePendingLookupBudgetForMode delivery.settings.mev.opportunityMode
    delivery.settings.pendingLookupMaxPerSec current.pressure
  let queueSoftFull := delivery.queueRemaining ≤ lookupDecodeQueueCapacity / 16
  if current.acceptedInWindow < maxPerSec ∧ ¬ queueSoftFull then
    ({ current with acceptedInWindow := u64Add current.acceptedInWindow 1 }, true)
  else (current, false)

end PendingLookupBackpressure

/-- What becomes of a delivery. -/
inductive Outcome
  | skipped
  | duplicate
  | shed
  | refused (reason : String)
  | enqueued (task : PendingHashTask)
  deriving DecidableEq

def Outcome.task : Outcome → Option PendingHashTask
  | .enqueued task => some task
  | _ => none

/-- A delivery whose hash was fresh, and what became of it. -/
structure Taking where
  item : PendingMempoolItem
  outcome : Outcome
  deriving DecidableEq

structure Intake where
  seen : SeenTxs
  backpressure : PendingLookupBackpressure
  takings : List Taking
  deriving DecidableEq

namespace Intake

def start (backpressure : PendingLookupBackpressure) : Intake := ⟨.empty, backpressure, []⟩

/-- The task for a delivery whose hash is fresh, or the reason why there is none. -/
def makeTask (backpressure : PendingLookupBackpressure) (delivery : Delivery) : PendingLookupBackpressure × Outcome :=
  match delivery.item with
  | .hash txHash =>
    let (backpressure, allowed) := backpressure.shouldEnqueue delivery
    (backpressure, if allowed then .enqueued ⟨txHash, none⟩ else .shed)
  | .full tx =>
    (backpressure, match preDecodeTxGate delivery.settings.mev delivery.settings.preDecodeGasCapMultiplier tx with
      | some reason => .refused reason
      | none => .enqueued ⟨tx.hash, some tx⟩)

/-- The mempool branch of the run loop, up to the send of the task. -/
def deliver (intake : Intake) (delivery : Delivery) : Intake × Outcome :=
  if delivery.paused then (intake, .skipped)
  else
    let (seen, fresh) := intake.seen.markSeenTx delivery.item.txHash
    if fresh then
      let (backpressure, outcome) := makeTask intake.backpressure delivery
      (⟨seen, backpressure, intake.takings ++ [⟨delivery.item, outcome⟩]⟩, outcome)
    else ({ intake with seen := seen }, .duplicate)

/-- The takings whose hashes are still held. -/
def window (intake : Intake) : List Taking := intake.takings.rtake SeenTxs.capacity

/-- A task for the hash has been enqueued within the deduplication window. -/
def EnqueuedInWindow (intake : Intake) (txHash : Hash) : Prop :=
  ∃ taking ∈ intake.window, taking.item.txHash = txHash ∧ ∃ task, taking.outcome = .enqueued task

/-- The hash was shed as an announcement, or refused as a transaction, and is still held. -/
def Hidden (intake : Intake) (txHash : Hash) : Prop :=
  ∃ taking ∈ intake.window, taking.item.txHash = txHash ∧
    (taking.outcome = .shed ∨ ∃ reason, taking.outcome = .refused reason)

/-- The seen hashes are those of the last takings. -/
def Synced (intake : Intake) : Prop := intake.seen.Holds (intake.takings.map fun taking => taking.item.txHash)

theorem synced_start (backpressure : PendingLookupBackpressure) : Synced (start backpressure) := SeenTxs.holds_empty

theorem deliver_paused {intake : Intake} {delivery : Delivery} (paused : delivery.paused) :
    intake.deliver delivery = (intake, .skipped) :=
  if_pos paused

theorem deliver_known {intake : Intake} {delivery : Delivery} (unpaused : ¬ delivery.paused)
    (known : delivery.item.txHash ∈ intake.seen.seenHashes) : intake.deliver delivery = (intake, .duplicate) := by
  rw [deliver, if_neg unpaused, SeenTxs.markSeenTx_known known]
  rfl

/-- A fresh hash is taken in whatever becomes of its delivery. -/
theorem deliver_fresh {intake : Intake} {delivery : Delivery} (unpaused : ¬ delivery.paused)
    (fresh : delivery.item.txHash ∉ intake.seen.seenHashes) :
    intake.deliver delivery =
      (⟨(intake.seen.markSeenTx delivery.item.txHash).1, (makeTask intake.backpressure delivery).1,
        intake.takings ++ [⟨delivery.item, (makeTask intake.backpressure delivery).2⟩]⟩,
      (makeTask intake.backpressure delivery).2) := by
  rw [deliver, if_neg unpaused, SeenTxs.markSeenTx_fresh fresh]
  rfl

/-- What becomes of a taking: an announcement is only ever shed, and a transaction is only ever refused by
the gate, when there is no task for it. -/
theorem makeTask_spec (backpressure : PendingLookupBackpressure) (delivery : Delivery) :
    ((makeTask backpressure delivery).2 = .shed ∧ ∃ txHash, delivery.item = .hash txHash) ∨
    (∃ tx reason, (makeTask backpressure delivery).2 = .refused reason ∧ delivery.item = .full tx ∧
      preDecodeTxGate delivery.settings.mev delivery.settings.preDecodeGasCapMultiplier tx = some reason) ∨
    ∃ task, (makeTask backpressure delivery).2 = .enqueued task ∧ task.txHash = delivery.item.txHash := by
  cases item : delivery.item with
  | hash txHash =>
    by_cases allowed : (backpressure.shouldEnqueue delivery).2 = true
    · exact Or.inr (Or.inr ⟨⟨txHash, none⟩, by simp [makeTask, item, allowed], rfl⟩)
    · exact Or.inl ⟨by simp [makeTask, item, allowed], txHash, rfl⟩
  | full tx =>
    cases gate : preDecodeTxGate delivery.settings.mev delivery.settings.preDecodeGasCapMultiplier tx with
    | some reason => exact Or.inr (Or.inl ⟨tx, reason, by simp [makeTask, item, gate], rfl, gate⟩)
    | none => exact Or.inr (Or.inr ⟨⟨tx.hash, some tx⟩, by simp [makeTask, item, gate], rfl⟩)

theorem Synced.deliver {intake : Intake} (synced : Synced intake) (delivery : Delivery) :
    Synced (intake.deliver delivery).1 := by
  by_cases paused : delivery.paused
  · rw [deliver_paused paused]
    exact synced
  · by_cases known : delivery.item.txHash ∈ intake.seen.seenHashes
    · rw [deliver_known paused known]
      exact synced
    · rw [deliver_fresh paused known, Synced, List.map_append]
      exact SeenTxs.Holds.mark synced known

/-- Every taking led to a task, or hides its hash. -/
def Settled (intake : Intake) : Prop :=
  ∀ taking ∈ intake.takings, taking.outcome = .shed ∨ (∃ reason, taking.outcome = .refused reason) ∨
    ∃ task, taking.outcome = .enqueued task

theorem settled_start (backpressure : PendingLookupBackpressure) : Settled (start backpressure) := by
  simp [Settled, start]

theorem Settled.deliver {intake : Intake} (settled : Settled intake) (delivery : Delivery) :
    Settled (intake.deliver delivery).1 := by
  by_cases paused : delivery.paused
  · rw [deliver_paused paused]
    exact settled
  · by_cases known : delivery.item.txHash ∈ intake.seen.seenHashes
    · rw [deliver_known paused known]
      exact settled
    · rw [deliver_fresh paused known]
      intro taking member
      rcases List.mem_append.mp member with earlier | last
      · exact settled taking earlier
      · rw [List.mem_singleton.mp last]
        rcases makeTask_spec intake.backpressure delivery with ⟨shed, _⟩ | ⟨_, reason, refused, _⟩ | ⟨task, enqueued, _⟩
        · exact Or.inl shed
        · exact Or.inr (Or.inl ⟨reason, refused⟩)
        · exact Or.inr (Or.inr ⟨task, enqueued⟩)

/-- A hash is seen exactly when one of the last takings has it. -/
theorem Synced.seen_iff {intake : Intake} (synced : Synced intake) (txHash : Hash) :
    txHash ∈ intake.seen.seenHashes ↔ ∃ taking ∈ intake.window, taking.item.txHash = txHash := by
  rw [synced.mem_iff, window, List.rtake, List.rtake, List.length_map, ← List.map_drop, List.mem_map]

/-- Of one hash there is one taking in the window only. -/
theorem Synced.unique {intake : Intake} (synced : Synced intake) {first second : Taking} (inside : first ∈ intake.window)
    (inside' : second ∈ intake.window) (same : first.item.txHash = second.item.txHash) : first = second := by
  have distinct : (intake.window.map fun taking => taking.item.txHash).Nodup := by
    have nodup := synced.nodup
    rw [synced.order, List.rtake, List.length_map, ← List.map_drop] at nodup
    exact nodup
  exact List.inj_on_of_nodup_map distinct inside inside' same

/-- A full transaction that passes the gate is enqueued at its delivery, unless a task for its hash has been
enqueued within the window, exactly when its hash is not hidden. -/
theorem deliver_full_iff {intake : Intake} (synced : Synced intake) (settled : Settled intake) {delivery : Delivery}
    {tx : MempoolTransaction} (full : delivery.item = .full tx) (unpaused : delivery.paused = false)
    (passes : preDecodeTxGate delivery.settings.mev delivery.settings.preDecodeGasCapMultiplier tx = none) :
    ((intake.deliver delivery).2 = .enqueued ⟨tx.hash, some tx⟩ ∨ intake.EnqueuedInWindow tx.hash) ↔
      ¬ intake.Hidden tx.hash := by
  have running : ¬ delivery.paused := by simp [unpaused]
  have hash : delivery.item.txHash = tx.hash := by rw [full]; rfl
  by_cases known : tx.hash ∈ intake.seen.seenHashes
  · obtain ⟨taking, inside, same⟩ := (synced.seen_iff tx.hash).mp known
    have late : (intake.deliver delivery).2 = .duplicate := by
      rw [deliver_known running (by rw [hash]; exact known)]
    simp only [late]
    have old : taking ∈ intake.takings := List.mem_of_mem_drop inside
    constructor
    · rintro (now | ⟨other, inside', same', task, enqueued⟩)
      · exact absurd now (by simp)
      · rintro ⟨third, inside'', same'', hides⟩
        have one := synced.unique inside' inside'' (same'.trans same''.symm)
        rw [← one, enqueued] at hides
        simp at hides
    · intro visible
      refine Or.inr ⟨taking, inside, same, ?_⟩
      rcases settled taking old with shed | refused | enqueued
      · exact absurd ⟨taking, inside, same, Or.inl shed⟩ visible
      · exact absurd ⟨taking, inside, same, Or.inr refused⟩ visible
      · exact enqueued
  · have visible : ¬ intake.Hidden tx.hash := by
      rintro ⟨taking, inside, same, _⟩
      exact known ((synced.seen_iff tx.hash).mpr ⟨taking, inside, same⟩)
    rw [deliver_fresh running (by rw [hash]; exact known)]
    simp [makeTask, full, passes, visible]

end Intake

end ArbitrageRuntime
