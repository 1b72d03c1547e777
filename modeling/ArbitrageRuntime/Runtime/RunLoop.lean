import ArbitrageRuntime.Runtime.MempoolIntake
import ArbitrageRuntime.Runtime.MicroBatch

namespace ArbitrageRuntime

/-- What `select!` delivers to the run loop. -/
inductive LoopEvent
  | mempool (delivery : Delivery)
  | ready (candidate : PendingExecutionCandidate) (pushedAt : Instant) (reading : FlushReading)
  | tick (reading : FlushReading)

inductive SelectBranch
  | mempool
  | ready
  | tick
  deriving DecidableEq

/-- What a branch of `select!` completes with. A channel that has run dry completes with nothing. -/
inductive Completion
  | mempool (delivery : Option Delivery)
  | ready (candidate : Option (PendingExecutionCandidate × Instant × FlushReading))
  | tick (reading : FlushReading)

def Completion.branch : Completion → SelectBranch
  | .mempool _ => .mempool
  | .ready _ => .ready
  | .tick _ => .tick

/-- The event of a completion that matches the pattern of its branch. Any other one only disables the branch. -/
def Completion.event : Completion → Option LoopEvent
  | .mempool delivery => delivery.map .mempool
  | .ready candidate => candidate.map fun (candidate, pushedAt, reading) => .ready candidate pushedAt reading
  | .tick reading => some (.tick reading)

/-- One turn of `select!`: what its three branches complete with, in the order in which they do. -/
structure Turn where
  completions : List Completion
  branches : (completions.map Completion.branch).Perm [.mempool, .ready, .tick]

namespace Turn

/-- The first completion that matches. Without one, the `else` arm is taken, which leaves the loop. -/
def select (turn : Turn) : Option LoopEvent := turn.completions.findSome? Completion.event

/-- The tick matches whatever it brings, so that the `else` arm is never reached. -/
theorem select_isSome (turn : Turn) : turn.select.isSome := by
  have ticks : SelectBranch.tick ∈ turn.completions.map Completion.branch :=
    turn.branches.mem_iff.mpr (by simp)
  obtain ⟨completion, inside, branch⟩ := List.mem_map.mp ticks
  refine List.findSome?_isSome_iff.mpr ⟨completion, inside, ?_⟩
  cases completion with
  | mempool delivery => exact absurd branch (by simp [Completion.branch])
  | ready candidate => exact absurd branch (by simp [Completion.branch])
  | tick reading => rfl

def event (turn : Turn) : LoopEvent := turn.select.get turn.select_isSome

end Turn

structure LoopState where
  intake : Intake
  batch : BatchState

/-- How the loop goes on after an event. -/
inductive Control
  | continues
  | breaks
  | fails (error : String)
  deriving DecidableEq

/-- The `?` behind a flush. -/
def Control.ofFlush : Except String Unit → Control
  | .ok () => .continues
  | .error error => .fails error

/-- A task is sent to the lookup queue. The send fails, and the loop is left, when nobody holds the receiver. -/
def Control.ofSend (delivery : Delivery) (outcome : Outcome) : Control :=
  if outcome.task.isSome ∧ delivery.receiverHandles = 0 then .breaks else .continues

theorem Control.ofSend_eq (delivery : Delivery) (outcome : Outcome) : Control.ofSend delivery outcome = .continues :=
  if_neg fun failed => Nat.succ_ne_zero delivery.workerHandles failed.2

namespace LoopState

def start (backpressure : PendingLookupBackpressure) : LoopState := ⟨.start backpressure, .start⟩

def step (state : LoopState) : LoopEvent → LoopState × Control
  | .mempool delivery =>
    let (intake, outcome) := state.intake.deliver delivery
    ({ state with intake := intake }, .ofSend delivery outcome)
  | .ready candidate pushedAt reading =>
    let (batch, result) := (state.batch.push candidate pushedAt).flushIfDue reading
    ({ state with batch := batch }, .ofFlush result)
  | .tick reading =>
    let (batch, result) := state.batch.flushIfDue reading
    ({ state with batch := batch }, .ofFlush result)

/-- The loop over a sequence of events, up to the event at which it is left. -/
def runLoop (state : LoopState) : List LoopEvent → LoopState × Control
  | [] => (state, .continues)
  | event :: events =>
    match state.step event with
    | (next, .continues) => runLoop next events
    | (next, .breaks) => (next, .breaks)
    | (next, .fails error) => (next, .fails error)

/-- The rest of `run` behind the loop. -/
def shutdown (state : LoopState) (reading : FlushReading) : LoopState × Except String Unit :=
  if state.batch.batcher.hasPending then
    let (batch, result) := state.batch.flushCandidateBatch reading
    ({ state with batch := batch }, result)
  else (state, .ok ())

/-- `run` over the turns of `select!`, with its result where it has returned. -/
def run (state : LoopState) (turns : List Turn) (reading : FlushReading) : LoopState × Option (Except String Unit) :=
  match state.runLoop (turns.map Turn.event) with
  | (last, .continues) => (last, none)
  | (last, .breaks) =>
    let (final, result) := last.shutdown reading
    (final, some result)
  | (last, .fails error) => (last, some (.error error))

/-- What one event keeps, whatever the loop does behind it. -/
theorem runLoop_keeps {holds : LoopState → Prop} (keeps : ∀ state event, holds state → holds (state.step event).1)
    {state : LoopState} (first : holds state) (events : List LoopEvent) : holds (state.runLoop events).1 := by
  induction events generalizing state with
  | nil => exact first
  | cons event events ih =>
    have next := keeps state event first
    unfold runLoop
    cases result : state.step event with
    | mk after control =>
      rw [result] at next
      cases control with
      | continues => exact ih next
      | breaks => exact next
      | fails error => exact next

theorem step_ne_breaks (state : LoopState) (event : LoopEvent) : (state.step event).2 ≠ .breaks := by
  have flushed : ∀ result, Control.ofFlush result ≠ .breaks := by
    intro result
    cases result with
    | ok done => simp [Control.ofFlush]
    | error error => simp [Control.ofFlush]
  cases event with
  | mempool delivery =>
    intro breaks
    have goesOn := Control.ofSend_eq delivery (state.intake.deliver delivery).2
    exact absurd (goesOn.symm.trans breaks) (by simp)
  | ready candidate pushedAt reading => exact flushed _
  | tick reading => exact flushed _

/-- Only the `?` behind a flush leads out of the loop. -/
theorem runLoop_ne_breaks (state : LoopState) (events : List LoopEvent) : (state.runLoop events).2 ≠ .breaks := by
  induction events generalizing state with
  | nil => simp [runLoop]
  | cons event events ih =>
    have goesOn := step_ne_breaks state event
    unfold runLoop
    cases result : state.step event with
    | mk after control =>
      rw [result] at goesOn
      cases control with
      | continues => exact ih after
      | breaks => exact absurd rfl goesOn
      | fails error => simp

/-- The batch conserves its candidates, and few are pending. -/
def Batched (state : LoopState) : Prop :=
  state.batch.Conserves ∧ state.batch.batcher.candidates.length < microbatchMaxCandidates

theorem Batched.step {state : LoopState} (batched : Batched state) (event : LoopEvent) :
    Batched (state.step event).1 := by
  obtain ⟨conserves, few⟩ := batched
  cases event with
  | mempool delivery => exact ⟨conserves, few⟩
  | ready candidate pushedAt reading =>
    refine (conserves.push candidate pushedAt).flushIfDue reading ?_
    have one : (state.batch.push candidate pushedAt).batcher.candidates.length =
        state.batch.batcher.candidates.length + 1 := List.length_append
    omega
  | tick reading => exact conserves.flushIfDue reading few.le

theorem batched_start (backpressure : PendingLookupBackpressure) : Batched (start backpressure) :=
  ⟨BatchState.conserves_start, Nat.zero_lt_succ 3⟩

theorem runLoop_batched (backpressure : PendingLookupBackpressure) (events : List LoopEvent) :
    Batched ((start backpressure).runLoop events).1 :=
  runLoop_keeps (fun _ event batched => batched.step event) (batched_start backpressure) events

/-- The intake remembers what it has seen. -/
def Taking (state : LoopState) : Prop := state.intake.Synced ∧ state.intake.Settled

theorem Taking.step {state : LoopState} (taking : Taking state) (event : LoopEvent) : Taking (state.step event).1 := by
  obtain ⟨synced, settled⟩ := taking
  cases event with
  | mempool delivery => exact ⟨synced.deliver delivery, settled.deliver delivery⟩
  | ready candidate pushedAt reading => exact ⟨synced, settled⟩
  | tick reading => exact ⟨synced, settled⟩

theorem runLoop_taking (backpressure : PendingLookupBackpressure) (events : List LoopEvent) :
    Taking ((start backpressure).runLoop events).1 :=
  runLoop_keeps (fun _ event taking => taking.step event)
    ⟨Intake.synced_start backpressure, Intake.settled_start backpressure⟩ events

/-- After every iteration of every run, what came in is what went out and what is pending, fewer than four are
pending, the window is open exactly while something is, and what went out ranked highest. -/
theorem runLoop_conserves_candidates (backpressure : PendingLookupBackpressure) (events : List LoopEvent) :
    let batch := ((start backpressure).runLoop events).1.batch
    batch.pushed.Perm (batch.handed.map Handover.best ++ batch.batcher.candidates) ∧
    batch.batcher.candidates.length < microbatchMaxCandidates ∧
    (batch.batcher.openedAt.isSome ↔ batch.batcher.candidates ≠ []) ∧
    ∀ handover ∈ batch.handed, handover.best ∈ handover.pending ∧
      ∀ other ∈ handover.pending, other.rankingScore ≤ handover.best.rankingScore := by
  obtain ⟨conserves, few⟩ := runLoop_batched backpressure events
  exact ⟨conserves.perm, few, conserves.opened, conserves.best⟩

/-- A run that returns without an error has handed over all of its candidates. None ever does: the tick of `select!`
never runs dry, and `run` itself holds the receiver that the sends need, so that the only way out of the loop is
the error of a submission. Candidates then stay behind, and they are what was pending. -/
theorem run_drains (backpressure : PendingLookupBackpressure) (turns : List Turn) (reading : FlushReading) :
    let ran := (start backpressure).run turns reading
    (ran.2 = some (.ok ()) → ran.1.batch.pushed.Perm (ran.1.batch.handed.map Handover.best)) ∧
    ran.2 ≠ some (.ok ()) ∧
    ran.1.batch.pushed.Perm (ran.1.batch.handed.map Handover.best ++ ran.1.batch.batcher.candidates) := by
  intro ran
  have goesOn := runLoop_ne_breaks (start backpressure) (turns.map Turn.event)
  have batched := runLoop_batched backpressure (turns.map Turn.event)
  have left : ran.2 ≠ some (.ok ()) ∧ ran.1.batch.Conserves := by
    unfold ran run
    cases result : (start backpressure).runLoop (turns.map Turn.event) with
    | mk last control =>
      rw [result] at goesOn batched
      cases control with
      | continues => exact ⟨by simp, batched.1⟩
      | breaks => exact absurd rfl goesOn
      | fails error => exact ⟨by simp, batched.1⟩
  exact ⟨fun returned => absurd returned left.1, left.1, left.2.perm⟩

/-- A candidate that expects to earn so many dollars. -/
def sampleCandidate (evRealUsd : ℚ) : PendingExecutionCandidate where
  opportunity := ⟨0, none, 0, 0, 0, .multicallBytes, none⟩
  evRealUsd := evRealUsd
  pPositive := 1
  capitalEfficiency := 1
  relayScore := 0
  contextPriorityScore := 1

/-- A flush at once, with an executor that makes no trouble. -/
def sampleReading : FlushReading := ⟨0, 0, fun _ => .ok ()⟩

def sampleSettings : IntakeSettings := ⟨testConfig.mev, none, none⟩

def idleBackpressure : PendingLookupBackpressure := ⟨0, 0, 0, ⟨1, 25, 0, 0⟩⟩

/-- A full transaction that passes the gate is enqueued at its delivery, unless a task for its hash has been
enqueued within the window, exactly when its hash is not hidden by an announcement that was shed or a
transaction that was refused. -/
theorem full_transaction_enqueued_iff (backpressure : PendingLookupBackpressure) (events : List LoopEvent)
    {delivery : Delivery} {tx : MempoolTransaction} (full : delivery.item = .full tx) (unpaused : delivery.paused = false)
    (passes : preDecodeTxGate delivery.settings.mev delivery.settings.preDecodeGasCapMultiplier tx = none) :
    let intake := ((start backpressure).runLoop events).1.intake
    ((intake.deliver delivery).2 = .enqueued ⟨tx.hash, some tx⟩ ∨ intake.EnqueuedInWindow tx.hash) ↔
      ¬ intake.Hidden tx.hash := by
  obtain ⟨synced, settled⟩ := runLoop_taking backpressure events
  exact Intake.deliver_full_iff synced settled full unpaused passes

/-- An announcement or a transaction, at a moment when the queue has so many places left. -/
def sampleDelivery (item : PendingMempoolItem) (queueRemaining : Nat) : Delivery :=
  ⟨item, sampleSettings, false, 0, ⟨1, 25, 0, 0⟩, queueRemaining, 6⟩

def sampleTransaction : MempoolTransaction :=
  ⟨⟨some 5, 0, [0xac, 0x96, 0x50, 0xd8]⟩, 7, some 30000000000, none⟩

/-- One announcement is taken, one is shed, and another transaction is enqueued. -/
def busyEvents : List LoopEvent :=
  [.mempool (sampleDelivery (.hash 5) 8192), .mempool (sampleDelivery (.hash 6) 512),
    .mempool (sampleDelivery (.full { sampleTransaction with hash := 8 }) 8191)]

theorem full_transaction_enqueued :
    let intake := ((start idleBackpressure).runLoop busyEvents).1.intake
    intake.takings.map (fun taking => taking.outcome.task.isSome) = [true, false, true] ∧
    (((intake.deliver (sampleDelivery (.full sampleTransaction) 8190)).2 = .enqueued ⟨7, some sampleTransaction⟩ ∨
      intake.EnqueuedInWindow 7) ↔ ¬ intake.Hidden 7) :=
  have passes : preDecodeTxGate sampleSettings.mev sampleSettings.preDecodeGasCapMultiplier
      sampleTransaction = none := by decide +kernel
  have full : (sampleDelivery (.full sampleTransaction) 8190).item = .full sampleTransaction := rfl
  ⟨by decide +kernel, full_transaction_enqueued_iff idleBackpressure busyEvents full rfl passes⟩

/-- The announcement is shed because the queue is almost full. The transaction itself then counts as a
duplicate, and no task for it is ever made. -/
theorem full_transaction_lost :
    let events := [LoopEvent.mempool (sampleDelivery (.hash 7) 512)]
    let intake := ((start idleBackpressure).runLoop events).1.intake
    ((start idleBackpressure).runLoop events).2 = .continues ∧
    preDecodeTxGate sampleSettings.mev sampleSettings.preDecodeGasCapMultiplier sampleTransaction = none ∧
    (intake.deliver (sampleDelivery (.full sampleTransaction) 8192)).2 = .duplicate ∧
    ¬ intake.EnqueuedInWindow 7 := by
  intro events intake
  refine ⟨by decide +kernel, by decide +kernel, by decide +kernel, ?_⟩
  have takings : intake.window = [⟨.hash 7, .shed⟩] := by decide +kernel
  rintro ⟨taking, inside, _, task, enqueued⟩
  rw [takings] at inside
  rw [List.mem_singleton.mp inside] at enqueued
  exact absurd enqueued (by simp)

end LoopState

end ArbitrageRuntime
