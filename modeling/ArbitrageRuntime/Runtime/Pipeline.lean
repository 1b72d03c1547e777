import ArbitrageRuntime.Lib.Spaced
import ArbitrageRuntime.Lib.Transition
import ArbitrageRuntime.Lib.WorkerPool
import ArbitrageRuntime.Runtime.LiveStages
import ArbitrageRuntime.Runtime.RunLoop

namespace ArbitrageRuntime

def evalQueueCapacity : Nat := 512

def lookupDecodeWorkersMax : Nat := 6

def evalWorkersMax : Nat := 4

/-- `worker_count`, of the number that the environment asks for. -/
def workerCount (configured : Option Nat) (maxWorkers : Nat) : Nat :=
  match configured with
  | some parsed => min (max 1 parsed) maxWorkers
  | none => max maxWorkers 1

theorem workerCount_le (configured : Option Nat) (maxWorkers : Nat) :
    workerCount configured maxWorkers ≤ max maxWorkers 1 := by
  cases configured with
  | none => exact le_refl _
  | some parsed => exact (min_le_right _ _).trans (le_max_left _ _)

/-- A value on its way through the stages, with the task that it comes from. -/
structure Traced (α : Type) where
  task : PendingHashTask
  value : α

/-- What the workers do with a task and with a candidate, depending on what they read outside. -/
structure StageWork (Reading : Type) where
  lookupDecode : Reading → PendingHashTask → Attempt LivePanic LookupDecodedCandidate
  evaluate : Reading → LookupDecodedCandidate → Attempt LivePanic PendingExecutionCandidate

namespace StageWork

variable {Reading : Type} (work : StageWork Reading)

def lookupTraced (reading : Reading) (task : PendingHashTask) : Attempt LivePanic (Traced LookupDecodedCandidate) :=
  (work.lookupDecode reading task).bind fun decoded => .gives ⟨task, decoded⟩

def evaluateTraced (reading : Reading) (candidate : Traced LookupDecodedCandidate) :
    Attempt LivePanic (Traced PendingExecutionCandidate) :=
  (work.evaluate reading candidate.value).bind fun ready => .gives ⟨candidate.task, ready⟩

variable {work}

theorem lookupTraced_task (reading : Reading) (task : PendingHashTask) (result : Traced LookupDecodedCandidate)
    (given : work.lookupTraced reading task = .gives result) : result.task = task := by
  unfold lookupTraced at given
  cases decoded : work.lookupDecode reading task with
  | gives value =>
    rw [decoded] at given
    cases given
    rfl
  | declines => rw [decoded] at given; cases given
  | fails panic => rw [decoded] at given; cases given

theorem evaluateTraced_task (reading : Reading) (candidate : Traced LookupDecodedCandidate)
    (result : Traced PendingExecutionCandidate) (given : work.evaluateTraced reading candidate = .gives result) :
    result.task = candidate.task := by
  unfold evaluateTraced at given
  cases ready : work.evaluate reading candidate.value with
  | gives value =>
    rw [ready] at given
    cases given
    rfl
  | declines => rw [ready] at given; cases given
  | fails panic => rw [ready] at given; cases given

end StageWork

/-- What one call of a stage finds. The workers share the policy and the budget of small swaps, so that it may be any
state of them, and the dashboard can change what the locks of the configuration hold from one call to the next. -/
structure StageReading where
  readings : LiveReadings
  state : LiveState
  opportunityModeLock : Option OpportunityMode
  runtimeThresholdsLock : Option OpportunityThresholds

/-- The stages as long as nobody writes to the locks. -/
def LiveStages.holding (stages : LiveStages) (mode : Option OpportunityMode)
    (thresholds : Option OpportunityThresholds) : LiveStages :=
  { stages with
    config := { stages.config with
      mev := { stages.config.mev with opportunityModeLock := mode, runtimeThresholdsLock := thresholds } } }

/-- The stages of the runtime, where no call sees its mode switched on the way. -/
def LiveStages.stageWork (stages : LiveStages) : StageWork StageReading where
  lookupDecode reading task :=
    ((stages.holding reading.opportunityModeLock reading.runtimeThresholdsLock).processLookupDecodeTask
      { reading.readings with pendingTx := task.pendingTx } reading.state).1
  evaluate reading candidate :=
    ((stages.holding reading.opportunityModeLock reading.runtimeThresholdsLock).processEvaluationTask
      reading.readings reading.state candidate).1

/-- The run loop selects its next event, waits for room in the queue for a task, or has returned. -/
inductive LoopPhase
  | selecting
  | sending (task : PendingHashTask)
  | returned (control : Control)

def LoopPhase.ofControl : Control → LoopPhase
  | .continues => .selecting
  | control => .returned control

/-- The run loop with its workers and the queues between them, and the candidates that have come back to it so far. -/
structure Pipeline where
  paused : Bool
  loop : LoopState
  phase : LoopPhase
  lookupQueue : Channel lookupDecodeQueueCapacity PendingHashTask
  lookupWorkers : List (Worker PendingHashTask (Traced LookupDecodedCandidate))
  lookupDropped : List PendingHashTask
  evalQueue : Channel evalQueueCapacity (Traced LookupDecodedCandidate)
  evalWorkers : List (Worker (Traced LookupDecodedCandidate) (Traced PendingExecutionCandidate))
  evalDropped : List (Traced LookupDecodedCandidate)
  readyQueue : Channel evalQueueCapacity (Traced PendingExecutionCandidate)
  arrived : List (Traced PendingExecutionCandidate)

inductive PipelineStep (Reading : Type)
  | mempool (item : PendingMempoolItem) (settings : IntakeSettings) (now : Instant) (lookupPressure : RpcLookupPressure)
  | enqueue
  | ready (pushedAt : Instant) (reading : FlushReading)
  | tick (reading : FlushReading)
  | lookup (index : Nat) (move : Move Reading)
  | evaluate (index : Nat) (move : Move Reading)
  | pause (paused : Bool)

namespace Pipeline

def start (backpressure : PendingLookupBackpressure) (lookupWorkers evalWorkers : Nat) : Pipeline where
  paused := false
  loop := .start backpressure
  phase := .selecting
  lookupQueue := .empty
  lookupWorkers := List.replicate lookupWorkers .waiting
  lookupDropped := []
  evalQueue := .empty
  evalWorkers := List.replicate evalWorkers .waiting
  evalDropped := []
  readyQueue := .empty
  arrived := []

def lookupPool (state : Pipeline) :
    Pool lookupDecodeQueueCapacity evalQueueCapacity PendingHashTask (Traced LookupDecodedCandidate) :=
  ⟨state.lookupQueue, state.lookupWorkers, state.evalQueue, state.lookupDropped⟩

def evalPool (state : Pipeline) :
    Pool evalQueueCapacity evalQueueCapacity (Traced LookupDecodedCandidate) (Traced PendingExecutionCandidate) :=
  ⟨state.evalQueue, state.evalWorkers, state.readyQueue, state.evalDropped⟩

/-- What the mempool branch reads. A worker that has been stopped has let go of the receiver of the tasks. -/
def delivery (state : Pipeline) (item : PendingMempoolItem) (settings : IntakeSettings) (now : Instant)
    (lookupPressure : RpcLookupPressure) : Delivery where
  item := item
  settings := settings
  paused := state.paused
  now := now
  lookupPressure := lookupPressure
  queueRemaining := state.lookupQueue.remaining
  workerHandles := state.lookupWorkers.countP fun worker => match worker with | .stopped => false | _ => true

def phaseAfter : Outcome → LoopPhase
  | .enqueued task => .sending task
  | _ => .selecting

/-- A step of the run loop, of a worker, or of the operator at the dashboard, up to the return of the loop. -/
def system {Reading : Type} (work : StageWork Reading) :
    Transition.System Pipeline (PipelineStep Reading) := fun state step =>
  match state.phase, step with
  | .returned _, _ => none
  | .selecting, .mempool item settings now lookupPressure =>
    let delivery := state.delivery item settings now lookupPressure
    some { state with
      loop := (state.loop.step (.mempool delivery)).1
      phase := phaseAfter (state.loop.intake.deliver delivery).2 }
  | .sending task, .enqueue =>
    match state.lookupQueue.send task with
    | none => none
    | some queue => some { state with lookupQueue := queue, phase := .selecting }
  | .selecting, .ready pushedAt reading =>
    match state.readyQueue.recv with
    | none => none
    | some (candidate, queue) =>
      let stepped := state.loop.step (.ready candidate.value pushedAt reading)
      some { state with
        readyQueue := queue
        loop := stepped.1
        phase := .ofControl stepped.2
        arrived := state.arrived ++ [candidate] }
  | .selecting, .tick reading =>
    let stepped := state.loop.step (.tick reading)
    some { state with loop := stepped.1, phase := .ofControl stepped.2 }
  | _, .lookup index move =>
    match state.lookupPool.move work.lookupTraced state.paused index move with
    | none => none
    | some pool =>
      some { state with
        lookupQueue := pool.source
        lookupWorkers := pool.workers
        evalQueue := pool.sink
        lookupDropped := pool.dropped }
  | _, .evaluate index move =>
    match state.evalPool.move work.evaluateTraced state.paused index move with
    | none => none
    | some pool =>
      some { state with
        evalQueue := pool.source
        evalWorkers := pool.workers
        readyQueue := pool.sink
        evalDropped := pool.dropped }
  | _, .pause paused => some { state with paused := paused }
  | _, _ => none

section Steps

variable {Reading : Type} {work : StageWork Reading} {state next : Pipeline}

/-- What a step can do. -/
inductive Stepped (work : StageWork Reading) (state : Pipeline) : PipelineStep Reading → Pipeline → Prop
  | mempool (item : PendingMempoolItem) (settings : IntakeSettings) (now : Instant) (lookupPressure : RpcLookupPressure)
    (selecting : state.phase = .selecting) :
    Stepped work state (.mempool item settings now lookupPressure) { state with
      loop := (state.loop.step (.mempool (state.delivery item settings now lookupPressure))).1
      phase := phaseAfter (state.loop.intake.deliver (state.delivery item settings now lookupPressure)).2 }
  | enqueue (task : PendingHashTask) (queue : Channel lookupDecodeQueueCapacity PendingHashTask)
    (sending : state.phase = .sending task) (room : state.lookupQueue.items.length < lookupDecodeQueueCapacity)
    (items : queue.items = state.lookupQueue.items ++ [task]) :
    Stepped work state .enqueue { state with lookupQueue := queue, phase := .selecting }
  | ready (pushedAt : Instant) (reading : FlushReading) (candidate : Traced PendingExecutionCandidate)
    (queue : Channel evalQueueCapacity (Traced PendingExecutionCandidate)) (selecting : state.phase = .selecting)
    (items : state.readyQueue.items = candidate :: queue.items) :
    Stepped work state (.ready pushedAt reading) { state with
      readyQueue := queue
      loop := (state.loop.step (.ready candidate.value pushedAt reading)).1
      phase := .ofControl (state.loop.step (.ready candidate.value pushedAt reading)).2
      arrived := state.arrived ++ [candidate] }
  | tick (reading : FlushReading) (selecting : state.phase = .selecting) :
    Stepped work state (.tick reading) { state with
      loop := (state.loop.step (.tick reading)).1
      phase := .ofControl (state.loop.step (.tick reading)).2 }
  | lookup (index : Nat) (move : Move Reading)
    (pool : Pool lookupDecodeQueueCapacity evalQueueCapacity PendingHashTask (Traced LookupDecodedCandidate))
    (moved : Pool.Moved work.lookupTraced state.paused state.lookupPool index pool) :
    Stepped work state (.lookup index move) { state with
      lookupQueue := pool.source
      lookupWorkers := pool.workers
      evalQueue := pool.sink
      lookupDropped := pool.dropped }
  | evaluate (index : Nat) (move : Move Reading)
    (pool : Pool evalQueueCapacity evalQueueCapacity (Traced LookupDecodedCandidate) (Traced PendingExecutionCandidate))
    (moved : Pool.Moved work.evaluateTraced state.paused state.evalPool index pool) :
    Stepped work state (.evaluate index move) { state with
      evalQueue := pool.source
      evalWorkers := pool.workers
      readyQueue := pool.sink
      evalDropped := pool.dropped }
  | pause (paused : Bool) : Stepped work state (.pause paused) { state with paused := paused }

theorem stepped_of_lookup {index : Nat} {move : Move Reading}
    (steps : (match state.lookupPool.move work.lookupTraced state.paused index move with
      | none => none
      | some pool => some { state with
          lookupQueue := pool.source, lookupWorkers := pool.workers, evalQueue := pool.sink
          lookupDropped := pool.dropped }) = some next) : Stepped work state (.lookup index move) next := by
  split at steps
  · exact absurd steps (by simp)
  · rename_i pool moves
    cases Option.some.inj steps
    exact .lookup index move pool (Pool.moved_of_move moves)

theorem stepped_of_evaluate {index : Nat} {move : Move Reading}
    (steps : (match state.evalPool.move work.evaluateTraced state.paused index move with
      | none => none
      | some pool => some { state with
          evalQueue := pool.source, evalWorkers := pool.workers, readyQueue := pool.sink
          evalDropped := pool.dropped }) = some next) : Stepped work state (.evaluate index move) next := by
  split at steps
  · exact absurd steps (by simp)
  · rename_i pool moves
    cases Option.some.inj steps
    exact .evaluate index move pool (Pool.moved_of_move moves)

theorem stepped_of_step {step : PipelineStep Reading} (steps : system work state step = some next) :
    Stepped work state step next := by
  unfold system at steps
  split at steps
  · exact absurd steps (by simp)
  · rename_i item settings now lookupPressure selecting
    cases Option.some.inj steps
    exact .mempool item settings now lookupPressure selecting
  · rename_i task sending
    split at steps
    · exact absurd steps (by simp)
    · rename_i queue sent
      cases Option.some.inj steps
      obtain ⟨room, items⟩ := Channel.send_eq_some.mp sent
      exact .enqueue task queue sending room items
  · rename_i pushedAt reading selecting
    split at steps
    · exact absurd steps (by simp)
    · rename_i candidate queue taken
      cases Option.some.inj steps
      exact .ready pushedAt reading candidate queue selecting (Channel.recv_eq_some.mp taken)
  · rename_i reading selecting
    cases Option.some.inj steps
    exact .tick reading selecting
  · exact stepped_of_lookup steps
  · exact stepped_of_evaluate steps
  · rename_i paused _
    cases Option.some.inj steps
    exact .pause paused
  · exact absurd steps (by simp)

end Steps

section Sample

def sampleDecoded : LookupDecodedCandidate where
  tx := LoopState.sampleTransaction
  signal := ⟨.multicallBytes, 1000, none, 1000, [1, 2], 3, .v2, 1, "v2"⟩
  lane := .small
  hourUtc := 0
  gasPrice := 30000000000
  contextSignal := ⟨1 / 2, 1 / 2, 0⟩
  cluster := ⟨3, 1, 2, .multicallBytes⟩
  lookupLatencyMs := 0
  blockNumber := 1

/-- Stages that pass everything on. -/
def sampleWork : StageWork Unit := ⟨fun _ _ => .gives sampleDecoded, fun _ _ => .gives (LoopState.sampleCandidate 5)⟩

/-- A worker takes a task and passes it on. -/
def sampleMoves : List (Move Unit) := [.lock, .recv, .check, .work (), .send]

/-- A transaction goes all the way to the executor. -/
def sampleSteps : List (PipelineStep Unit) :=
  [.mempool (.full LoopState.sampleTransaction) LoopState.sampleSettings 0 ⟨1, 25, 0, 0⟩, .enqueue] ++
    sampleMoves.map (.lookup 0) ++ sampleMoves.map (.evaluate 0) ++
    [.ready 0 LoopState.sampleReading, .tick ⟨microbatchWindow, microbatchWindow, fun _ => .ok ()⟩]

def sampleRun (steps : List (PipelineStep Unit)) : Option Pipeline :=
  (system sampleWork).after (start LoopState.idleBackpressure 1 1) steps

end Sample

end Pipeline

end ArbitrageRuntime
