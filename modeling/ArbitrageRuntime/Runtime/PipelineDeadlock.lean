import ArbitrageRuntime.Runtime.PipelineConserves

namespace ArbitrageRuntime

namespace Pipeline

variable {Reading : Type} {work : StageWork Reading} {state next : Pipeline}

/-- The run loop waits for room, and only the operator can still do something. -/
def Deadlocked (work : StageWork Reading) (state : Pipeline) : Prop :=
  (∃ task, state.phase = .sending task) ∧
    ∀ step, (∀ paused, step ≠ .pause paused) → system work state step = none

theorem system_lookup {task : PendingHashTask} (sending : state.phase = .sending task) (index : Nat) (move : Move Reading) :
    system work state (.lookup index move) = none ↔
      state.lookupPool.move work.lookupTraced state.paused index move = none := by
  unfold system
  rw [sending]
  dsimp only
  split
  · rename_i still
    simp [still]
  · rename_i pool moves
    simp [moves]

theorem system_evaluate {task : PendingHashTask} (sending : state.phase = .sending task) (index : Nat)
    (move : Move Reading) :
    system work state (.evaluate index move) = none ↔
      state.evalPool.move work.evaluateTraced state.paused index move = none := by
  unfold system
  rw [sending]
  dsimp only
  split
  · rename_i still
    simp [still]
  · rename_i pool moves
    simp [moves]

theorem system_enqueue {task : PendingHashTask} (sending : state.phase = .sending task) :
    system work state .enqueue = none ↔ state.lookupQueue.items.length = lookupDecodeQueueCapacity := by
  have spare : state.lookupQueue.send task = none ↔ state.lookupQueue.items.length = lookupDecodeQueueCapacity :=
    Channel.send_eq_none
  rw [← spare]
  unfold system
  rw [sending]
  dsimp only
  split
  · rename_i full
    simp [full]
  · rename_i queue sent
    simp [sent]

theorem deadlocked_iff_stalled {task : PendingHashTask} (sending : state.phase = .sending task) :
    Deadlocked work state ↔ state.lookupQueue.items.length = lookupDecodeQueueCapacity ∧
      state.lookupPool.Stalled work.lookupTraced state.paused ∧
      state.evalPool.Stalled work.evaluateTraced state.paused := by
  constructor
  · rintro ⟨_, still⟩
    refine ⟨(system_enqueue sending).mp (still .enqueue (by simp)), ?_, ?_⟩
    · intro index move
      exact (system_lookup sending index move).mp (still _ (by simp))
    · intro index move
      exact (system_evaluate sending index move).mp (still _ (by simp))
  · rintro ⟨full, lookup, eval⟩
    refine ⟨⟨task, sending⟩, ?_⟩
    intro step other
    cases step with
    | enqueue => exact (system_enqueue sending).mpr full
    | lookup index move => exact (system_lookup sending index move).mpr (lookup index move)
    | evaluate index move => exact (system_evaluate sending index move).mpr (eval index move)
    | pause paused => exact absurd rfl (other paused)
    | _ =>
      unfold system
      rw [sending]

/-- The run loop waits for room in a full queue, and every worker in front of it is gone or waits in turn, up to the
queue of the ready candidates that only the run loop empties. -/
structure Stuck (state : Pipeline) : Prop where
  waits : ∃ task, state.phase = .sending task
  full : state.lookupQueue.items.length = lookupDecodeQueueCapacity
  lookup : ∀ worker ∈ state.lookupWorkers, worker = .stopped ∨
    (∃ decoded, worker = .sending decoded ∧ state.evalQueue.items.length = evalQueueCapacity)
  eval : ∀ worker ∈ state.evalWorkers, worker = .stopped ∨
    (∃ ready, worker = .sending ready ∧ state.readyQueue.items.length = evalQueueCapacity) ∨
    (worker = .receiving ∧ state.evalQueue.items = []) ∨ (worker = .waiting ∧ .receiving ∈ state.evalWorkers)

theorem deadlocked_iff [Nonempty Reading] : Deadlocked work state ↔ state.Stuck := by
  have stalled : ∀ {task : PendingHashTask}, state.phase = .sending task →
      state.lookupQueue.items.length = lookupDecodeQueueCapacity →
      (state.lookupPool.Stalled work.lookupTraced state.paused ↔
        ∀ worker ∈ state.lookupWorkers, worker = .stopped ∨
          (∃ decoded, worker = .sending decoded ∧ state.evalQueue.items.length = evalQueueCapacity)) := by
    intro task sending full
    refine Pool.stalled_iff_of_tasks (fun empty => ?_)
    have none : state.lookupQueue.items.length = 0 := List.length_eq_zero_iff.mpr empty
    rw [none] at full
    exact absurd full (by decide)
  constructor
  · intro deadlocked
    obtain ⟨task, sending⟩ := deadlocked.1
    obtain ⟨full, lookup, eval⟩ := (deadlocked_iff_stalled sending).mp deadlocked
    exact ⟨⟨task, sending⟩, full, (stalled sending full).mp lookup, Pool.stalled_iff.mp eval⟩
  · rintro ⟨⟨task, sending⟩, full, lookup, eval⟩
    exact (deadlocked_iff_stalled sending).mpr ⟨full, (stalled sending full).mpr lookup, Pool.stalled_iff.mpr eval⟩

theorem Deadlocked.pause [Nonempty Reading] (deadlocked : Deadlocked work state) (paused : Bool) :
    Deadlocked work { state with paused := paused } := by
  obtain ⟨waits, full, lookup, eval⟩ := deadlocked_iff.mp deadlocked
  exact deadlocked_iff.mpr ⟨waits, full, lookup, eval⟩

theorem Deadlocked.after [Nonempty Reading] {later : List (PipelineStep Reading)}
    (deadlocked : Deadlocked work state) (reached : (system work).after state later = some next) :
    next = { state with paused := next.paused } ∧ Deadlocked work next := by
  induction later using List.reverseRecOn generalizing next with
  | nil =>
    cases Option.some.inj reached
    exact ⟨rfl, deadlocked⟩
  | append_singleton later step ih =>
    obtain ⟨middle, earlier, steps⟩ := Transition.System.after_concat_eq_some.mp reached
    obtain ⟨same, stuck⟩ := ih earlier
    by_cases operator : ∃ paused, step = .pause paused
    · obtain ⟨paused, rfl⟩ := operator
      cases stepped_of_step steps
      exact ⟨by rw [same], stuck.pause paused⟩
    · have still := stuck.2 step fun paused here => operator ⟨paused, here⟩
      exact absurd (still.symm.trans steps) (by simp)

/-- A hash on its own is only let in while the queue has room to spare. -/
theorem room_of_hash {delivery : Delivery} {intake : Intake} {task : PendingHashTask}
    (enqueued : (intake.deliver delivery).2 = .enqueued task) (hash : task.pendingTx = none) :
    lookupDecodeQueueCapacity / 16 < delivery.queueRemaining := by
  by_cases paused : delivery.paused
  · rw [Intake.deliver_paused paused] at enqueued
    exact absurd enqueued (by simp)
  · by_cases known : delivery.item.txHash ∈ intake.seen.seenHashes
    · rw [Intake.deliver_known paused known] at enqueued
      exact absurd enqueued (by simp)
    · rw [Intake.deliver_fresh paused known] at enqueued
      cases item : delivery.item with
      | full tx =>
        cases gate : preDecodeTxGate delivery.settings.mev delivery.settings.preDecodeGasCapMultiplier tx with
        | some reason => simp [Intake.makeTask, item, gate] at enqueued
        | none =>
          simp only [Intake.makeTask, item, gate, Outcome.enqueued.injEq] at enqueued
          rw [← enqueued] at hash
          exact absurd hash (by simp)
      | hash txHash =>
        by_contra soft
        have refused : (intake.backpressure.shouldEnqueue delivery).2 = false := by
          unfold PendingLookupBackpressure.shouldEnqueue
          dsimp only
          rw [if_neg (by simp [not_lt.mp soft])]
        simp [Intake.makeTask, item, refused] at enqueued

/-- While a hash waits at the queue, there is room for it. -/
def HashesFit (state : Pipeline) : Prop :=
  ∀ task, state.phase = .sending task → task.pendingTx = none →
    state.lookupQueue.items.length < lookupDecodeQueueCapacity

theorem HashesFit.step {step : PipelineStep Reading} (fits : HashesFit state)
    (stepped : Stepped work state step next) : HashesFit next := by
  cases stepped with
  | mempool item settings now lookupPressure selecting =>
    intro task sending hash
    have enqueued :
        (state.loop.intake.deliver (state.delivery item settings now lookupPressure)).2 = .enqueued task := by
      cases outcome : (state.loop.intake.deliver (state.delivery item settings now lookupPressure)).2 with
      | enqueued task' =>
        rw [outcome] at sending
        cases sending
        rfl
      | _ =>
        rw [outcome] at sending
        exact absurd sending (by simp [phaseAfter])
    have room : lookupDecodeQueueCapacity / 16 < state.lookupQueue.remaining := room_of_hash enqueued hash
    unfold Channel.remaining at room
    show state.lookupQueue.items.length < lookupDecodeQueueCapacity
    omega
  | enqueue task queue sending room items => exact fun _ here => absurd here (by simp)
  | ready pushedAt reading candidate queue selecting items =>
    intro task sending
    cases control : (state.loop.step (.ready candidate.value pushedAt reading)).2 with
    | _ =>
      rw [control] at sending
      exact absurd sending (by simp [LoopPhase.ofControl])
  | tick reading selecting =>
    intro task sending
    cases control : (state.loop.step (.tick reading)).2 with
    | _ =>
      rw [control] at sending
      exact absurd sending (by simp [LoopPhase.ofControl])
  | lookup index move pool moved =>
    intro task sending hash
    have room := fits task sending hash
    refine lt_of_le_of_lt ?_ room
    cases moved with
    | receives place taken =>
      have items : state.lookupQueue.items.length = _ := congrArg List.length taken
      rw [items]
      exact Nat.le_succ _
    | _ => exact le_refl _
  | evaluate index move pool moved => exact fits
  | pause paused => exact fits

variable {backpressure : PendingLookupBackpressure} {lookupWorkers evalWorkers : Nat} {labels : List (PipelineStep Reading)}

/-- In every state that is reached, the run loop is stuck with its workers exactly when it waits for room in a full
queue, and every worker in front of it is gone or waits in turn. The loop then has a full transaction in its hands, so
that feeds of hashes alone never lead there, and nothing but the pause switch ever moves again. -/
theorem deadlock_lasts [Nonempty Reading]
    (reached : (system work).after (start backpressure lookupWorkers evalWorkers) labels = some state) :
    (Deadlocked work state ↔ state.Stuck) ∧
    (Deadlocked work state →
      (∃ task tx, state.phase = .sending task ∧ task.pendingTx = some tx) ∧
      ∀ later next, (system work).after state later = some next →
        next = { state with paused := next.paused } ∧ Deadlocked work next) := by
  refine ⟨deadlocked_iff, fun deadlocked => ⟨?_, fun later next after => deadlocked.after after⟩⟩
  have fits : HashesFit state :=
    Transition.System.invariant (fun _ _ _ fits step => HashesFit.step fits (stepped_of_step step))
      (fun _ here => absurd here (by simp [start])) reached
  obtain ⟨task, sending⟩ := deadlocked.1
  cases full : task.pendingTx with
  | some tx => exact ⟨task, tx, sending, full⟩
  | none =>
    have room := fits task sending full
    have stuck := ((deadlocked_iff_stalled sending).mp deadlocked).1
    omega

end Pipeline

end ArbitrageRuntime
