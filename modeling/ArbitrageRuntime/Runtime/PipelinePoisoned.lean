import ArbitrageRuntime.Runtime.PipelineDeadlock

namespace ArbitrageRuntime

namespace Pipeline

variable {Reading : Type} {work : StageWork Reading} {state next before : Pipeline}

/-- Every lookup worker has been stopped by a panic. -/
def LookupDead (state : Pipeline) : Prop := ∀ worker ∈ state.lookupWorkers, worker = .stopped

instance decidableLookupDead (state : Pipeline) : Decidable (LookupDead state) :=
  decidable_of_iff (state.lookupWorkers.all fun worker => match worker with | .stopped => true | _ => false) <| by
    rw [List.all_eq_true]
    refine forall₂_congr fun worker _ => ?_
    cases worker with
    | _ => simp

/-- The tasks that have got as far as the evaluation. -/
def pastLookup (state : Pipeline) : Multiset PendingHashTask :=
  state.evalPool.load Traced.task Traced.task + (state.arrived.map Traced.task : Multiset PendingHashTask)

structure Dead (before state : Pipeline) : Prop where
  dead : LookupDead state
  dropped : state.lookupDropped = before.lookupDropped
  past : state.pastLookup = before.pastLookup

theorem Dead.step {step : PipelineStep Reading} (dead : Dead before state)
    (stepped : Stepped work state step next) : Dead before next := by
  obtain ⟨stopped, dropped, past⟩ := dead
  cases stepped with
  | mempool item settings now lookupPressure selecting => exact ⟨stopped, dropped, past⟩
  | enqueue task queue sending room items => exact ⟨stopped, dropped, past⟩
  | ready pushedAt reading candidate queue selecting items =>
    refine ⟨stopped, dropped, past ▸ ?_⟩
    unfold pastLookup Pool.load evalPool
    rw [items]
    simp only [List.map_append, List.map_cons, List.map_nil, ← Multiset.coe_add, ← Multiset.cons_coe,
      ← Multiset.singleton_add, Multiset.coe_nil]
    abel
  | tick reading selecting => exact ⟨stopped, dropped, past⟩
  | lookup index move pool moved =>
    have never : ∀ {worker}, state.lookupPool.workers[index]? = some worker → worker = .stopped :=
      fun place => stopped _ (List.mem_of_getElem? place)
    cases moved with
    | locks place free => exact absurd (never place) (by simp)
    | receives place taken => exact absurd (never place) (by simp)
    | skips place paused => exact absurd (never place) (by simp)
    | starts place goesOn => exact absurd (never place) (by simp)
    | gives place given => exact absurd (never place) (by simp)
    | declines place given => exact absurd (never place) (by simp)
    | fails place given => exact absurd (never place) (by simp)
    | sends place room sent => exact absurd (never place) (by simp)
  | evaluate index move pool moved =>
    refine ⟨stopped, dropped, past ▸ ?_⟩
    have kept := Pool.load_moved Traced.task Traced.task StageWork.evaluateTraced_task moved
    unfold pastLookup
    rw [← kept]
    rfl
  | pause paused => exact ⟨stopped, dropped, past⟩

variable {backpressure : PendingLookupBackpressure} {lookupWorkers evalWorkers : Nat}
  {labels later : List (PipelineStep Reading)}

theorem sum_stopped {workers : List (Worker PendingHashTask (Traced LookupDecodedCandidate))}
    (stopped : ∀ worker ∈ workers, worker = .stopped) :
    (workers.map (Pool.workerLoad id Traced.task)).sum = 0 := by
  refine List.sum_eq_zero fun load member => ?_
  obtain ⟨worker, inside, rfl⟩ := List.mem_map.mp member
  rw [stopped worker inside]
  rfl

/-- Once every lookup worker is gone, nothing new is ever evaluated, and the run loop takes 8193 tasks at most. -/
theorem dead_lookup_takes_no_more
    (reached : (system work).after (start backpressure lookupWorkers evalWorkers) labels = some state)
    (dead : LookupDead state) (reached' : (system work).after state later = some next) :
    next.pastLookup = state.pastLookup ∧
    next.loop.intake.accepted.length ≤ state.loop.intake.accepted.length + 8193 := by
  have kept : Dead state next :=
    Transition.System.invariant (fun _ _ _ dead step => Dead.step dead (stepped_of_step step)) ⟨dead, rfl, rfl⟩ reached'
  have together : (system work).after (start backpressure lookupWorkers evalWorkers) (labels ++ later) =
      some next := (Transition.System.after_append reached later).trans reached'
  have tasks := congrArg Multiset.card (conserves_after reached).tasks
  have tasks' := congrArg Multiset.card (conserves_after together).tasks
  have past := congrArg Multiset.card kept.past
  rw [load_eq_evalPool, sum_stopped dead] at tasks
  rw [load_eq_evalPool, sum_stopped kept.dead, kept.dropped] at tasks'
  have fits := next.lookupQueue.fits
  have loop : (LoopPhase.load next.phase).card ≤ 1 := by
    cases next.phase with
    | sending task => exact le_refl 1
    | _ => exact Nat.zero_le 1
  simp only [pastLookup, Multiset.card_add, Multiset.coe_card, Multiset.card_zero] at tasks tasks' past
  unfold lookupDecodeQueueCapacity at fits
  exact ⟨kept.past, by omega⟩

section Run

open Transition (System)

/-- The first so many of a sequence of transactions have been taken in, and nothing else. -/
structure Fed (poison : Nat → MempoolTransaction) (count : Nat) (state : Pipeline) : Prop where
  unpaused : state.paused = false
  synced : state.loop.intake.Synced
  items : state.loop.intake.takings.map Taking.item = (List.range count).map fun index => .full (poison index)

variable {poison : Nat → MempoolTransaction} {count limit : Nat} (work) (settings : IntakeSettings)

theorem Fed.congr (fed : Fed poison count state) (unpaused : next.paused = state.paused) (loop : next.loop = state.loop) :
    Fed poison count next := by
  obtain ⟨first, second, third⟩ := fed
  exact ⟨unpaused.trans first, by rw [loop]; exact second, by rw [loop]; exact third⟩

/-- The next transaction of the sequence is taken in, and waits for its place in the queue. -/
theorem Fed.takes (fed : Fed poison count state) (selecting : state.phase = .selecting)
    (distinct : Set.InjOn (fun index => (poison index).hash) (Set.Iio limit))
    (within : count < limit)
    (passes : preDecodeTxGate settings.mev settings.preDecodeGasCapMultiplier (poison count) = none) :
    ∃ loop, System.Leads (system work) state { state with
        loop := loop, phase := .sending ⟨(poison count).hash, some (poison count)⟩ } ∧
      Fed poison (count + 1) { state with
        loop := loop, phase := .sending ⟨(poison count).hash, some (poison count)⟩ } := by
  obtain ⟨unpaused, synced, items⟩ := fed
  have fresh : (poison count).hash ∉ state.loop.intake.seen.seenHashes := by
    intro known
    have member := List.mem_of_mem_drop ((synced.mem_iff _).mp known)
    obtain ⟨taking, inside, same⟩ := List.mem_map.mp member
    have listed := List.mem_map_of_mem (f := Taking.item) inside
    rw [items] at listed
    obtain ⟨index, below, earlier⟩ := List.mem_map.mp listed
    have smaller := List.mem_range.mp below
    rw [← earlier] at same
    have equal : index = count := distinct (smaller.trans within) within same
    omega
  let delivery := state.delivery (.full (poison count)) settings 0 ⟨0, 0, 0, 0⟩
  have running : ¬ delivery.paused := by simp [delivery, Pipeline.delivery, unpaused]
  have outcome : (Intake.makeTask state.loop.intake.backpressure delivery).2 =
      .enqueued ⟨(poison count).hash, some (poison count)⟩ := by
    simp [delivery, Pipeline.delivery, Intake.makeTask, passes]
  have taken : state.loop.intake.deliver delivery = _ := Intake.deliver_fresh running fresh
  have after := synced.deliver delivery
  refine ⟨(state.loop.step (.mempool delivery)).1, System.Leads.step (.mempool (.full (poison count)) settings 0
    ⟨0, 0, 0, 0⟩) ?_, unpaused, after, ?_⟩
  · have phase : phaseAfter (state.loop.intake.deliver delivery).2 =
        .sending ⟨(poison count).hash, some (poison count)⟩ := by
      rw [taken, outcome]
      rfl
    unfold system
    rw [selecting]
    dsimp only
    rw [← phase]
  · show (state.loop.intake.deliver delivery).1.takings.map Taking.item = _
    rw [taken, List.map_append, items, List.range_succ, List.map_append]
    rfl

/-- The task in the hands of the run loop finds room. -/
theorem leads_enqueue {task : PendingHashTask} (sending : state.phase = .sending task)
    (room : state.lookupQueue.items.length < lookupDecodeQueueCapacity) :
    ∃ queue : Channel lookupDecodeQueueCapacity PendingHashTask, queue.items = state.lookupQueue.items ++ [task] ∧
      System.Leads (system work) state { state with lookupQueue := queue, phase := .selecting } := by
  cases sent : state.lookupQueue.send task with
  | none =>
    have full := Channel.send_eq_none.mp sent
    omega
  | some queue =>
    refine ⟨queue, (Channel.send_eq_some.mp sent).2, System.Leads.step .enqueue ?_⟩
    unfold system
    rw [sending]
    dsimp only
    rw [sent]

def withLookupPool (state : Pipeline)
    (pool : Pool lookupDecodeQueueCapacity evalQueueCapacity PendingHashTask (Traced LookupDecodedCandidate)) :
    Pipeline :=
  { state with
    lookupQueue := pool.source, lookupWorkers := pool.workers, evalQueue := pool.sink, lookupDropped := pool.dropped }

/-- What the lookup workers can do, they can do in the whole system. -/
theorem leads_lookup (selecting : state.phase = .selecting)
    {pool : Pool lookupDecodeQueueCapacity evalQueueCapacity PendingHashTask (Traced LookupDecodedCandidate)}
    (leads : System.Leads (Pool.system work.lookupTraced state.paused) state.lookupPool pool) :
    System.Leads (system work) state (state.withLookupPool pool) := by
  obtain ⟨moves, reached⟩ := leads
  induction moves using List.reverseRecOn generalizing pool with
  | nil =>
    cases Option.some.inj reached
    exact .refl state
  | append_singleton moves step ih =>
    obtain ⟨middle, earlier, move⟩ := System.after_concat_eq_some.mp reached
    refine (ih earlier).trans (.step (.lookup step.1 step.2) ?_)
    have phase : (state.withLookupPool middle).phase = .selecting := selecting
    have moves : (state.withLookupPool middle).lookupPool.move work.lookupTraced (state.withLookupPool middle).paused
        step.1 step.2 = some pool := move
    unfold system
    rw [phase]
    dsimp only
    rw [moves, ← phase]
    rfl

/-- Lookup workers of which the first so many are gone, and that have nothing to do. -/
structure Losing (gone left : Nat) (state : Pipeline) : Prop where
  selecting : state.phase = .selecting
  queue : state.lookupQueue.items = []
  workers : state.lookupWorkers = List.replicate gone .stopped ++ List.replicate left .waiting

theorem set_replicate (gone left : Nat) (worker worker' : Worker PendingHashTask (Traced LookupDecodedCandidate)) :
    (List.replicate gone worker' ++ List.replicate (left + 1) worker).set gone worker' =
      List.replicate (gone + 1) worker' ++ List.replicate left worker := by
  rw [List.set_append_right _ _ (by simp), List.length_replicate, Nat.sub_self, List.replicate_succ, List.set_cons_zero,
    List.replicate_succ', List.append_assoc]
  rfl

/-- One more transaction, one worker less. -/
theorem Losing.step {gone left : Nat} (losing : Losing gone (left + 1) state) (fed : Fed poison count state)
    (distinct : Set.InjOn (fun index => (poison index).hash) (Set.Iio limit)) (within : count < limit)
    (passes : preDecodeTxGate settings.mev settings.preDecodeGasCapMultiplier (poison count) = none) {reading : Reading}
    {panic : LivePanic}
    (fails : work.lookupDecode reading ⟨(poison count).hash, some (poison count)⟩ = .fails panic) :
    ∃ next, System.Leads (system work) state next ∧ Losing (gone + 1) left next ∧
      Fed poison (count + 1) next ∧ next.evalQueue = state.evalQueue ∧ next.evalWorkers = state.evalWorkers := by
  obtain ⟨selecting, empty, workers⟩ := losing
  obtain ⟨loop, takes, fed⟩ := fed.takes work settings selecting distinct within passes
  have room : state.lookupQueue.items.length < lookupDecodeQueueCapacity := by rw [empty]; decide
  let taken : Pipeline := { state with
    loop := loop, phase := .sending ⟨(poison count).hash, some (poison count)⟩ }
  obtain ⟨queue, items, enqueues⟩ := leads_enqueue work (show taken.phase = .sending _ from rfl) room
  let waits : Pipeline := { taken with lookupQueue := queue, phase := .selecting }
  have received : queue.recv = some (⟨(poison count).hash, some (poison count)⟩, .empty) := by
    refine Channel.recv_eq_some.mpr ?_
    rw [items]
    simp [taken, empty, Channel.empty]
  have place : waits.lookupPool.workers[gone]? = some .waiting := by
    show state.lookupWorkers[gone]? = _
    rw [workers, List.getElem?_append_right (by simp), List.length_replicate, Nat.sub_self]
    rfl
  have free : ¬ waits.lookupPool.workers.any Pool.Receives := by
    rw [Pool.any_receives]
    show ¬ .receiving ∈ state.lookupWorkers
    rw [workers]
    simp
  have given : work.lookupTraced reading ⟨(poison count).hash, some (poison count)⟩ = .fails panic := by
    rw [StageWork.lookupTraced, fails]
    rfl
  have stops := Pool.leads_stopped place free received given
  have unpaused : waits.paused = false := fed.unpaused
  rw [← unpaused] at stops
  have lookups := leads_lookup work (show waits.phase = .selecting from rfl) stops
  refine ⟨_, (takes.trans enqueues).trans lookups, ⟨rfl, rfl, ?_⟩, fed.congr rfl rfl, rfl, rfl⟩
  show state.lookupWorkers.set gone .stopped = _
  rw [workers, set_replicate]

theorem losing_all {left : Nat} (distinct : Set.InjOn (fun index => (poison index).hash) (Set.Iio limit))
    (passes : ∀ index, preDecodeTxGate settings.mev settings.preDecodeGasCapMultiplier (poison index) = none)
    (fails : ∀ index, ∃ reading panic, work.lookupDecode reading ⟨(poison index).hash, some (poison index)⟩ = .fails panic)
    {gone : Nat} (losing : Losing gone left state) (fed : Fed poison count state) (within : count + left ≤ limit) :
    ∃ next, System.Leads (system work) state next ∧ Losing (gone + left) 0 next ∧
      Fed poison (count + left) next ∧ next.evalQueue = state.evalQueue ∧ next.evalWorkers = state.evalWorkers := by
  induction left generalizing gone count state with
  | zero => exact ⟨state, .refl state, losing, fed, rfl, rfl⟩
  | succ left ih =>
    obtain ⟨reading, panic, stops⟩ := fails count
    obtain ⟨middle, leads, losing, fed, queue, workers⟩ := losing.step work settings fed distinct (by omega) (passes count) stops
    obtain ⟨last, leads', losing, fed, queue', workers'⟩ := ih losing fed (by omega)
    refine ⟨last, leads.trans leads', ?_, ?_, queue'.trans queue, workers'.trans workers⟩
    · rw [Nat.add_right_comm] at losing
      exact losing
    · rw [Nat.add_right_comm] at fed
      exact fed

/-- The run loop fills the queue that nobody empties. -/
theorem leads_filled (distinct : Set.InjOn (fun index => (poison index).hash) (Set.Iio limit))
    (passes : ∀ index, preDecodeTxGate settings.mev settings.preDecodeGasCapMultiplier (poison index) = none)
    {size : Nat} (selecting : state.phase = .selecting) (fed : Fed poison count state)
    (fits : state.lookupQueue.items.length + size ≤ lookupDecodeQueueCapacity) (within : count + size ≤ limit) :
    ∃ next, System.Leads (system work) state next ∧ next.phase = .selecting ∧ Fed poison (count + size) next ∧
      next.lookupQueue.items.length = state.lookupQueue.items.length + size ∧
      next.lookupWorkers = state.lookupWorkers ∧ next.evalQueue = state.evalQueue ∧
      next.evalWorkers = state.evalWorkers := by
  induction size generalizing count state with
  | zero => exact ⟨state, .refl state, selecting, fed, rfl, rfl, rfl, rfl⟩
  | succ size ih =>
    obtain ⟨loop, takes, fed⟩ := fed.takes work settings selecting distinct (by omega) (passes count)
    let taken : Pipeline := { state with
      loop := loop, phase := .sending ⟨(poison count).hash, some (poison count)⟩ }
    have room : taken.lookupQueue.items.length < lookupDecodeQueueCapacity := by
      show state.lookupQueue.items.length < lookupDecodeQueueCapacity
      omega
    obtain ⟨queue, items, enqueues⟩ := leads_enqueue work (show taken.phase = .sending _ from rfl) room
    have longer : queue.items.length = state.lookupQueue.items.length + 1 := by
      rw [items, List.length_append]
      rfl
    let waits : Pipeline := { taken with lookupQueue := queue, phase := .selecting }
    have fits : waits.lookupQueue.items.length + size ≤ lookupDecodeQueueCapacity := by
      show queue.items.length + size ≤ lookupDecodeQueueCapacity
      omega
    have fedLater : Fed poison (count + 1) waits := fed.congr rfl rfl
    obtain ⟨last, leads, selecting, fed, length, workers, evals, evalWorkers⟩ := ih rfl fedLater fits (by omega)
    refine ⟨last, (takes.trans enqueues).trans leads, selecting, ?_, ?_, workers, evals, evalWorkers⟩
    · rw [Nat.add_right_comm] at fed
      exact fed
    · rw [length]
      show queue.items.length + size = _
      omega

variable {work}

/-- The first evaluation worker takes its place at its empty queue. -/
theorem leads_idle (poison : Nat → MempoolTransaction) (backpressure : PendingLookupBackpressure) (lookupWorkers evalWorkers : Nat) :
    ∃ state, System.Leads (system work) (start backpressure lookupWorkers evalWorkers) state ∧
      Losing 0 lookupWorkers state ∧ Fed poison 0 state ∧ state.evalQueue.items = [] ∧
      ∀ worker ∈ state.evalWorkers, worker = .receiving ∨ (worker = .waiting ∧ .receiving ∈ state.evalWorkers) := by
  have losing : Losing 0 lookupWorkers (start backpressure lookupWorkers evalWorkers) := ⟨rfl, rfl, rfl⟩
  have fed : Fed poison 0 (start backpressure lookupWorkers evalWorkers) := ⟨rfl, Intake.synced_start backpressure, rfl⟩
  cases evalWorkers with
  | zero => exact ⟨_, .refl _, losing, fed, rfl, fun worker member => absurd member (by simp [start])⟩
  | succ others =>
    let first : Pipeline := { start backpressure lookupWorkers (others + 1) with
      evalWorkers := .receiving :: List.replicate others .waiting }
    have locks : system work (start backpressure lookupWorkers (others + 1)) (.evaluate 0 .lock) =
        some first := by
      simp [system, start, evalPool, Pool.move, List.replicate_succ, Pool.put, first, Pool.Receives]
    refine ⟨first, .step _ locks, ⟨rfl, rfl, rfl⟩, fed.congr rfl rfl, rfl, ?_⟩
    intro worker member
    rcases List.mem_cons.mp member with receives | waits
    · exact Or.inl receives
    · exact Or.inr ⟨(List.mem_replicate.mp waits).2, List.mem_cons_self⟩

end Run

/-- A sequence of transactions that pass the gate, and on each of which a lookup worker panics, brings the whole
system to a stand, without anything else being taken in. -/
theorem poisoned_deadlocks [Nonempty Reading] {poison : Nat → MempoolTransaction} {settings : IntakeSettings}
    {lookupWorkers : Nat} (distinct : Set.InjOn (fun index => (poison index).hash) (Set.Iio (lookupWorkers + 8193)))
    (passes : ∀ index, preDecodeTxGate settings.mev settings.preDecodeGasCapMultiplier (poison index) = none)
    (fails : ∀ index, ∃ reading panic, work.lookupDecode reading ⟨(poison index).hash, some (poison index)⟩ = .fails panic)
    (backpressure : PendingLookupBackpressure) (evalWorkers : Nat) :
    ∃ labels state, (system work).after (start backpressure lookupWorkers evalWorkers) labels = some state ∧
      Fed poison (lookupWorkers + 8193) state ∧ Deadlocked work state := by
  obtain ⟨idle, leads, losing, fed, empty, waits⟩ :=
    leads_idle poison backpressure lookupWorkers evalWorkers
  obtain ⟨lost, leads', losing, fed, queue, workers⟩ := losing_all work settings distinct passes fails losing fed (by omega)
  have none : lost.lookupQueue.items.length + lookupDecodeQueueCapacity ≤ lookupDecodeQueueCapacity := by
    rw [losing.queue]
    exact le_refl _
  obtain ⟨full, leads'', selecting, fed, length, lookups, queue', workers'⟩ :=
    leads_filled work settings distinct passes losing.selecting fed none (by unfold lookupDecodeQueueCapacity; omega)
  obtain ⟨loop, takes, fed⟩ :=
    fed.takes work settings selecting distinct (by unfold lookupDecodeQueueCapacity; omega) (passes _)
  obtain ⟨labels, reached⟩ := ((leads.trans leads').trans leads'').trans takes
  have count : 0 + lookupWorkers + lookupDecodeQueueCapacity + 1 = lookupWorkers + 8193 := by
    unfold lookupDecodeQueueCapacity
    omega
  rw [count] at fed
  refine ⟨labels, _, reached, fed, deadlocked_iff.mpr ⟨⟨_, rfl⟩, ?_, ?_, ?_⟩⟩
  · show full.lookupQueue.items.length = _
    rw [length, losing.queue]
    exact Nat.zero_add _
  · intro worker member
    have stopped : worker ∈ lost.lookupWorkers := by rw [← lookups]; exact member
    rw [losing.workers, List.replicate_zero, List.append_nil] at stopped
    exact Or.inl (List.mem_replicate.mp stopped).2
  · intro worker member
    have same : full.evalWorkers = idle.evalWorkers := workers'.trans workers
    have inside : worker ∈ idle.evalWorkers := by rw [← same]; exact member
    have nothing : full.evalQueue.items = [] := by rw [queue', queue, empty]
    rcases waits worker inside with receives | ⟨waiting, other⟩
    · exact Or.inr (Or.inr (Or.inl ⟨receives, nothing⟩))
    · exact Or.inr (Or.inr (Or.inr ⟨waiting, by rw [← same] at other; exact other⟩))

/-- A stage that panics on everything, and transactions that only differ in their hashes. -/
def panickingWork : StageWork Unit := ⟨fun _ _ => .fails .gasCapClamp, fun _ _ => .declines⟩

def samplePoison (index : Nat) : MempoolTransaction :=
  { LoopState.sampleTransaction with hash := BitVec.ofNat 256 index }

theorem samplePoison_distinct : Set.InjOn (fun index => (samplePoison index).hash) (Set.Iio (1 + 8193)) := by
  intro i inside j inside' same
  have values := congrArg BitVec.toNat same
  simp only [samplePoison, BitVec.toNat_ofNat, Set.mem_Iio] at values inside inside'
  omega

theorem samplePoison_passes (index : Nat) : preDecodeTxGate LoopState.sampleSettings.mev
    LoopState.sampleSettings.preDecodeGasCapMultiplier (samplePoison index) = none := by
  have passes : preDecodeTxGate LoopState.sampleSettings.mev LoopState.sampleSettings.preDecodeGasCapMultiplier
      LoopState.sampleTransaction = none := by decide +kernel
  exact passes

theorem deadlock_lasts_sample :
    ∃ labels state, (system panickingWork).after (start LoopState.idleBackpressure 1 1) labels =
        some state ∧ Deadlocked panickingWork state ∧
      ∃ task tx, state.phase = .sending task ∧ task.pendingTx = some tx := by
  have fails : ∀ index, ∃ reading panic, panickingWork.lookupDecode reading
      ⟨(samplePoison index).hash, some (samplePoison index)⟩ = .fails panic :=
    fun index => ⟨(), .gasCapClamp, rfl⟩
  obtain ⟨labels, state, reached, _, deadlocked⟩ := poisoned_deadlocks samplePoison_distinct samplePoison_passes fails
    LoopState.idleBackpressure 1
  exact ⟨labels, state, reached, deadlocked, ((deadlock_lasts reached).2 deadlocked).1⟩

/-- One worker, gone at once, and another transaction for nobody. -/
def panickingSteps : List (PipelineStep Unit) :=
  [.mempool (.full (samplePoison 0)) LoopState.sampleSettings 0 ⟨1, 25, 0, 0⟩, .enqueue, .lookup 0 .lock,
    .lookup 0 .recv, .lookup 0 .check, .lookup 0 (.work ())]

def uselessSteps : List (PipelineStep Unit) := 
  [.mempool (.full (samplePoison 1)) LoopState.sampleSettings 0 ⟨1, 25, 0, 0⟩, .enqueue]

def panickingRun : Option Pipeline :=
  (system panickingWork).after (start LoopState.idleBackpressure 1 1) panickingSteps

theorem panickingRun_possible : panickingRun.isSome := by decide +kernel

theorem uselessSteps_possible : ((system panickingWork).after
    (panickingRun.get panickingRun_possible) uselessSteps).isSome := by
  decide +kernel

theorem dead_lookup_takes_no_more_sample :
    let state := panickingRun.get panickingRun_possible
    let next := ((system panickingWork).after state uselessSteps).get uselessSteps_possible
    LookupDead state ∧ next.lookupQueue.items.length = 1 ∧ next.pastLookup = state.pastLookup ∧
      next.loop.intake.accepted.length ≤ state.loop.intake.accepted.length + 8193 := by
  intro state next
  have reached : (system panickingWork).after (start LoopState.idleBackpressure 1 1)
      panickingSteps = some state := (Option.some_get panickingRun_possible).symm
  have dead : LookupDead state := by decide +kernel
  obtain ⟨past, bound⟩ := dead_lookup_takes_no_more reached dead (Option.some_get uselessSteps_possible).symm
  exact ⟨dead, by decide +kernel, past, bound⟩

end Pipeline

end ArbitrageRuntime
