import ArbitrageRuntime.Lib.Reorder
import ArbitrageRuntime.Runtime.Pipeline
import Mathlib.Algebra.BigOperators.Group.List.Basic
import Mathlib.Tactic.Abel

namespace ArbitrageRuntime

namespace Intake

/-- The tasks that have been made so far. -/
def accepted (intake : Intake) : List PendingHashTask := intake.takings.filterMap fun taking => taking.outcome.task

theorem accepted_deliver (intake : Intake) (delivery : Delivery) :
    (intake.deliver delivery).1.accepted =
      intake.accepted ++ (intake.deliver delivery).2.task.toList := by
  by_cases paused : delivery.paused
  · rw [deliver_paused paused]
    exact (List.append_nil _).symm
  · by_cases known : delivery.item.txHash ∈ intake.seen.seenHashes
    · rw [deliver_known paused known]
      exact (List.append_nil _).symm
    · rw [deliver_fresh paused known, accepted, List.filterMap_append]
      cases task : (makeTask intake.backpressure delivery).2.task with
      | none => simp [task, accepted]
      | some task' => simp [task, accepted]

/-- Hashes are taken in again only when the window has forgotten them, and a task has the hash of its taking. -/
structure Apart (intake : Intake) : Prop where
  synced : intake.Synced
  spaced : (intake.takings.map fun taking => taking.item.txHash).Spaced SeenTxs.capacity
  named : ∀ taking ∈ intake.takings, ∀ task, taking.outcome.task = some task → task.txHash = taking.item.txHash

theorem apart_start (backpressure : PendingLookupBackpressure) : Apart (start backpressure) :=
  ⟨synced_start backpressure, List.spaced_nil, by simp [start]⟩

theorem Apart.deliver {intake : Intake} (apart : Apart intake) (delivery : Delivery) :
    Apart (intake.deliver delivery).1 := by
  have synced := apart.synced.deliver delivery
  by_cases paused : delivery.paused
  · rw [deliver_paused paused]
    exact apart
  · by_cases known : delivery.item.txHash ∈ intake.seen.seenHashes
    · rw [deliver_known paused known]
      exact apart
    · have fresh := mt (apart.synced.mem_iff delivery.item.txHash).mpr known
      rw [deliver_fresh paused known] at synced ⊢
      refine ⟨synced, ?_, ?_⟩
      · rw [List.map_append]
        exact apart.spaced.concat fresh
      · intro taking member task made
        rcases List.mem_append.mp member with old | new
        · exact apart.named taking old task made
        · rw [List.mem_singleton.mp new] at made ⊢
          rcases makeTask_spec intake.backpressure delivery with
            ⟨shed, _⟩ | ⟨_, reason, refused, _⟩ | ⟨task', enqueued, same⟩
          · rw [shed] at made
            exact absurd made (by simp [Outcome.task])
          · rw [refused] at made
            exact absurd made (by simp [Outcome.task])
          · rw [enqueued] at made
            cases Option.some.inj made
            exact same

theorem accepted_hashes_sublist {takings : List Taking}
    (named : ∀ taking ∈ takings, ∀ task, taking.outcome.task = some task → task.txHash = taking.item.txHash) :
    ((takings.filterMap fun taking => taking.outcome.task).map PendingHashTask.txHash).Sublist
      (takings.map fun taking => taking.item.txHash) := by
  induction takings with
  | nil => exact .slnil
  | cons taking takings ih =>
    have rest := ih fun other member => named other (List.mem_cons_of_mem _ member)
    cases made : taking.outcome.task with
    | none =>
      simp only [List.filterMap_cons, made, List.map_cons]
      exact rest.cons _
    | some task =>
      simp only [List.filterMap_cons, made, List.map_cons]
      rw [named taking List.mem_cons_self task made]
      exact rest.cons_cons _

/-- Of one hash there is at most one task in 8193 takings. -/
theorem Apart.count_accepted_le {intake : Intake} (apart : Apart intake) (txHash : Hash) :
    (intake.accepted.map PendingHashTask.txHash).count txHash * 8193 ≤ intake.takings.length + 8192 := by
  have fewer := (accepted_hashes_sublist apart.named).count_le txHash
  have bound := apart.spaced.count_le txHash
  rw [List.length_map] at bound
  exact (Nat.mul_le_mul_right 8193 fewer).trans bound

end Intake

namespace Pipeline

open Pool (workerLoad)

def LoopPhase.load : LoopPhase → Multiset PendingHashTask
  | .sending task => {task}
  | _ => 0

/-- The tasks in the whole system: those that wait, those on their way through a pool of workers, those that led to
nothing, and those that have come back to the run loop as candidates. -/
def load (state : Pipeline) : Multiset PendingHashTask :=
  LoopPhase.load state.phase + state.lookupPool.load id Traced.task +
    (state.evalWorkers.map (workerLoad Traced.task Traced.task)).sum +
    (state.evalDropped.map Traced.task : Multiset PendingHashTask) +
    (state.readyQueue.items.map Traced.task : Multiset PendingHashTask) +
    (state.arrived.map Traced.task : Multiset PendingHashTask)

theorem load_eq_evalPool (state : Pipeline) :
    state.load = LoopPhase.load state.phase + (state.lookupQueue.items : Multiset PendingHashTask) +
      (state.lookupWorkers.map (workerLoad id Traced.task)).sum +
      (state.lookupDropped : Multiset PendingHashTask) + state.evalPool.load Traced.task Traced.task +
      (state.arrived.map Traced.task : Multiset PendingHashTask) := by
  unfold load Pool.load lookupPool evalPool
  simp only [List.map_id]
  abel

/-- Every task that has been made is in one place. -/
structure Conserves (state : Pipeline) : Prop where
  tasks : (state.loop.intake.accepted : Multiset PendingHashTask) = state.load
  candidates : state.arrived.map Traced.value = state.loop.batch.pushed
  batched : state.loop.Batched

variable {Reading : Type} {work : StageWork Reading} {state next : Pipeline}

theorem conserves_start (backpressure : PendingLookupBackpressure) (lookupWorkers evalWorkers : Nat) :
    Conserves (start backpressure lookupWorkers evalWorkers) where
  tasks := by
    have idle : ∀ {α β : Type} (origin : α → PendingHashTask) (origin' : β → PendingHashTask) (n : Nat),
        ((List.replicate n Worker.waiting).map (workerLoad origin origin')).sum = 0 := by
      intro α β origin origin' n
      rw [List.map_replicate, List.sum_replicate]
      exact nsmul_zero n
    unfold load Pool.load lookupPool start
    dsimp only
    rw [idle, idle]
    rfl
  candidates := rfl
  batched := LoopState.batched_start backpressure

/-- The loop goes on or returns, and has no task in its hands either way. -/
theorem load_ofControl (control : Control) : LoopPhase.load (.ofControl control) = 0 := by
  cases control with
  | continues => rfl
  | breaks => rfl
  | fails error => rfl

theorem load_phaseAfter (outcome : Outcome) : LoopPhase.load (phaseAfter outcome) = (outcome.task.toList : Multiset _) := by
  cases outcome with
  | enqueued task => rfl
  | _ => rfl

theorem pushed_flushIfDue (batch : BatchState) (reading : FlushReading) :
    (batch.flushIfDue reading).1.pushed = batch.pushed := by
  unfold BatchState.flushIfDue
  split
  · unfold BatchState.flushCandidateBatch
    split
    · rfl
    · rfl
  · rfl

theorem Conserves.step {step : PipelineStep Reading} (conserves : Conserves state)
    (stepped : Stepped work state step next) : Conserves next := by
  have tasks := conserves.tasks
  cases stepped with
  | mempool item settings now lookupPressure selecting =>
    refine ⟨?_, conserves.candidates, conserves.batched.step _⟩
    have grown := Intake.accepted_deliver state.loop.intake (state.delivery item settings now lookupPressure)
    show ((state.loop.intake.deliver (state.delivery item settings now lookupPressure)).1.accepted :
      Multiset PendingHashTask) = _
    rw [grown, ← Multiset.coe_add, tasks, ← load_phaseAfter]
    unfold load
    rw [selecting]
    simp only [LoopPhase.load, lookupPool]
    abel
  | enqueue task queue sending room items =>
    refine ⟨?_, conserves.candidates, conserves.batched⟩
    rw [tasks]
    unfold load Pool.load lookupPool
    rw [sending]
    simp only [LoopPhase.load, items, List.map_id, ← Multiset.coe_add, Multiset.coe_singleton]
    abel
  | ready pushedAt reading candidate queue selecting items =>
    refine ⟨?_, ?_, conserves.batched.step _⟩
    · show (state.loop.intake.accepted : Multiset PendingHashTask) = _
      rw [tasks]
      unfold load
      rw [selecting, load_ofControl, items]
      simp only [LoopPhase.load, lookupPool, List.map_cons, List.map_append, List.map_nil, ← Multiset.coe_add,
        ← Multiset.cons_coe, ← Multiset.singleton_add, Multiset.coe_nil]
      abel
    · rw [List.map_append, conserves.candidates]
      exact (pushed_flushIfDue (state.loop.batch.push candidate.value pushedAt) reading).symm
  | tick reading selecting =>
    refine ⟨?_, ?_, conserves.batched.step _⟩
    · show (state.loop.intake.accepted : Multiset PendingHashTask) = _
      rw [tasks]
      unfold load
      rw [selecting, load_ofControl]
      rfl
    · rw [conserves.candidates]
      exact (pushed_flushIfDue state.loop.batch reading).symm
  | lookup index move pool moved =>
    refine ⟨?_, conserves.candidates, conserves.batched⟩
    have kept := Pool.load_moved id Traced.task StageWork.lookupTraced_task moved
    rw [tasks]
    unfold load
    rw [← kept]
    rfl
  | evaluate index move pool moved =>
    refine ⟨?_, conserves.candidates, conserves.batched⟩
    have kept := Pool.load_moved Traced.task Traced.task StageWork.evaluateTraced_task moved
    rw [tasks, load_eq_evalPool, load_eq_evalPool, ← kept]
    rfl
  | pause paused => exact ⟨tasks, conserves.candidates, conserves.batched⟩

variable {backpressure : PendingLookupBackpressure} {lookupWorkers evalWorkers : Nat} {labels : List (PipelineStep Reading)}

theorem conserves_after
    (reached : (system work).after (start backpressure lookupWorkers evalWorkers) labels = some state) :
    Conserves state :=
  Transition.System.invariant (fun _ _ _ conserves step => conserves.step (stepped_of_step step))
    (conserves_start backpressure lookupWorkers evalWorkers) reached

/-- What the stages have made of a task. -/
def Decodes (work : StageWork Reading) (candidate : Traced LookupDecodedCandidate) : Prop :=
  ∃ reading, work.lookupDecode reading candidate.task = .gives candidate.value

def Evaluates (work : StageWork Reading) (candidate : Traced PendingExecutionCandidate) : Prop :=
  ∃ decoded reading, Decodes work ⟨candidate.task, decoded⟩ ∧ work.evaluate reading decoded = .gives candidate.value

theorem decodes_of_lookupTraced (reading : Reading) (task : PendingHashTask) (result : Traced LookupDecodedCandidate)
    (given : work.lookupTraced reading task = .gives result) : Decodes work result := by
  have same := StageWork.lookupTraced_task reading task result given
  unfold StageWork.lookupTraced at given
  cases decoded : work.lookupDecode reading task with
  | gives value =>
    rw [decoded] at given
    cases given
    exact ⟨reading, decoded⟩
  | declines => rw [decoded] at given; cases given
  | fails panic => rw [decoded] at given; cases given

theorem evaluates_of_evaluateTraced (reading : Reading) (candidate : Traced LookupDecodedCandidate)
    (result : Traced PendingExecutionCandidate) (decodes : Decodes work candidate)
    (given : work.evaluateTraced reading candidate = .gives result) : Evaluates work result := by
  unfold StageWork.evaluateTraced at given
  cases ready : work.evaluate reading candidate.value with
  | gives value =>
    rw [ready] at given
    cases given
    exact ⟨candidate.value, reading, decodes, ready⟩
  | declines => rw [ready] at given; cases given
  | fails panic => rw [ready] at given; cases given

/-- What is on its way has been made by the stages. -/
structure Made (work : StageWork Reading) (state : Pipeline) : Prop where
  lookup : state.lookupPool.Good (fun _ => True) (Decodes work)
  eval : state.evalPool.Good (Decodes work) (Evaluates work)
  arrived : ∀ candidate ∈ state.arrived, Evaluates work candidate

theorem made_start (backpressure : PendingLookupBackpressure) (lookupWorkers evalWorkers : Nat) :
    Made work (start backpressure lookupWorkers evalWorkers) where
  lookup := ⟨by simp, by simp [lookupPool, start, Pool.WorkerGood], by simp [lookupPool, start, Channel.empty]⟩
  eval := ⟨by simp [evalPool, start, Channel.empty], by simp [evalPool, start, Pool.WorkerGood],
    by simp [evalPool, start, Channel.empty]⟩
  arrived := by simp [start]

theorem Made.step {step : PipelineStep Reading} (made : Made work state)
    (stepped : Stepped work state step next) : Made work next := by
  obtain ⟨lookup, eval, arrived⟩ := made
  cases stepped with
  | mempool item settings now lookupPressure selecting => exact ⟨lookup, eval, arrived⟩
  | enqueue task queue sending room items => exact ⟨⟨fun _ _ => trivial, lookup.workers, lookup.sink⟩, eval, arrived⟩
  | ready pushedAt reading candidate queue selecting items =>
    have results := eval.sink
    rw [evalPool, items] at results
    refine ⟨lookup, ⟨eval.source, eval.workers, fun other member => results other (List.mem_cons_of_mem _ member)⟩, ?_⟩
    intro other member
    rcases List.mem_append.mp member with old | new
    · exact arrived other old
    · rw [List.mem_singleton.mp new]
      exact results candidate List.mem_cons_self
  | tick reading selecting => exact ⟨lookup, eval, arrived⟩
  | lookup index move pool moved =>
    have kept := lookup.moved (fun reading task result _ => decodes_of_lookupTraced reading task result) moved
    exact ⟨kept, ⟨kept.sink, eval.workers, eval.sink⟩, arrived⟩
  | evaluate index move pool moved =>
    have kept := eval.moved evaluates_of_evaluateTraced moved
    exact ⟨⟨lookup.source, lookup.workers, kept.source⟩, kept, arrived⟩
  | pause paused => exact ⟨lookup, eval, arrived⟩

theorem made_after
    (reached : (system work).after (start backpressure lookupWorkers evalWorkers) labels = some state) :
    Made work state :=
  Transition.System.invariant (fun _ _ _ made step => made.step (stepped_of_step step))
    (made_start backpressure lookupWorkers evalWorkers) reached

def Manned (lookupWorkers evalWorkers : Nat) (state : Pipeline) : Prop :=
  state.lookupWorkers.length = lookupWorkers ∧ state.evalWorkers.length = evalWorkers

/-- The workers stay as many as they are. -/
theorem manned_after
    (reached : (system work).after (start backpressure lookupWorkers evalWorkers) labels = some state) :
    Manned lookupWorkers evalWorkers state := by
  have keeps : ∀ state step next, Manned lookupWorkers evalWorkers state → system work state step = some next →
      Manned lookupWorkers evalWorkers next := by
    intro state step next manned steps
    cases stepped_of_step steps with
    | lookup index move pool moved => exact ⟨(Pool.length_workers moved).trans manned.1, manned.2⟩
    | evaluate index move pool moved => exact ⟨manned.1, (Pool.length_workers moved).trans manned.2⟩
    | _ => exact manned
  exact Transition.System.invariant keeps ⟨List.length_replicate, List.length_replicate⟩ reached

theorem Conserves.arrived_perm (conserves : Conserves state) : (state.arrived.map Traced.value).Perm
    (state.loop.batch.handed.map Handover.best ++ state.loop.batch.batcher.candidates) := by
  rw [conserves.candidates]
  exact conserves.batched.1.perm

/-- A task has been dropped, has been handed over, or is one of those that the system has room for. -/
theorem Conserves.length_accepted_le (conserves : Conserves state) :
    state.loop.intake.accepted.length ≤ state.lookupDropped.length + state.evalDropped.length +
      state.loop.batch.handed.length + (state.lookupWorkers.length + state.evalWorkers.length + 9220) := by
  have all := congrArg Multiset.card conserves.tasks
  have lookups := Pool.card_workers_le id Traced.task state.lookupWorkers
  have evals := Pool.card_workers_le Traced.task Traced.task state.evalWorkers
  have lookupFits := state.lookupQueue.fits
  have evalFits := state.evalQueue.fits
  have readyFits := state.readyQueue.fits
  have pushed := conserves.arrived_perm.length_eq
  have few := conserves.batched.2
  have loop : (LoopPhase.load state.phase).card ≤ 1 := by
    cases state.phase with
    | sending task => exact le_refl 1
    | _ => exact Nat.zero_le 1
  rw [List.length_append, List.length_map, List.length_map] at pushed
  simp only [load, Pool.load, lookupPool, Multiset.card_add, Multiset.coe_card, List.length_map] at all
  unfold lookupDecodeQueueCapacity at lookupFits
  unfold evalQueueCapacity at evalFits readyFits
  unfold microbatchMaxCandidates at few
  omega

/-- In every run every task is in one place, in the order of its making: it waits for room, it is on its way, it has
been dropped, or it has come back as a candidate. What has come back is what the executor has been given and what is
pending. The system holds a limited number of tasks. -/
theorem tasks_in_one_place
    (reached : (system work).after (start backpressure lookupWorkers evalWorkers) labels = some state) :
    (state.loop.intake.accepted : Multiset PendingHashTask) = state.load ∧
    (state.arrived.map Traced.value).Perm
      (state.loop.batch.handed.map Handover.best ++ state.loop.batch.batcher.candidates) ∧
    state.loop.intake.accepted.length ≤ state.lookupDropped.length + state.evalDropped.length +
      state.loop.batch.handed.length + (lookupWorkers + evalWorkers + 9220) := by
  have conserves := conserves_after reached
  obtain ⟨lookups, evals⟩ := manned_after reached
  have bound := conserves.length_accepted_le
  rw [lookups, evals] at bound
  exact ⟨conserves.tasks, conserves.arrived_perm, bound⟩

theorem sampleRun_some {steps : List (PipelineStep Unit)} (possible : (sampleRun steps).isSome) :
    sampleRun steps = some ((sampleRun steps).get possible) :=
  (Option.some_get possible).symm

theorem sampleSteps_possible : (sampleRun sampleSteps).isSome := by decide +kernel

theorem tasks_in_one_place_sample :
    let state := (sampleRun sampleSteps).get sampleSteps_possible
    (state.loop.intake.accepted : Multiset PendingHashTask) = state.load ∧
      (state.arrived.map Traced.value).Perm
        (state.loop.batch.handed.map Handover.best ++ state.loop.batch.batcher.candidates) ∧
      state.loop.batch.handed.length = 1 := by
  intro state
  obtain ⟨tasks, perm, _⟩ := tasks_in_one_place (sampleRun_some sampleSteps_possible)
  exact ⟨tasks, perm, by decide +kernel⟩

theorem apart_after
    (reached : (system work).after (start backpressure lookupWorkers evalWorkers) labels = some state) :
    state.loop.intake.Apart := by
  have keeps : ∀ state step next, state.loop.intake.Apart → system work state step = some next →
      next.loop.intake.Apart := by
    intro state step next apart steps
    cases stepped_of_step steps with
    | mempool item settings now lookupPressure selecting => exact apart.deliver _
    | _ => exact apart
  exact Transition.System.invariant keeps (Intake.apart_start backpressure) reached

/-- In every run the executor is only given what both stages have made of tasks that were accepted, each task is
there at most once, and of each transaction there is at most one in 8193 takings. -/
theorem executed_at_most_once
    (reached : (system work).after (start backpressure lookupWorkers evalWorkers) labels = some state) :
    ∃ executed : List (Traced PendingExecutionCandidate),
      executed.map Traced.value = state.loop.batch.handed.map Handover.best ∧
      (∀ candidate ∈ executed, Evaluates work candidate) ∧
      (executed.map Traced.task : Multiset PendingHashTask) ≤ state.loop.intake.accepted ∧
      ∀ txHash, executed.countP (fun candidate => candidate.task.txHash = txHash) * 8193 ≤
        state.loop.intake.takings.length + 8192 := by
  have conserves := conserves_after reached
  obtain ⟨reordered, same, images⟩ := Reorder.exists_perm_map conserves.arrived_perm
  obtain ⟨executed, pending, rfl, handed, _⟩ := List.map_eq_append_iff.mp images
  have inside : (executed.map Traced.task : Multiset PendingHashTask) ≤ state.loop.intake.accepted := by
    have all : (state.arrived.map Traced.task : Multiset PendingHashTask) =
        executed.map Traced.task + pending.map Traced.task := by
      rw [Multiset.coe_add, ← List.map_append]
      exact Multiset.coe_eq_coe.mpr (same.map Traced.task)
    rw [conserves.tasks]
    unfold load
    rw [all]
    exact le_add_left (Multiset.le_add_right _ _)
  refine ⟨executed, handed, ?_, inside, ?_⟩
  · intro candidate member
    exact (made_after reached).arrived candidate (same.mem_iff.mpr (List.mem_append_left _ member))
  · intro txHash
    have hashes := Multiset.count_le_of_le txHash (Multiset.map_le_map (f := PendingHashTask.txHash) inside)
    rw [Multiset.map_coe, Multiset.map_coe, Multiset.coe_count, Multiset.coe_count, List.map_map] at hashes
    have count : executed.countP (fun candidate => candidate.task.txHash = txHash) =
        (executed.map (PendingHashTask.txHash ∘ Traced.task)).count txHash := by
      rw [List.count, List.countP_map]
      congr 1
    rw [count]
    exact (Nat.mul_le_mul_right 8193 hashes).trans ((apart_after reached).count_accepted_le txHash)

theorem executed_at_most_once_sample :
    let state := (sampleRun sampleSteps).get sampleSteps_possible
    ∃ executed : List (Traced PendingExecutionCandidate), executed.length = 1 ∧
      (∀ candidate ∈ executed, Evaluates sampleWork candidate) ∧
      (executed.map Traced.task : Multiset PendingHashTask) ≤ state.loop.intake.accepted := by
  intro state
  obtain ⟨executed, handed, evaluates, inside, _⟩ := executed_at_most_once (sampleRun_some sampleSteps_possible)
  refine ⟨executed, ?_, evaluates, inside⟩
  have same := congrArg List.length handed
  rw [List.length_map, List.length_map] at same
  rw [same]
  decide +kernel

/-- What has become of a system since it was paused. -/
structure Drains (before state : Pipeline) : Prop where
  paused : state.paused = true
  accepted : state.loop.intake.accepted = before.loop.intake.accepted
  arrived : ∃ late, state.arrived = before.arrived ++ late ∧
    (late.map Traced.task : Multiset PendingHashTask) + state.evalPool.promised Traced.task Traced.task ≤
      before.evalPool.promised Traced.task Traced.task

theorem Drains.step {before : Pipeline} {step : PipelineStep Reading} (drains : Drains before state)
    (stepped : Stepped work state step next) (holds : step ≠ .pause false) : Drains before next := by
  obtain ⟨paused, accepted, late, arrived, fewer⟩ := drains
  cases stepped with
  | mempool item settings now lookupPressure selecting =>
    refine ⟨paused, ?_, late, arrived, fewer⟩
    have skipped : state.loop.intake.deliver (state.delivery item settings now lookupPressure) =
        (state.loop.intake, .skipped) := Intake.deliver_paused paused
    show (state.loop.intake.deliver (state.delivery item settings now lookupPressure)).1.accepted = _
    rw [skipped]
    exact accepted
  | enqueue task queue sending room items => exact ⟨paused, accepted, late, arrived, fewer⟩
  | ready pushedAt reading candidate queue selecting items =>
    refine ⟨paused, accepted, late ++ [candidate], by rw [arrived, List.append_assoc], le_trans (le_of_eq ?_) fewer⟩
    unfold Pool.promised evalPool
    rw [items]
    simp only [List.map_append, List.map_cons, List.map_nil, ← Multiset.coe_add, ← Multiset.cons_coe,
      ← Multiset.singleton_add, Multiset.coe_nil]
    abel
  | tick reading selecting => exact ⟨paused, accepted, late, arrived, fewer⟩
  | lookup index move pool moved => exact ⟨paused, accepted, late, arrived, fewer⟩
  | evaluate index move pool moved =>
    rw [paused] at moved
    have less := Pool.promised_moved Traced.task Traced.task StageWork.evaluateTraced_task moved
    exact ⟨paused, accepted, late, arrived, le_trans (by gcongr; exact less) fewer⟩
  | pause switched =>
    cases switched with
    | true => exact ⟨rfl, accepted, late, arrived, fewer⟩
    | false => exact absurd rfl holds

theorem drains_after {before : Pipeline} {later : List (PipelineStep Reading)} (paused : before.paused = true)
    (holds : ∀ step ∈ later, step ≠ .pause false) (reached : (system work).after before later = some state) :
    Drains before state := by
  induction later using List.reverseRecOn generalizing state with
  | nil =>
    cases Option.some.inj reached
    exact ⟨paused, rfl, [], by simp, by simp⟩
  | append_singleton later step ih =>
    obtain ⟨middle, earlier, steps⟩ := Transition.System.after_concat_eq_some.mp reached
    have drains := ih (fun other member => holds other (List.mem_append_left _ member)) earlier
    exact drains.step (stepped_of_step steps) (holds step (by simp))

/-- From a pause on no task is made, and what still comes back has passed the check of its evaluation before, so that
the executor is given at most so many candidates more. -/
theorem pause_drains {later : List (PipelineStep Reading)}
    (reached : (system work).after (start backpressure lookupWorkers evalWorkers) labels = some state)
    (paused : state.paused = true) (holds : ∀ step ∈ later, step ≠ .pause false)
    (reached' : (system work).after state later = some next) :
    next.loop.intake.accepted = state.loop.intake.accepted ∧
    (∃ late, next.arrived = state.arrived ++ late ∧
      (late.map Traced.task : Multiset PendingHashTask) ≤ state.evalPool.promised Traced.task Traced.task) ∧
    next.loop.batch.handed.length ≤ state.loop.batch.handed.length + (evalWorkers + 515) := by
  obtain ⟨_, accepted, late, arrived, fewer⟩ := drains_after paused holds reached'
  have less : (late.map Traced.task : Multiset PendingHashTask) ≤ state.evalPool.promised Traced.task Traced.task :=
    (Multiset.le_add_right _ _).trans fewer
  refine ⟨accepted, ⟨late, arrived, less⟩, ?_⟩
  have few := Multiset.card_le_card less
  have bound := Pool.card_promised_le Traced.task Traced.task state.evalPool
  have workers : state.evalPool.workers.length = evalWorkers := (manned_after reached).2
  have conserves := conserves_after reached
  have together : (system work).after (start backpressure lookupWorkers evalWorkers) (labels ++ later) =
      some next := (Transition.System.after_append reached later).trans reached'
  have pending := conserves.batched.2
  have counted := conserves.arrived_perm.length_eq
  have counted' := (conserves_after together).arrived_perm.length_eq
  rw [List.length_map, List.length_append, List.length_map] at counted counted'
  rw [Multiset.coe_card, List.length_map] at few
  rw [arrived, List.length_append] at counted'
  unfold microbatchMaxCandidates at pending
  have room : evalQueueCapacity = 512 := rfl
  omega

/-- The operator stops the system while the candidate is in evaluation. -/
def pausedSteps : List (PipelineStep Unit) := sampleSteps.take 10 ++ [.pause true]

theorem pausedSteps_possible : (sampleRun pausedSteps).isSome := by decide +kernel

def pausedState : Pipeline := (sampleRun pausedSteps).get pausedSteps_possible

theorem rest_possible :
    ((system sampleWork).after pausedState (sampleSteps.drop 10)).isSome := by
  decide +kernel

theorem pause_drains_sample :
    let next := ((system sampleWork).after pausedState (sampleSteps.drop 10)).get rest_possible
    pausedState.loop.batch.handed.length = 0 ∧ next.loop.batch.handed.length = 1 ∧
      next.loop.batch.handed.length ≤ pausedState.loop.batch.handed.length + (1 + 515) := by
  have paused : pausedState.paused = true := by decide +kernel
  have holds : ∀ step ∈ sampleSteps.drop 10, step ≠ .pause false := by
    intro step member
    simp [sampleSteps, sampleMoves] at member
    rcases member with rfl | rfl | rfl | rfl
    all_goals simp
  obtain ⟨_, _, bound⟩ := pause_drains (sampleRun_some pausedSteps_possible) paused holds (Option.some_get rest_possible).symm
  exact ⟨by decide +kernel, by decide +kernel, bound⟩

end Pipeline

end ArbitrageRuntime
