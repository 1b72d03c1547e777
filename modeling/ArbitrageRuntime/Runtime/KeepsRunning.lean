import ArbitrageRuntime.Lib.Transition
import ArbitrageRuntime.Runtime.RunLoop
import ArbitrageRuntime.Engine.Submission

namespace ArbitrageRuntime

/-- The candidate that a due flush hands over. -/
def BatchState.due (batch : BatchState) (reading : FlushReading) : Option PendingExecutionCandidate :=
  if batch.batcher.shouldFlush reading.checkedAt then
    (batch.batcher.drainBest reading.drainedAt).map fun drained => drained.1
  else none

/-- A flush fails exactly with the error of the candidate that it hands over. -/
theorem BatchState.flushIfDue_result (batch : BatchState) (reading : FlushReading) :
    (batch.flushIfDue reading).2 =
      match batch.due reading with
      | none => .ok ()
      | some candidate => reading.handle candidate.opportunity := by
  unfold flushIfDue due
  by_cases isDue : batch.batcher.shouldFlush reading.checkedAt
  · rw [if_pos isDue, if_pos isDue]
    unfold flushCandidateBatch
    cases batch.batcher.drainBest reading.drainedAt with
    | none => rfl
    | some drained => rfl
  · rw [if_neg isDue, if_neg isDue]

namespace LoopState

/-- The candidate that goes to the executor at an event, with what the executor makes of it. -/
def handsOut (state : LoopState) : LoopEvent → Option (PendingExecutionCandidate × Except String Unit)
  | .mempool _ => none
  | .ready candidate pushedAt reading =>
    ((state.batch.push candidate pushedAt).due reading).map fun best => (best, reading.handle best.opportunity)
  | .tick reading => (state.batch.due reading).map fun best => (best, reading.handle best.opportunity)

/-- The executor does not fail at the event. -/
def Handled (state : LoopState) (event : LoopEvent) : Prop :=
  ∀ candidate result, state.handsOut event = some (candidate, result) → result = .ok ()

/-- What every event does, whether or not the loop is still there to see it. -/
def everyEvent : Transition.System LoopState LoopEvent := fun state event => some (state.step event).1

/-- The whole sequence of events is processed, and the loop goes on behind it. -/
def KeepsRunning (state : LoopState) (events : List LoopEvent) : Prop :=
  ∃ last, everyEvent.after state events = some last ∧ state.runLoop events = (last, .continues)

theorem ofFlush_continues_iff {flushed : Option PendingExecutionCandidate} {handle : MevOpportunity → Except String Unit} :
    Control.ofFlush (match flushed with
        | none => .ok ()
        | some candidate => handle candidate.opportunity) = .continues ↔
      ∀ candidate result, flushed.map (fun best => (best, handle best.opportunity)) = some (candidate, result) →
        result = .ok () := by
  cases flushed with
  | none => simp [Control.ofFlush]
  | some best =>
    cases outcome : handle best.opportunity with
    | ok done => simp [Control.ofFlush, outcome]
    | error error => simp [Control.ofFlush, outcome]

/-- Only the executor can end the loop. -/
theorem step_continues_iff {state : LoopState} {event : LoopEvent} :
    (state.step event).2 = .continues ↔ state.Handled event := by
  cases event with
  | mempool delivery =>
    have goesOn : (state.step (.mempool delivery)).2 = .continues :=
      Control.ofSend_eq delivery (state.intake.deliver delivery).2
    exact ⟨fun _ candidate result handed => absurd handed (by simp [handsOut]), fun _ => goesOn⟩
  | ready candidate pushedAt reading =>
    show Control.ofFlush ((state.batch.push candidate pushedAt).flushIfDue reading).2 = .continues ↔ _
    rw [BatchState.flushIfDue_result]
    exact ofFlush_continues_iff
  | tick reading =>
    show Control.ofFlush (state.batch.flushIfDue reading).2 = .continues ↔ _
    rw [BatchState.flushIfDue_result]
    exact ofFlush_continues_iff

/-- A loop that has not been left has processed every event. -/
theorem keepsRunning_iff_continues {state : LoopState} {events : List LoopEvent} :
    KeepsRunning state events ↔ (state.runLoop events).2 = .continues := by
  constructor
  · rintro ⟨last, _, ran⟩
    rw [ran]
  · intro running
    refine ⟨(state.runLoop events).1, ?_, Prod.ext rfl running⟩
    induction events generalizing state with
    | nil => rfl
    | cons event events ih =>
      have moves : everyEvent state event = some (state.step event).1 := rfl
      rw [Transition.System.after_cons moves]
      unfold runLoop at running ⊢
      cases result : state.step event with
      | mk next control =>
        rw [result] at running
        cases control with
        | continues => exact ih running
        | breaks => exact absurd running (by simp)
        | fails error => exact absurd running (by simp)

/-- One event more: it is only looked at by a loop that has not been left. -/
theorem runLoop_concat (state : LoopState) (events : List LoopEvent) (event : LoopEvent) :
    (state.runLoop (events ++ [event])).2 = .continues ↔
      (state.runLoop events).2 = .continues ∧
        ((state.runLoop events).1.step event).2 = .continues := by
  induction events generalizing state with
  | nil =>
    simp only [List.nil_append, runLoop, true_and]
    rcases state.step event with ⟨next, control⟩
    cases control with
    | continues => rfl
    | breaks => rfl
    | fails error => rfl
  | cons first events ih =>
    simp only [List.cons_append, runLoop]
    rcases state.step first with ⟨next, control⟩
    cases control with
    | continues => exact ih next
    | breaks => simp
    | fails error => simp

/-- The loop gets through every sequence of events exactly when no candidate that it hands out on the way fails in the
executor: a failed submission ends the whole engine. -/
theorem keepsRunning_iff (state : LoopState) (events : List LoopEvent) :
    KeepsRunning state events ↔ everyEvent.EveryStep (fun before event _ => before.Handled event) state events := by
  induction events using List.reverseRecOn with
  | nil =>
    exact ⟨fun _ => Transition.System.everyStep_nil, fun _ => ⟨state, rfl, rfl⟩⟩
  | append_singleton events event ih =>
    rw [keepsRunning_iff_continues, runLoop_concat, ← keepsRunning_iff_continues]
    constructor
    · rintro ⟨running, goesOn⟩
      obtain ⟨before, reached, ran⟩ := running
      have every := ih.mp ⟨before, reached, ran⟩
      rw [ran] at goesOn
      exact (Transition.System.everyStep_concat reached rfl).mpr ⟨every, step_continues_iff.mp goesOn⟩
    · intro every
      obtain ⟨before, reached, ran⟩ := ih.mpr (every.of_prefix (List.prefix_append _ _))
      have handled := ((Transition.System.everyStep_concat reached rfl).mp every).2
      refine ⟨⟨before, reached, ran⟩, ?_⟩
      rw [ran]
      exact step_continues_iff.mpr handled

/-- A candidate that is ready at time 0 and handed over when its window has passed, with a transaction in the
mempool behind it. The executor meets endpoints that all answer alike. -/
def submissionEvents (answer : SubmitResult) : List LoopEvent :=
  [.ready { sampleCandidate 5 with opportunity := sampleOpportunity } 0
      ⟨microbatchWindow, microbatchWindow, fun opportunity =>
        (handle sendingConfig opportunity (sampleOutside answer) (frozenEngine [])).result⟩,
    .mempool (sampleDelivery (.full sampleTransaction) 8192)]

theorem keepsRunning_accepted :
    KeepsRunning (start idleBackpressure) (submissionEvents .accepted) ∧
      everyEvent.EveryStep (fun before event _ => before.Handled event) (start idleBackpressure)
        (submissionEvents .accepted) :=
  have running : KeepsRunning (start idleBackpressure) (submissionEvents .accepted) :=
    keepsRunning_iff_continues.mpr (by decide +kernel)
  ⟨running, (keepsRunning_iff (start idleBackpressure) (submissionEvents .accepted)).mp running⟩

/-- Both endpoints reject one transaction. The loop ends with the error, and the mempool item behind it is
never looked at. -/
theorem rejected_submission_ends_loop :
    ¬ KeepsRunning (start idleBackpressure) (submissionEvents (.failed "nonce too low")) ∧
    ((start idleBackpressure).runLoop (submissionEvents (.failed "nonce too low"))).2 = .fails "nonce too low" ∧
    ((start idleBackpressure).runLoop (submissionEvents (.failed "nonce too low"))).1.intake.takings = [] := by
  have ended : ((start idleBackpressure).runLoop (submissionEvents (.failed "nonce too low"))).2 =
      .fails "nonce too low" := by decide +kernel
  refine ⟨?_, ended, by decide +kernel⟩
  rw [keepsRunning_iff_continues, ended]
  simp

end LoopState

end ArbitrageRuntime
