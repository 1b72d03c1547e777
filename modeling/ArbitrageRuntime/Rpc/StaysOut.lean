import ArbitrageRuntime.Rpc.ScoreCache

namespace ArbitrageRuntime

namespace RpcEndpointState

/-- A failure never enables an endpoint. -/
theorem disabled_recordFailure {state : RpcEndpointState} (isDisabled : state.disabled = true) (now : Instant)
    (kind : RpcFailureKind) : (state.recordFailure now kind).disabled = true := by
  have counted : ((state.refresh now).disabled) = true := (disabled_refresh state now).trans isDisabled
  cases kind with
  | capacityExhausted => rfl
  | timeout => exact counted
  | rateLimited => exact counted
  | stale => exact counted
  | transport => exact counted
  | remote => exact counted

end RpcEndpointState

theorem uncachedScore_of_disabled {powf : ℚ → ℚ} {kind : RpcKind} {state : RpcEndpointState} {now clock : Instant}
    {sendMode : Bool} (isDisabled : state.disabled = true) : uncachedScore powf kind state now clock sendMode = none :=
  if_pos isDisabled

/-- The recomputation gives the endpoint no score for sending unless it was not out when it was scored. -/
def Recomputation.Keeps (id : Nat) (recomputation : Recomputation) : Prop :=
  recomputation.scoredIn id = false → recomputation.sendScores id = none

theorem Recomputation.keeps_start (config : FleetConfig) (now : Instant) (id : Nat) :
    (Recomputation.start config now).Keeps id := fun _ => rfl

theorem Recomputation.Keeps.put {id : Nat} {recomputation : Recomputation} (keeps : recomputation.Keeps id)
    {endpoint : RpcEndpoint} {sendMode isOut : Bool} {score : Option ℚ} {todo : List (RpcEndpoint × Bool)}
    (noScore : endpoint.id = id → isOut = true → score = none) :
    (recomputation.put endpoint sendMode isOut score todo).Keeps id := by
  unfold Recomputation.put
  split
  · intro scoredOut
    by_cases same : endpoint.id = id
    · rw [← same] at scoredOut ⊢
      simp only [Function.update_self, Bool.not_eq_false'] at scoredOut ⊢
      exact noScore same scoredOut
    · simp only [Function.update_of_ne (Ne.symm same)] at scoredOut ⊢
      exact keeps scoredOut
  · exact keeps

/-- A call that started while the endpoint was out has not found it. When it is about to read a table, there is no
score of the endpoint in it. -/
structure Selection.Keeps (id : Nat) (isOut : Bool) (score : Option ℚ) (selection : Selection) : Prop where
  isOut : isOut = true
  found : ∀ candidate ∈ selection.found, candidate.1.id ≠ id
  reading : selection.lookup = .reading → score = none

theorem Selection.Keeps.advance {id : Nat} {isOut : Bool} {score : Option ℚ} {selection : Selection}
    (keeps : selection.Keeps id isOut score) {endpoint : RpcEndpoint} {todo : List RpcEndpoint} {value : Option ℚ}
    (noScore : endpoint.id = id → value = none) : (selection.advance endpoint todo value).Keeps id isOut score where
  isOut := keeps.isOut
  found := by
    intro candidate member
    rcases List.mem_append.mp member with earlier | new
    · exact keeps.found candidate earlier
    · intro same
      obtain ⟨number, present, rfl⟩ := Option.map_eq_some_iff.mp (Option.mem_toList.mp new)
      rw [noScore same] at present
      exact absurd present (by simp)
  reading := by
    intro impossible
    exact absurd impossible (by simp [Selection.advance])

/-- What every task keeps about an endpoint. -/
structure FleetTask.Keeps (id : Nat) (isOut : Bool) (score : Option ℚ) (position : FleetTask) : Prop where
  recomputation : ∀ recomputation, position.recomputation = some recomputation → recomputation.Keeps id
  selection : ∀ selection, position = .selecting selection → selection.startedOut id = true →
    selection.Keeps id isOut score

namespace FleetTask

/-- A task that is not in a selection keeps what its recomputation does, if it has one. -/
theorem keeps_of_notSelecting {id : Nat} {isOut : Bool} {score : Option ℚ} {position : FleetTask}
    (notSelecting : ∀ selection, position ≠ .selecting selection)
    (kept : ∀ recomputation, position.recomputation = some recomputation → recomputation.Keeps id) :
    position.Keeps id isOut score where
  recomputation := kept
  selection := fun selection same => absurd same (notSelecting selection)

theorem keeps_idle (id : Nat) (isOut : Bool) (score : Option ℚ) : FleetTask.idle.Keeps id isOut score :=
  keeps_of_notSelecting (by simp) (by simp [FleetTask.recomputation])

theorem keeps_invalidating (id : Nat) (isOut : Bool) (score : Option ℚ) (disabled : Option Nat) :
    (FleetTask.invalidating disabled).Keeps id isOut score :=
  keeps_of_notSelecting (by simp) (by simp [FleetTask.recomputation])

theorem keeps_recomputing {id : Nat} {recomputation : Recomputation} (keeps : recomputation.Keeps id) (isOut : Bool)
    (score : Option ℚ) : (FleetTask.recomputing recomputation).Keeps id isOut score := by
  refine keeps_of_notSelecting (by simp) ?_
  intro other same
  cases Option.some.inj same
  exact keeps

/-- A selection keeps what it does while its endpoint stays out and its table gets no score of it. -/
theorem Keeps.mono {id : Nat} {isOut isOut' : Bool} {score score' : Option ℚ} {position : FleetTask}
    (keeps : position.Keeps id isOut score) (stays : isOut = true → isOut' = true)
    (noScore : isOut = true → score = none → score' = none) : position.Keeps id isOut' score' where
  recomputation := keeps.recomputation
  selection := by
    intro selection same startedOut
    have earlier := keeps.selection selection same startedOut
    exact ⟨stays earlier.isOut, earlier.found, fun reading => noScore earlier.isOut (earlier.reading reading)⟩

theorem Keeps.of_notStartedOut {id : Nat} {isOut isOut' : Bool} {score score' : Option ℚ} {position : FleetTask}
    (keeps : position.Keeps id isOut score)
    (notStarted : ∀ selection, position = .selecting selection → selection.startedOut id = false) :
    position.Keeps id isOut' score' where
  recomputation := keeps.recomputation
  selection := by
    intro selection same startedOut
    exact absurd ((notStarted selection same).symm.trans startedOut) (by simp)

/-- A selection that goes on looking. -/
theorem keeps_selecting {id : Nat} {isOut : Bool} {score : Option ℚ} {selection : Selection}
    (looking : selection.lookup = .looking)
    (keeps : selection.startedOut id = true → selection.Keeps id isOut score) :
    (FleetTask.selecting selection).Keeps id isOut score where
  recomputation := by
    intro _ impossible
    exact absurd impossible (by simp [FleetTask.recomputation, looking])
  selection := by
    intro other same startedOut
    cases same
    exact keeps startedOut

theorem Keeps.recomputed {id : Nat} {isOut : Bool} {score : Option ℚ} {position : FleetTask}
    (keeps : position.Keeps id isOut score) {recomputation : Recomputation} (kept : recomputation.Keeps id) :
    (position.recomputed recomputation).Keeps id isOut score := by
  cases position with
  | selecting selection =>
    constructor
    · intro other same
      cases Option.some.inj same
      exact kept
    · intro other same startedOut
      cases same
      have earlier := keeps.selection selection rfl startedOut
      exact ⟨earlier.isOut, earlier.found, fun impossible => absurd impossible (by simp)⟩
  | idle => exact keeps_recomputing kept isOut score
  | invalidating _ => exact keeps_recomputing kept isOut score
  | recomputing _ => exact keeps_recomputing kept isOut score

theorem Keeps.published {id : Nat} {isOut : Bool} {score score' : Option ℚ} {position : FleetTask}
    (keeps : position.Keeps id isOut score) (noScore : isOut = true → score' = none) :
    position.published.Keeps id isOut score' := by
  cases position with
  | selecting selection =>
    constructor
    · intro _ impossible
      exact absurd impossible (by simp [FleetTask.published, FleetTask.recomputation])
    · intro other same startedOut
      cases same
      have earlier := keeps.selection selection rfl startedOut
      exact ⟨earlier.isOut, earlier.found, fun _ => noScore earlier.isOut⟩
  | idle => exact keeps_idle id isOut score'
  | invalidating _ => exact keeps_idle id isOut score'
  | recomputing _ => exact keeps_idle id isOut score'

end FleetTask

namespace FleetState

/-- No call of `send_candidates` that started while the endpoint was out has handed it out. -/
def NeverHandedOut (id : Nat) (state : FleetState) : Prop :=
  ∀ call ∈ state.returned, call.startedOut id = true → ∀ handle ∈ call.handles, handle.id ≠ id

/-- What every step keeps about an endpoint. A table that may still have a score of it is too old to be read. -/
structure Keeps (id : Nat) (state : FleetState) : Prop where
  disabled : state.out id = true → (state.states id).disabled = true
  cache : state.out id = true → state.cache.sendScores id = none ∨ state.fresh = false
  tasks : ∀ task, (state.tasks task).Keeps id (state.out id) (state.cache.sendScores id)
  returned : state.NeverHandedOut id

/-- A recomputation that scored the endpoint before it was out does not publish a score of it while it is out,
and the endpoint is not enabled while a call is under way that started while it was out. -/
def Timely (id : Nat) (state : FleetState) (timed : Instant × FleetStep) (_ : FleetState) : Prop :=
  (∀ task recomputation, timed.2 = .publish task → state.out id = true →
    (state.tasks task).recomputation = some recomputation → recomputation.scoredIn id = true →
    recomputation.sendScores id = none) ∧
  ∀ task reason, timed.2 = .setEndpointEnabled task id true reason →
    ∀ other selection, state.tasks other = .selecting selection → selection.startedOut id = false

theorem keeps_start (now : Instant) (id : Nat) : (start now).Keeps id where
  disabled := fun impossible => absurd impossible (by simp [start])
  cache := fun impossible => absurd impossible (by simp [start])
  tasks := fun _ => FleetTask.keeps_idle ..
  returned := fun _ member => absurd member (by simp [start])

variable {id : Nat} {state : FleetState}

theorem Keeps.goTo (keeps : state.Keeps id) {task : Nat} {position : FleetTask}
    (kept : position.Keeps id (state.out id) (state.cache.sendScores id)) : (state.goTo task position).Keeps id where
  disabled := keeps.disabled
  cache := keeps.cache
  tasks := by
    intro other
    by_cases same : other = task
    · subst same
      simp only [FleetState.goTo, Function.update_self]
      exact kept
    · simp only [FleetState.goTo, Function.update_of_ne same]
      exact keeps.tasks other
  returned := keeps.returned

theorem Keeps.withEndpoint (keeps : state.Keeps id) {other : Nat} {endpoint : RpcEndpointState}
    (stays : other = id → state.out id = true → endpoint.disabled = true) :
    (state.withEndpoint other endpoint).Keeps id where
  disabled := by
    intro isOut
    by_cases same : other = id
    · simp only [FleetState.withEndpoint, same, Function.update_self]
      exact stays same isOut
    · simp only [FleetState.withEndpoint, Function.update_of_ne (Ne.symm same)]
      exact keeps.disabled isOut
  cache := keeps.cache
  tasks := keeps.tasks
  returned := keeps.returned

/-- A later time makes no table younger. -/
theorem Keeps.tick (keeps : state.Keeps id) {now : Instant} (later : state.clock ≤ now) :
    Keeps id { state with clock := now } where
  disabled := keeps.disabled
  cache := by
    intro isOut
    rcases keeps.cache isOut with noScore | old
    · exact Or.inl noScore
    · right
      have bound : (state.clock : Int) ≤ now := Int.ofNat_le.mpr later
      simp only [fresh, decide_eq_false_iff_not, not_le] at old ⊢
      omega
  tasks := keeps.tasks
  returned := keeps.returned

/-- A table without a score of an endpoint that is out may replace any other. -/
theorem Keeps.withCache (keeps : state.Keeps id) {cache : ScoreCacheState}
    (noScore : state.out id = true → cache.sendScores id = none) : (state.withCache cache).Keeps id where
  disabled := keeps.disabled
  cache := fun isOut => Or.inl (noScore isOut)
  tasks := fun task => (keeps.tasks task).mono (fun isOut => isOut) fun isOut _ => noScore isOut
  returned := keeps.returned

/-- The table that an invalidation leaves is too old, for two seconds are more than half a second. -/
theorem Keeps.invalidated (keeps : state.Keeps id) :
    (state.withCache { state.cache with updatedAt := state.clock - 2 * nanosPerSec }).Keeps id ∧
      (state.withCache { state.cache with updatedAt := state.clock - 2 * nanosPerSec }).fresh = false := by
  have old : (state.withCache { state.cache with updatedAt := state.clock - 2 * nanosPerSec }).fresh = false := by
    refine decide_eq_false (not_le.mpr ?_)
    simp only [FleetState.withCache, millis, nanosPerSec]
    omega
  exact ⟨⟨keeps.disabled, fun _ => Or.inr old, keeps.tasks, keeps.returned⟩, old⟩

/-- What becomes of another endpoint does not matter. -/
theorem Keeps.withOut_of_ne (keeps : state.Keeps id) {other : Nat} (different : id ≠ other) (isOut : Bool) :
    (state.withOut other isOut).Keeps id := by
  have unchanged : (state.withOut other isOut).out id = state.out id := Function.update_of_ne different ..
  constructor
  · exact fun stillOut => keeps.disabled (unchanged.symm.trans stillOut)
  · exact fun stillOut => keeps.cache (unchanged.symm.trans stillOut)
  · intro task
    rw [unchanged]
    exact keeps.tasks task
  · exact keeps.returned

/-- The endpoint is out once its disabling has returned, while the table is too old. -/
theorem Keeps.disablingReturned (keeps : state.Keeps id) (old : state.fresh = false) (disabled : Option Nat) :
    (state.disablingReturned disabled).Keeps id := by
  cases disabled with
  | none => exact keeps
  | some other =>
    unfold FleetState.disablingReturned
    dsimp only
    split
    · rename_i isDisabled
      by_cases same : id = other
      · subst same
        constructor
        · exact fun _ => isDisabled
        · exact fun _ => Or.inr old
        · intro task
          refine (keeps.tasks task).mono ?_ fun _ noScore => noScore
          intro _
          exact Function.update_self ..
        · exact keeps.returned
      · exact keeps.withOut_of_ne same true
    · exact keeps

/-- An endpoint may be enabled when no call that started while it was out is under way. -/
theorem Keeps.enabled (keeps : state.Keeps id) {other : Nat}
    (notStarted : other = id →
      ∀ task selection, state.tasks task = .selecting selection → selection.startedOut id = false) :
    (state.withOut other false).Keeps id := by
  by_cases same : id = other
  · subst same
    have isIn : (state.withOut id false).out id = false := Function.update_self ..
    constructor
    · exact fun isOut => absurd (isIn.symm.trans isOut) (by simp)
    · exact fun isOut => absurd (isIn.symm.trans isOut) (by simp)
    · exact fun task => (keeps.tasks task).of_notStartedOut (notStarted rfl task)
    · exact keeps.returned
  · exact keeps.withOut_of_ne same false

/-- What is handed out has been found. -/
theorem Keeps.hand (keeps : state.Keeps id) {task : Nat} {selection : Selection}
    (kept : selection.startedOut id = true → selection.Keeps id (state.out id) (state.cache.sendScores id)) :
    (state.hand task selection).Keeps id where
  disabled := keeps.disabled
  cache := keeps.cache
  tasks := keeps.tasks
  returned := by
    intro call member startedOut handle handed
    rcases List.mem_append.mp member with earlier | last
    · exact keeps.returned call earlier startedOut handle handed
    · cases List.mem_singleton.mp last
      obtain ⟨candidate, found, rfl⟩ := mem_handOut handed
      exact (kept startedOut).found candidate found

variable {config : FleetConfig} {powf : ℚ → ℚ} {next : FleetState}

theorem Keeps.setEndpointEnabled (keeps : state.Keeps id) {task other : Nat} {enabled : Bool} {reason : Option String}
    (notStarted : enabled = true → other = id →
      ∀ task selection, state.tasks task = .selecting selection → selection.startedOut id = false)
    (step : state.step config powf (.setEndpointEnabled task other enabled reason) = some next) : next.Keeps id := by
  unfold FleetState.step at step
  dsimp only at step
  split at step
  · split at step
    · cases enabled with
      | false =>
        cases Option.some.inj step
        exact (keeps.withEndpoint fun _ _ => rfl).goTo (FleetTask.keeps_invalidating ..)
      | true =>
        cases Option.some.inj step
        have isIn : other = id → (state.withOut other false).out id = false := by
          intro same
          rw [same]
          exact Function.update_self ..
        refine ((keeps.enabled (notStarted rfl)).withEndpoint ?_).goTo (FleetTask.keeps_invalidating ..)
        intro same isOut
        exact absurd ((isIn same).symm.trans isOut) (by simp)
    · cases Option.some.inj step
      exact keeps
  · exact absurd step (by simp)

theorem Keeps.recordFailure (keeps : state.Keeps id) {task other : Nat} {startedAt : Instant} {kind : RpcFailureKind}
    (step : state.step config powf (.recordFailure task other startedAt kind) = some next) : next.Keeps id := by
  unfold FleetState.step at step
  dsimp only at step
  split at step
  · split at step
    · exact absurd step (by simp)
    · split at step
      · cases Option.some.inj step
        refine (keeps.withEndpoint ?_).goTo (FleetTask.keeps_invalidating ..)
        intro same isOut
        rw [same]
        exact RpcEndpointState.disabled_recordFailure (keeps.disabled isOut) startedAt kind
      · cases Option.some.inj step
        exact keeps
  · exact absurd step (by simp)

theorem Keeps.invalidate (keeps : state.Keeps id) {task : Nat}
    (step : state.step config powf (.invalidate task) = some next) : next.Keeps id := by
  unfold FleetState.step at step
  dsimp only at step
  split at step
  · cases Option.some.inj step
    obtain ⟨kept, old⟩ := keeps.invalidated
    exact (kept.goTo (FleetTask.keeps_idle ..)).disablingReturned old _
  · exact absurd step (by simp)

theorem Keeps.recompute (keeps : state.Keeps id) {task : Nat} {startedAt : Instant}
    (step : state.step config powf (.recompute task startedAt) = some next) : next.Keeps id := by
  unfold FleetState.step at step
  dsimp only at step
  split at step
  · split at step
    · exact absurd step (by simp)
    · cases Option.some.inj step
      exact keeps.goTo (FleetTask.keeps_recomputing (Recomputation.keeps_start config startedAt id) ..)
  · exact absurd step (by simp)

theorem Keeps.select (keeps : state.Keeps id) {task limit : Nat}
    (step : state.step config powf (.select task limit) = some next) : next.Keeps id := by
  unfold FleetState.step at step
  dsimp only at step
  split at step
  · cases Option.some.inj step
    refine keeps.goTo (FleetTask.keeps_selecting rfl ?_)
    intro startedOut
    exact ⟨startedOut, fun _ member => absurd member (by simp [Selection.start]),
      fun impossible => absurd impossible (by simp [Selection.start])⟩
  · exact absurd step (by simp)

/-- The look into a table that is young enough finds no endpoint that is out. -/
theorem Keeps.look (keeps : state.Keeps id) {task : Nat}
    (step : state.step config powf (.look task) = some next) : next.Keeps id := by
  unfold FleetState.step at step
  dsimp only at step
  split at step
  · rename_i selection position
    have kept := (keeps.tasks task).selection selection position
    split at step
    · split at step
      · rename_i isFresh
        cases Option.some.inj step
        refine keeps.goTo (FleetTask.keeps_selecting rfl ?_)
        intro startedOut
        refine (kept startedOut).advance ?_
        intro same
        rw [same]
        rcases keeps.cache (kept startedOut).isOut with noScore | old
        · exact noScore
        · exact absurd (old.symm.trans isFresh) (by simp)
      · cases Option.some.inj step
        have started := (keeps.tasks task).recomputed (Recomputation.keeps_start config selection.now id)
        rw [position] at started
        exact keeps.goTo started
    · exact absurd step (by simp)
  · exact absurd step (by simp)

/-- An endpoint that is out is disabled, and gets no score. -/
theorem Keeps.score (keeps : state.Keeps id) {task : Nat}
    (step : state.step config powf (.score task) = some next) : next.Keeps id := by
  unfold FleetState.step at step
  dsimp only at step
  split at step
  · rename_i recomputation underWay
    split at step
    · rename_i endpoint sendMode todo _
      cases Option.some.inj step
      have isDisabled : endpoint.id = id → state.out id = true →
          ((state.states endpoint.id).refresh recomputation.now).disabled = true := by
        intro same isOut
        rw [same, RpcEndpointState.disabled_refresh]
        exact keeps.disabled isOut
      refine (keeps.withEndpoint isDisabled).goTo ((keeps.tasks task).recomputed ?_)
      refine ((keeps.tasks task).recomputation recomputation underWay).put ?_
      intro same isOut
      exact uncachedScore_of_disabled (isDisabled same (same ▸ isOut))
    · exact absurd step (by simp)
  · exact absurd step (by simp)

theorem Keeps.publish (keeps : state.Keeps id) {task : Nat}
    (timely : ∀ recomputation, state.out id = true → (state.tasks task).recomputation = some recomputation →
      recomputation.scoredIn id = true → recomputation.sendScores id = none)
    (step : state.step config powf (.publish task) = some next) : next.Keeps id := by
  unfold FleetState.step at step
  dsimp only at step
  split at step
  · rename_i recomputation underWay
    split at step
    · cases Option.some.inj step
      have noScore : state.out id = true → recomputation.sendScores id = none := by
        intro isOut
        cases scored : recomputation.scoredIn id with
        | true => exact timely recomputation isOut underWay scored
        | false => exact (keeps.tasks task).recomputation recomputation underWay scored
      exact (keeps.withCache noScore).goTo ((keeps.tasks task).published noScore)
    · exact absurd step (by simp)
  · exact absurd step (by simp)

theorem Keeps.read (keeps : state.Keeps id) {task : Nat}
    (step : state.step config powf (.read task) = some next) : next.Keeps id := by
  unfold FleetState.step at step
  dsimp only at step
  split at step
  · rename_i selection position
    have kept := (keeps.tasks task).selection selection position
    split at step
    · rename_i reading _
      cases Option.some.inj step
      refine keeps.goTo (FleetTask.keeps_selecting rfl ?_)
      intro startedOut
      refine (kept startedOut).advance ?_
      intro same
      rw [same]
      exact (kept startedOut).reading reading
    · exact absurd step (by simp)
  · exact absurd step (by simp)

theorem Keeps.finish (keeps : state.Keeps id) {task : Nat}
    (step : state.step config powf (.finish task) = some next) : next.Keeps id := by
  unfold FleetState.step at step
  dsimp only at step
  split at step
  · rename_i selection position
    have kept := (keeps.tasks task).selection selection position
    split at step
    · rename_i looking _
      split at step
      · cases Option.some.inj step
        refine keeps.goTo (FleetTask.keeps_selecting looking ?_)
        intro startedOut
        exact ⟨(kept startedOut).isOut, (kept startedOut).found, (kept startedOut).reading⟩
      · cases Option.some.inj step
        exact (keeps.hand kept).goTo (FleetTask.keeps_idle ..)
    · exact absurd step (by simp)
  · exact absurd step (by simp)

/-- One case for each critical section. Only the publication and the enabling need that the step is timely. -/
theorem Keeps.step (keeps : state.Keeps id) {timed : Instant × FleetStep}
    (step : system config powf state timed = some next) (timely : Timely id state timed next) : next.Keeps id := by
  obtain ⟨now, label⟩ := timed
  obtain ⟨publishes, enables⟩ := timely
  unfold system at step
  dsimp only at step
  split at step
  · exact absurd step (by simp)
  · rename_i later
    have ticked := keeps.tick (not_lt.mp later)
    cases label with
    | setEndpointEnabled task other enabled reason =>
      refine ticked.setEndpointEnabled ?_ step
      rintro rfl rfl
      exact enables task reason rfl
    | recordFailure task other startedAt kind => exact ticked.recordFailure step
    | invalidate task => exact ticked.invalidate step
    | recompute task startedAt => exact ticked.recompute step
    | select task limit => exact ticked.select step
    | look task => exact ticked.look step
    | score task => exact ticked.score step
    | publish task => exact ticked.publish (fun recomputation => publishes task recomputation rfl) step
    | read task => exact ticked.read step
    | finish task => exact ticked.finish step

/-- In every interleaving in which no recomputation publishes a score of the endpoint that dates from before it
was out, and nobody enables the endpoint while a call is under way that started while it was out, no such call
hands it out. -/
theorem disabled_endpoint_stays_out (config : FleetConfig) (powf : ℚ → ℚ) (now : Instant) (id : Nat)
    (steps : List (Instant × FleetStep)) (last : FleetState)
    (timely : (system config powf).EveryStep (Timely id) (start now) steps)
    (reached : (system config powf).after (start now) steps = some last) : last.NeverHandedOut id := by
  have kept := timely.invariant (fun _ _ _ kept step timely => kept.step step timely) (keeps_start now id) reached
  exact kept.returned

/-- A step that neither publishes scores nor enables an endpoint. -/
def quiet : FleetStep → Bool
  | .publish _ => false
  | .setEndpointEnabled _ _ enabled _ => !enabled
  | _ => true

theorem everyStep_timely_of_quiet {steps : List (Instant × FleetStep)}
    (allQuiet : steps.all fun timed => quiet timed.2) : (system config powf).EveryStep (Timely id) state steps := by
  intro before timed _ _ front _ _
  have member := front.subset (List.mem_append_right before (List.mem_singleton_self timed))
  have isQuiet := List.all_eq_true.mp allQuiet timed member
  constructor
  · intro task recomputation same
    rw [same] at isQuiet
    exact absurd isQuiet (by simp [quiet])
  · intro task reason same
    rw [same] at isQuiet
    exact absurd isQuiet (by simp [quiet])

def sampleConfig : FleetConfig := ⟨[⟨0, "first", .generic⟩, ⟨1, "second", .generic⟩], .auto⟩

def sampleSystem : Transition.System FleetState (Instant × FleetStep) := system sampleConfig fun ratio => ratio

/-- The call of a task up to the publication of the scores. -/
def scoring (now : Instant) (task : Nat) : List (Instant × FleetStep) :=
  [(now, .select task 2), (now, .look task), (now, .score task), (now, .score task), (now, .score task),
    (now, .score task)]

/-- A task disables the first endpoint. -/
def disabling (now : Instant) (task : Nat) : List (Instant × FleetStep) :=
  [(now, .setEndpointEnabled task 0 false none), (now, .invalidate task)]

def sampleState (steps : List (Instant × FleetStep)) : FleetState := (sampleSystem.after (start 0) steps).getD (start 0)

theorem after_sampleState {steps : List (Instant × FleetStep)}
    (possible : (sampleSystem.after (start 0) steps).isSome = true) :
    sampleSystem.after (start 0) steps = some (sampleState steps) := by
  obtain ⟨last, reached⟩ := Option.isSome_iff_exists.mp possible
  rw [sampleState, reached]
  rfl

/-- A call that starts behind the disabling. -/
def callBehind : List (Instant × FleetStep) :=
  disabling 1 0 ++ scoring 2 1 ++ [(3, .publish 1)] ++ [(3, .read 1), (3, .look 1), (3, .finish 1)]

theorem disabled_endpoint_stays_out_sample : (sampleState callBehind).NeverHandedOut 0 := by
  refine disabled_endpoint_stays_out sampleConfig (fun ratio => ratio) 0 0 callBehind _ ?_ (after_sampleState rfl)
  refine Transition.System.EveryStep.append ?_ (after_sampleState rfl) (everyStep_timely_of_quiet rfl)
  refine (Transition.System.everyStep_concat rfl rfl).mpr ⟨everyStep_timely_of_quiet rfl, ?_⟩
  have scoredOut : ((sampleState (disabling 1 0 ++ scoring 2 1)).tasks 1).recomputation.map
      (fun recomputation => recomputation.scoredIn 0) = some false := rfl
  constructor
  · rintro task recomputation ⟨⟩ isOut underWay scored
    have known := (congrArg (Option.map fun recomputation => recomputation.scoredIn 0) underWay).symm.trans scoredOut
    exact absurd (scored.symm.trans (Option.some.inj known)) (by simp)
  · intro _ _ impossible
    exact absurd impossible (by simp)

/-- The scores of the first call date from before the disabling, and are published behind it. -/
def callAcross : List (Instant × FleetStep) :=
  scoring 1 0 ++ disabling 2 1 ++ [(3, .publish 0), (4, .select 2 2), (4, .look 2), (4, .look 2), (4, .finish 2)]

theorem disabled_endpoint_handed_out :
    sampleSystem.after (start 0) callAcross = some (sampleState callAcross) ∧
    ¬ (sampleState callAcross).NeverHandedOut 0 := by
  refine ⟨after_sampleState rfl, ?_⟩
  intro never
  have handed : (sampleState callAcross).returned.any fun call =>
      call.startedOut 0 && call.handles.any fun handle => handle.id = 0 := by decide +kernel
  obtain ⟨call, member, both⟩ := List.any_eq_true.mp handed
  obtain ⟨startedOut, some⟩ := Bool.and_eq_true_iff.mp both
  obtain ⟨handle, given, same⟩ := List.any_eq_true.mp some
  exact never call member startedOut handle given (of_decide_eq_true same)

end FleetState

end ArbitrageRuntime
