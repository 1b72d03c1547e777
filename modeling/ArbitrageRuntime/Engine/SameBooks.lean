import ArbitrageRuntime.Lib.Transition
import ArbitrageRuntime.Engine.Books

namespace ArbitrageRuntime

/-- Every result that was observed for a path has one adaptive update and one relay outcome. -/
def Balanced (entries : List BookEntry) : Prop :=
  ∀ submitPath, entries.countP (BookEntry.updates submitPath) = entries.countP (BookEntry.observes submitPath) ∧
    entries.countP (BookEntry.answers submitPath) = entries.countP (BookEntry.observes submitPath)

/-- The books show a result. -/
def SeesResult (entries : List BookEntry) : Prop := ∃ path accepted, .observed path accepted ∈ entries

/-- The books of a run are balanced, and wherever a flush stops, `relay_metrics` shows no more ends than
acceptances for any relay. -/
structure SameBooks (network : String) (entries : List BookEntry) : Prop where
  balanced : Balanced entries
  metrics : ∀ pending, pending.map Prod.snd <+: entries.filterMap BookEntry.outcome →
    ∀ row ∈ (Storage.Database.empty.after (Storage.flush network pending)).relayMetrics,
      row.includedSuccess + row.includedRevert + row.notIncludedTimeout ≤ row.accepted

theorem seesResult_iff {entries : List BookEntry} :
    SeesResult entries ↔ ∃ submitPath, 0 < entries.countP (BookEntry.observes submitPath) := by
  constructor
  · rintro ⟨path, accepted, inside⟩
    exact ⟨path, List.countP_pos_iff.mpr ⟨_, inside, by simp [BookEntry.observes]⟩⟩
  · rintro ⟨path, seen⟩
    obtain ⟨entry, inside, observes⟩ := List.countP_pos_iff.mp seen
    cases entry with
    | observed other accepted => exact ⟨other, accepted, inside⟩
    | policy call => exact absurd observes (by simp [BookEntry.observes])
    | relayOutcome outcome => exact absurd observes (by simp [BookEntry.observes])

theorem balanced_nil : Balanced [] := fun _ => ⟨rfl, rfl⟩

theorem Balanced.append {first second : List BookEntry} (balanced : Balanced first) (balanced' : Balanced second) :
    Balanced (first ++ second) := by
  intro submitPath
  obtain ⟨updates, answers⟩ := balanced submitPath
  obtain ⟨updates', answers'⟩ := balanced' submitPath
  simp only [List.countP_append]
  omega

/-- What comes behind balanced books is balanced if the whole is. -/
theorem Balanced.of_append {first second : List BookEntry} (whole : Balanced (first ++ second))
    (balanced : Balanced first) : Balanced second := by
  intro submitPath
  obtain ⟨updates, answers⟩ := balanced submitPath
  obtain ⟨updates', answers'⟩ := whole submitPath
  simp only [List.countP_append] at updates' answers'
  omega

/-- The submission comes back with a result. -/
def SubmitTask.answers : SubmitTask → Bool
  | .sent _ .accepted => true
  | .sent _ (.failed _) => true
  | _ => false

namespace BookedCall

variable {config : FinalityConfig} {call : BookedCall} {order : Order} {engine : Engine}

theorem balanced_bundleAccepted (healthy : call.outside.adaptive.poisoned = false) (quote : RelayQuote) :
    Balanced (call.bundleAccepted config order quote) := by
  intro submitPath
  obtain ⟨observed, updated, answered⟩ := call.waitEntries_silent config order quote.relay submitPath
  simp only [bundleAccepted, List.countP_cons, List.countP_append, countP_policyEntries, observed, updated, answered]
  by_cases same : quote.relay = submitPath
  · simp [healthy, same, BookEntry.observes, BookEntry.updates, BookEntry.answers, quotedOutcome, quietOutcome]
  · simp [healthy, same, BookEntry.observes, BookEntry.updates, BookEntry.answers, quotedOutcome, quietOutcome]

theorem balanced_bundleFailed (healthy : call.outside.adaptive.poisoned = false) (quote : RelayQuote) :
    Balanced (call.bundleFailed order quote) := by
  intro submitPath
  simp only [bundleFailed, List.countP_cons, List.countP_append, countP_policyEntries]
  by_cases same : quote.relay = submitPath
  · simp [healthy, same, BookEntry.observes, BookEntry.updates, BookEntry.answers, quotedOutcome, quietOutcome]
  · simp [healthy, same, BookEntry.observes, BookEntry.updates, BookEntry.answers, quotedOutcome, quietOutcome]

/-- In bundle mode every end follows an acceptance by the same relay. -/
theorem endsCovered_bundleAccepted (quote : RelayQuote) :
    Storage.EndsCovered ((call.bundleAccepted config order quote).filterMap BookEntry.outcome) := by
  obtain ⟨ended, only, relay, once⟩ := call.outcomes_waitEntries config order quote.relay
  have outcomes : (call.bundleAccepted config order quote).filterMap BookEntry.outcome =
      [{ call.quotedOutcome quote with accepted := 1 }, ended] := by
    unfold bundleAccepted
    rw [List.filterMap_cons_none rfl, List.filterMap_append, outcomes_policyEntries, List.nil_append]
    exact congrArg (List.cons _) only
  rw [outcomes]
  exact Storage.endsCovered_pair relay rfl once.le

theorem endsCovered_bundleFailed (quote : RelayQuote) :
    Storage.EndsCovered ((call.bundleFailed order quote).filterMap BookEntry.outcome) := by
  have outcomes : (call.bundleFailed order quote).filterMap BookEntry.outcome =
      [{ call.quotedOutcome quote with submitFailed := 1 }] := by
    unfold bundleFailed
    rw [List.filterMap_cons_none rfl, List.filterMap_append, outcomes_policyEntries]
    rfl
  rw [outcomes]
  exact Storage.endsCovered_singleton rfl

theorem seesResult_bundleAccepted (quote : RelayQuote) : SeesResult (call.bundleAccepted config order quote) :=
  ⟨quote.relay, true, List.mem_cons_self⟩

theorem seesResult_bundleFailed (quote : RelayQuote) : SeesResult (call.bundleFailed order quote) :=
  ⟨quote.relay, false, List.mem_cons_self⟩

theorem seesResult_directAccepted (endpoint : RpcHandle) : SeesResult (call.directAccepted config order endpoint) :=
  ⟨rpcLabel endpoint.name, true, List.mem_cons_self⟩

theorem seesResult_directFailed (endpoint : RpcHandle) : SeesResult (directFailed endpoint) :=
  ⟨rpcLabel endpoint.name, false, List.mem_cons_self⟩

/-- A call that sees no result writes nothing. -/
theorem entries_eq_nil_or_seesResult (config : FinalityConfig) (call : BookedCall) (engine : Engine) :
    call.entries config engine = [] ∨ SeesResult (call.entries config engine) := by
  have starts : ∀ first second : List BookEntry, (first = [] ∨ SeesResult first) →
      (second = [] ∨ SeesResult second) → first ++ second = [] ∨ SeesResult (first ++ second) := by
    rintro first second (rfl | ⟨path, accepted, inside⟩) later
    · exact later
    · exact .inr ⟨path, accepted, List.mem_append_left _ inside⟩
  rcases entries_cases config call engine with none | ⟨_, order, paths, made⟩ | ⟨_, order, paths, made⟩
  · exact .inl none
  · rw [made]
    exact @joinEntries_of _ _ _ _ (fun entries => entries = [] ∨ SeesResult entries) (.inl rfl) starts
      (fun quote => .inr (seesResult_bundleAccepted quote)) (fun quote => .inr (seesResult_bundleFailed quote)) _
  · rw [made]
    exact @joinEntries_of _ _ _ _ (fun entries => entries = [] ∨ SeesResult entries) (.inl rfl) starts
      (fun endpoint => .inr (seesResult_directAccepted endpoint))
      (fun endpoint => .inr (seesResult_directFailed endpoint)) _

theorem countP_append_eq_zero {counts : BookEntry → Bool} (first second : List BookEntry)
    (none : first.countP counts = 0) (none' : second.countP counts = 0) : (first ++ second).countP counts = 0 := by
  rw [List.countP_append, none, none']

/-- In direct mode no relay outcome answers a submission. -/
theorem answers_directEntries (paths : List RelayQuote) (submitPath : String) :
    (call.directEntries config order paths).countP (BookEntry.answers submitPath) = 0 := by
  refine @joinEntries_of _ _ _ _ (fun entries => entries.countP (BookEntry.answers submitPath) = 0) rfl
    countP_append_eq_zero ?_ (fun _ => rfl) _
  intro endpoint
  have silent := (call.waitEntries_silent config order (rpcLabel endpoint.name) submitPath).2.2
  simp only [directAccepted, List.countP_cons, List.countP_append, countP_policyEntries, silent]
  simp [BookEntry.answers]

/-- Behind a poisoned lock the policy learns nothing from a submission. -/
theorem updates_of_poisoned (poisoned : call.outside.adaptive.poisoned = true) (submitPath : String) :
    (call.entries config engine).countP (BookEntry.updates submitPath) = 0 := by
  rcases entries_cases config call engine with none | ⟨_, order, paths, made⟩ | ⟨_, order, paths, made⟩
  · rw [none]
    rfl
  · rw [made]
    refine @joinEntries_of _ _ _ _ (fun entries => entries.countP (BookEntry.updates submitPath) = 0) rfl
      countP_append_eq_zero ?_ ?_ _
    · intro quote
      have silent := (call.waitEntries_silent config order quote.relay submitPath).2.1
      simp only [bundleAccepted, List.countP_cons, List.countP_append, countP_policyEntries, silent, poisoned]
      simp [BookEntry.updates]
    · intro quote
      simp only [bundleFailed, List.countP_cons, List.countP_append, countP_policyEntries, poisoned]
      simp [BookEntry.updates]
  · rw [made]
    refine @joinEntries_of _ _ _ _ (fun entries => entries.countP (BookEntry.updates submitPath) = 0) rfl
      countP_append_eq_zero ?_ (fun _ => rfl) _
    intro endpoint
    have silent := (call.waitEntries_silent config order (rpcLabel endpoint.name) submitPath).2.1
    simp only [directAccepted, List.countP_cons, List.countP_append, countP_policyEntries, silent, poisoned]
    simp [BookEntry.updates]

theorem seesResult_joinEntries {α : Type} {task : α → SubmitTask} {accepted failed : α → List BookEntry}
    (taken : ∀ x, SeesResult (accepted x)) (refused : ∀ x, SeesResult (failed x)) (xs : List α) :
    SeesResult (joinEntries task accepted failed xs) ↔ ∃ x ∈ xs, (task x).answers = true := by
  induction xs with
  | nil => simp [joinEntries, SeesResult]
  | cons x rest ih =>
    cases answer : task x with
    | unsent => simp [joinEntries, answer, ih, SubmitTask.answers]
    | sent time result =>
      cases result with
      | panicked => simp [joinEntries, answer, ih, SubmitTask.answers]
      | failed error =>
        obtain ⟨path, seen, inside⟩ := refused x
        have sees : SeesResult (joinEntries task accepted failed (x :: rest)) := by
          simp only [joinEntries, answer]
          exact ⟨path, seen, List.mem_append_left _ inside⟩
        exact ⟨fun _ => ⟨x, List.mem_cons_self, by simp [answer, SubmitTask.answers]⟩, fun _ => sees⟩
      | accepted =>
        have sees : SeesResult (joinEntries task accepted failed (x :: rest)) := by
          simp only [joinEntries, answer]
          exact taken x
        exact ⟨fun _ => ⟨x, List.mem_cons_self, by simp [answer, SubmitTask.answers]⟩, fun _ => sees⟩

/-- The submissions that are spawned for these paths. -/
def submitTasks (config : FinalityConfig) (call : BookedCall) (paths : List RelayQuote) : List SubmitTask :=
  if config.usesBundleRelays then
    (parsedRelays call.outside.parseUrl none (paths.take (max config.mev.relayFanoutCount 1))).1.map
      call.outside.relaySubmits.task
  else
    (directRpcSubmitEndpointsFromRankedPaths config.toConfig call.outside.submitFleet paths).map
      call.outside.rpcSubmits.task

/-- The call gets as far as its submission, and one of the endpoints or relays answers it. -/
def IsAnswered (config : FinalityConfig) (call : BookedCall) (engine : Engine) : Prop :=
  ∃ order, Granted config.toConfig call.opportunity call.outside engine order ∧
    CanSubmit config.toConfig call.outside order engine.executionGuard ∧
    ∃ task ∈ call.submitTasks config (openSubmitPaths config.toConfig call.outside order engine.executionGuard),
      task.answers = true

theorem seesResult_bundleEntries (paths : List RelayQuote) : SeesResult (call.bundleEntries config order paths) ↔
    ∃ task ∈ (parsedRelays call.outside.parseUrl none (paths.take (max config.mev.relayFanoutCount 1))).1.map
      call.outside.relaySubmits.task, task.answers = true := by
  unfold bundleEntries
  dsimp only
  rw [seesResult_joinEntries seesResult_bundleAccepted seesResult_bundleFailed]
  simp only [(call.outside.relaySubmits.order_perm _).mem_iff, List.mem_map, exists_exists_and_eq_and]

theorem seesResult_directEntries (paths : List RelayQuote) : SeesResult (call.directEntries config order paths) ↔
    ∃ task ∈ (directRpcSubmitEndpointsFromRankedPaths config.toConfig call.outside.submitFleet paths).map
      call.outside.rpcSubmits.task, task.answers = true := by
  unfold directEntries
  rw [seesResult_joinEntries seesResult_directAccepted seesResult_directFailed]
  simp only [(call.outside.rpcSubmits.order_perm _).mem_iff, List.mem_map, exists_exists_and_eq_and]

theorem seesResult_submitEntries : SeesResult (call.submitEntries config order engine) ↔
    CanSubmit config.toConfig call.outside order engine.executionGuard ∧
      ∃ task ∈ call.submitTasks config (openSubmitPaths config.toConfig call.outside order engine.executionGuard),
        task.answers = true := by
  have kept := (engine.retainUnfrozen_eq config.toConfig call.outside order).1
  have blank : ¬ SeesResult [] := by simp [SeesResult]
  unfold submitEntries
  dsimp only at kept ⊢
  rw [kept]
  generalize paths_eq : openSubmitPaths config.toConfig call.outside order engine.executionGuard = paths
  split
  · rename_i empty
    refine iff_of_false blank fun can => can.1.path ?_
    rw [paths_eq]
    exact List.isEmpty_iff.mp empty
  rename_i path
  split
  · rename_i error unsigned
    refine iff_of_false blank fun can => ?_
    obtain ⟨tx, signed⟩ := can.1.signed
    rw [paths_eq, unsigned] at signed
    exact absurd signed (by simp)
  rename_i tx signed
  have can : CanSubmit config.toConfig call.outside order engine.executionGuard :=
    ⟨by rw [paths_eq]; simpa using path, tx, by rw [paths_eq]; exact signed⟩
  rw [and_iff_right can]
  unfold submitTasks
  split
  · exact seesResult_bundleEntries paths
  · exact seesResult_directEntries paths

/-- The books show a result exactly when some endpoint answers. -/
theorem seesResult_entries_iff (config : FinalityConfig) (call : BookedCall) (engine : Engine) :
    SeesResult (call.entries config engine) ↔ call.IsAnswered config engine := by
  unfold entries
  split
  · rename_i result observed exits
    refine iff_of_false (by simp [SeesResult]) ?_
    rintro ⟨order, granted, _⟩
    have ready := granted.prepared
    rw [exits] at ready
    exact absurd ready (by simp)
  · rename_i order observed exits
    have ready : (prepareOrder config.toConfig call.opportunity call.outside engine).1 = .ok order := by rw [exits]
    have kept := (prepareOrder_ok ready).2.2
    rw [exits] at kept
    obtain ⟨budget, contexts⟩ := engine.stopLossSnapshot_keeps call.outside.stopLossAt
    rw [← kept] at budget contexts
    have only : ∀ order', Granted config.toConfig call.opportunity call.outside engine order' → order' = order :=
      fun order' granted => Except.ok.inj (granted.prepared.symm.trans ready)
    dsimp only
    split
    · rename_i allowed
      have granted : Granted config.toConfig call.opportunity call.outside engine order := ⟨ready, budget ▸ allowed⟩
      have paths := @openSubmitPaths_congr config.toConfig call.outside order _ _ contexts
      rw [seesResult_submitEntries, paths]
      constructor
      · rintro ⟨can, answered⟩
        exact ⟨order, granted, can.congr contexts, answered⟩
      · rintro ⟨order', granted', can, answered⟩
        cases only order' granted'
        exact ⟨can.congr fun time key => (contexts time key).symm, answered⟩
    · rename_i refused
      refine iff_of_false (by simp [SeesResult]) ?_
      rintro ⟨order', granted, _⟩
      cases only order' granted
      rw [budget] at refused
      exact refused granted.allowed

/-- The condition on a call under which it keeps the books. -/
def KeepsBooks (config : FinalityConfig) (call : BookedCall) (engine : Engine) : Prop :=
  call.IsAnswered config engine → config.usesBundleRelays = true ∧ call.outside.adaptive.poisoned = false

/-- In bundle mode and with a healthy policy every answer is booked twice, once for each store. -/
theorem KeepsBooks.balanced (keeps : call.KeepsBooks config engine) : Balanced (call.entries config engine) := by
  rcases entries_eq_nil_or_seesResult config call engine with none | sees
  · rw [none]
    exact balanced_nil
  · obtain ⟨bundles, healthy⟩ := keeps ((seesResult_entries_iff config call engine).mp sees)
    rcases entries_cases config call engine with none | ⟨_, order, paths, made⟩ | ⟨direct, _⟩
    · rw [none]
      exact balanced_nil
    · rw [made]
      exact joinEntries_of balanced_nil (fun _ _ => Balanced.append) (balanced_bundleAccepted healthy)
        (balanced_bundleFailed healthy) _
    · exact absurd (bundles.symm.trans direct) (by simp)

theorem KeepsBooks.endsCovered (keeps : call.KeepsBooks config engine) :
    Storage.EndsCovered ((call.entries config engine).filterMap BookEntry.outcome) := by
  rcases entries_eq_nil_or_seesResult config call engine with none | sees
  · rw [none]
    exact Storage.endsCovered_nil
  · rcases entries_cases config call engine with none | ⟨_, order, paths, made⟩ | ⟨direct, _⟩
    · rw [none]
      exact Storage.endsCovered_nil
    · rw [made]
      refine @joinEntries_of _ _ _ _ (fun entries => Storage.EndsCovered (entries.filterMap BookEntry.outcome))
        Storage.endsCovered_nil ?_ endsCovered_bundleAccepted endsCovered_bundleFailed _
      intro first second covered covered'
      rw [List.filterMap_append]
      exact covered.append covered'
    · exact absurd ((keeps ((seesResult_entries_iff config call engine).mp sees)).1.symm.trans direct) (by simp)

/-- A result that is seen in direct mode or behind a poisoned lock leaves the books out of balance at its own
path. -/
theorem keepsBooks_of_balanced (balanced : Balanced (call.entries config engine)) : call.KeepsBooks config engine := by
  intro answered
  obtain ⟨path, accepted, inside⟩ := (seesResult_entries_iff config call engine).mpr answered
  obtain ⟨updated, answered⟩ := balanced path
  have seen : 0 < (call.entries config engine).countP (BookEntry.observes path) :=
    List.countP_pos_iff.mpr ⟨_, inside, by simp [BookEntry.observes]⟩
  constructor
  · rcases entries_cases config call engine with none | ⟨bundles, _⟩ | ⟨_, order, paths, made⟩
    · rw [none] at inside
      exact absurd inside (by simp)
    · exact bundles
    · have unanswered := @answers_directEntries config call order paths path
      rw [← made] at unanswered
      omega
  · by_contra poisoned
    have unlearnt := @updates_of_poisoned config call engine (by simpa using poisoned) path
    omega

end BookedCall

/-- The engine and what the calls have written so far. -/
structure Books where
  engine : Engine
  entries : List BookEntry

namespace Books

variable {config : FinalityConfig}

def calls (config : FinalityConfig) : Transition.System Books BookedCall := fun state call =>
  some ⟨(call.toObservedCall.handle config state.engine).engine, state.entries ++ call.entries config state.engine⟩

/-- What the calls keep when the condition holds for each of them. -/
structure Kept (state : Books) : Prop where
  balanced : Balanced state.entries
  covered : Storage.EndsCovered (state.entries.filterMap BookEntry.outcome)

theorem Kept.next {state next : Books} {call : BookedCall} (kept : state.Kept)
    (step : calls config state call = some next) (keeps : call.KeepsBooks config state.engine) : next.Kept := by
  cases Option.some.inj step
  refine ⟨kept.balanced.append keeps.balanced, ?_⟩
  rw [List.filterMap_append]
  exact kept.covered.append keeps.endsCovered

theorem Kept.sameBooks {state : Books} (kept : state.Kept) (network : String) : SameBooks network state.entries where
  balanced := kept.balanced
  metrics := by
    intro pending flushed row member
    exact Storage.ended_le_accepted (kept.covered.of_prefix flushed) member

/-- The books agree after every call of a run. -/
def AlwaysSame (config : FinalityConfig) (engine : Engine) (made : List BookedCall) : Prop :=
  ∀ front state, front <+: made → (calls config).after ⟨engine, []⟩ front = some state →
    SameBooks config.network state.entries

/-- Over every sequence of calls the books agree if and only if every call that sees the result of a submission
submits bundles and can write to the policy: the direct endpoints report no acceptance and no failure as a
relay outcome, and an endpoint that fails teaches the policy nothing. -/
theorem alwaysSame_iff (config : FinalityConfig) (engine : Engine) (made : List BookedCall) :
    AlwaysSame config engine made ↔
      (calls config).EveryStep (fun state call _ => call.KeepsBooks config state.engine) ⟨engine, []⟩ made := by
  constructor
  · intro same before call state next front reached step
    have reachedNext : (calls config).after ⟨engine, []⟩ (before ++ [call]) = some next :=
      Transition.System.after_concat_eq_some.mpr ⟨state, reached, step⟩
    have earlier := same before state ((List.prefix_append before [call]).trans front) reached
    have later := same _ next front reachedNext
    cases Option.some.inj step
    exact BookedCall.keepsBooks_of_balanced (later.balanced.of_append earlier.balanced)
  · intro every front state inside reached
    have kept : state.Kept :=
      (every.of_prefix inside).invariant (fun _ _ _ kept step keeps => kept.next step keeps)
        ⟨balanced_nil, Storage.endsCovered_nil⟩ reached
    exact kept.sameBooks config.network

/-- The sample opportunity, accepted by every endpoint and mined. -/
def sampleBooked : BookedCall where
  toObservedCall := Exposure.sampleCall (some Exposure.sampleReceipt)
  submitLatencyMs := fun _ => 80
  finalizationLatencyMs := fun _ => 2000
  relayPressure := fun _ => 0
  inclusionRate := fun _ => 1 / 2

/-- An endpoint accepts the transaction, which is mined: its success is booked, its acceptance is not. -/
theorem direct_acceptance_unbooked : ¬ AlwaysSame Exposure.finalityConfig (frozenEngine []) [sampleBooked] := by
  intro same
  have balanced := (same [sampleBooked] _ (List.prefix_refl _) rfl).balanced
  have observed : 0 < (sampleBooked.entries Exposure.finalityConfig (frozenEngine [])).countP
      (BookEntry.observes "rpc://alchemy-1") := by
    decide +kernel
  have answered := (BookedCall.seesResult_entries_iff _ _ _).mp (seesResult_iff.mpr ⟨_, observed⟩)
  have bundles := (BookedCall.keepsBooks_of_balanced balanced answered).1
  exact absurd bundles (by decide)

end Books

end ArbitrageRuntime
