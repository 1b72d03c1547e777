import ArbitrageRuntime.Storage.Tables

namespace ArbitrageRuntime.Storage

/-- A flush of the dashboard: it writes the pending outcomes in their order, each at its own time. -/
def flush (network : String) (pending : List (Time × RelayOutcome)) : List Write :=
  pending.map fun stamped => ⟨network, stamped.1, .relayOutcome stamped.2⟩

theorem relayMetrics_flush (network : String) (pending : List (Time × RelayOutcome)) :
    (Database.empty.after (flush network pending)).relayMetrics =
      Relational.upserts RelayMetrics.relay RelayMetrics.merge
        (pending.map fun stamped => stamped.2.row network stamped.1) := by
  induction pending using List.reverseRecOn with
  | nil => rfl
  | append_singleton pending stamped ih =>
    simp only [flush, List.map_append, List.map_cons, List.map_nil] at ih ⊢
    rw [Database.after_concat]
    simp only [Database.write, ih, Relational.upserts, List.foldl_append, List.foldl_cons, List.foldl_nil]

/-- What the outcomes of some relays count together. -/
def countOf (selects : String → Bool) (count : RelayOutcome → Nat) (outcomes : List RelayOutcome) : Nat :=
  ((outcomes.filter fun outcome => selects outcome.relay).map count).sum

theorem countOf_append (selects : String → Bool) (count : RelayOutcome → Nat) (first second : List RelayOutcome) :
    countOf selects count (first ++ second) = countOf selects count first + countOf selects count second := by
  simp [countOf, List.filter_append]

/-- The outcomes that say how an accepted transaction ended. -/
def RelayOutcome.ended (outcome : RelayOutcome) : Nat :=
  outcome.includedSuccess + outcome.includedRevert + outcome.notIncludedTimeout

def RelayMetrics.ended (row : RelayMetrics) : Nat := row.includedSuccess + row.includedRevert + row.notIncludedTimeout

@[simp] theorem ended_row (network : String) (now : Time) (outcome : RelayOutcome) :
    (outcome.row network now).ended = outcome.ended := rfl

@[simp] theorem accepted_row (network : String) (now : Time) (outcome : RelayOutcome) :
    (outcome.row network now).accepted = outcome.accepted := rfl

@[simp] theorem relay_row (network : String) (now : Time) (outcome : RelayOutcome) :
    (outcome.row network now).relay = scopedRelay network outcome.relay := rfl

/-- At no time have more transactions ended than were accepted, for whichever relays. -/
def EndsCovered (outcomes : List RelayOutcome) : Prop :=
  ∀ front, front <+: outcomes → ∀ selects,
    countOf selects RelayOutcome.ended front ≤ countOf selects RelayOutcome.accepted front

theorem endsCovered_nil : EndsCovered [] := by
  intro front inside selects
  cases List.prefix_nil.mp inside
  exact le_rfl

theorem EndsCovered.of_prefix {outcomes front : List RelayOutcome} (covered : EndsCovered outcomes)
    (inside : front <+: outcomes) : EndsCovered front :=
  fun _ earlier => covered _ (earlier.trans inside)

theorem EndsCovered.append {first second : List RelayOutcome} (covered : EndsCovered first)
    (covered' : EndsCovered second) : EndsCovered (first ++ second) := by
  intro front inside selects
  rcases List.prefix_or_prefix_of_prefix inside (List.prefix_append first second) with early | late
  · exact covered front early selects
  · obtain ⟨rest, rfl⟩ := late
    rw [List.prefix_append_right_inj] at inside
    have whole := covered first (List.prefix_refl first) selects
    have more := covered' rest inside selects
    rw [countOf_append, countOf_append]
    omega

theorem endsCovered_singleton {outcome : RelayOutcome} (open' : outcome.ended = 0) : EndsCovered [outcome] := by
  intro front inside selects
  rcases List.prefix_cons_iff.mp inside with rfl | ⟨rest, rfl, tail⟩
  · exact le_rfl
  · cases List.prefix_nil.mp tail
    by_cases selected : selects outcome.relay = true
    · simp [countOf, selected, open']
    · simp [countOf, selected]

/-- An acceptance covers one end at the same relay. -/
theorem endsCovered_pair {accepted ended : RelayOutcome} (same : ended.relay = accepted.relay)
    (open' : accepted.ended = 0) (taken : ended.ended ≤ accepted.accepted) : EndsCovered [accepted, ended] := by
  intro front inside selects
  rcases List.prefix_cons_iff.mp inside with rfl | ⟨rest, rfl, tail⟩
  · exact le_rfl
  · rcases List.prefix_cons_iff.mp tail with rfl | ⟨rest', rfl, tail'⟩
    · exact endsCovered_singleton open' [accepted] (List.prefix_refl _) selects
    · cases List.prefix_nil.mp tail'
      by_cases selected : selects accepted.relay = true
      · simp [countOf, selected, same, open']
        omega
      · simp [countOf, selected, same]

/-- The rows of `relay_metrics` add up what was written for their relays, so that covered outcomes leave covered
rows. -/
theorem ended_le_accepted {network : String} {pending : List (Time × RelayOutcome)}
    (covered : EndsCovered (pending.map Prod.snd)) {row : RelayMetrics}
    (member : row ∈ (Database.empty.after (flush network pending)).relayMetrics) : row.ended ≤ row.accepted := by
  rw [relayMetrics_flush] at member
  have keeps : ∀ old new : RelayMetrics, old.relay = new.relay → (old.merge new).relay = new.relay :=
    fun _ _ same => same
  have adds : ∀ old new : RelayMetrics, (old.merge new).ended = old.ended + new.ended := by
    intro old new
    simp only [RelayMetrics.ended, RelayMetrics.merge]
    omega
  have ends := (Relational.measure_upserts adds keeps _).2.2 row member
  have accepts := (Relational.measure_upserts (fun old new : RelayMetrics =>
    (rfl : (old.merge new).accepted = old.accepted + new.accepted)) keeps _).2.2 row member
  have whole := covered _ (List.prefix_refl _) fun relay => scopedRelay network relay = row.relay
  rw [ends, accepts]
  simp only [Relational.totalOf, countOf, List.filter_map, List.map_map, Function.comp_def, ended_row, accepted_row,
    relay_row] at whole ⊢
  exact whole

end ArbitrageRuntime.Storage
