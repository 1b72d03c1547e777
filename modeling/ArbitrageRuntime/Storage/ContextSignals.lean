import ArbitrageRuntime.Storage.Backends

namespace ArbitrageRuntime.Storage

/-- The signal of some outcomes, with the formulas of `apply_historical_profiles` over their own averages. -/
def directSignal (rows : List ExecutionOutcomeRow) : Adaptive.ContextSignal :=
  let rates := contextRates rows
  { priorityScore := clamp 0 1 (rates.successRate * 0.46 + clamp 0 1 rates.realizedCapture * 0.34 +
      clamp 0 1 (1 - rates.missRate) * 0.12 + clamp 0 1 (1 - rates.revertRate) * 0.08)
    toxicityScore := clamp 0 1 (clamp 0 1 (1 - rates.successRate) * 0.28 + clamp 0 1 rates.missRate * 0.36 +
      clamp 0 1 rates.revertRate * 0.22 + clamp 0 1 (1 - rates.realizedCapture) * 0.14)
    samples := rates.samples }

section

variable (parseAddress : String → Option Address) (network : String) (database : Database)

/-- The outcomes that were recorded for a network. -/
def Database.outcomesOf : List ExecutionOutcomeRow := database.executionOutcomes.filter fun row => row.network = network

/-- The outcomes of a network that went through a router in an hour of the day. -/
def Database.outcomesAt (router : Address) (hour : Nat) : List ExecutionOutcomeRow :=
  (database.outcomesOf network).filter fun row =>
    (parseAddress row.router).getD 0 = router ∧ hourUtc row.recordedAt = hour

/-- All outcomes of a network have a pair and a router that are not the zero address. -/
def Database.KnowsAddresses : Prop :=
  ∀ row ∈ database.outcomesOf network, (parseAddress row.pair).getD 0 ≠ 0 ∧ (parseAddress row.router).getD 0 ≠ 0

end

/-- A limit that lets every context of a network through. -/
def Handle.Unlimited (handle : Handle) (database : Database) (limit : Nat) : Prop :=
  ∃ window, handle.backend.window (asI64 limit) = .ok window ∧
    ∀ most ∈ window, (database.outcomeContexts handle.network).length ≤ most

theorem hourUtc_lt (time : Time) : hourUtc time < 24 := Nat.mod_lt _ (by decide)

/-- An average stands for the sum of its values. -/
theorem average_mul_length (values : List ℚ) : average values * values.length = values.sum := by
  rcases Nat.eq_zero_or_pos values.length with none | some
  · rw [List.length_eq_zero_iff.mp none]
    simp
  · have nonzero : (values.length : ℚ) ≠ 0 := by exact_mod_cast some.ne'
    exact div_mul_cancel₀ _ nonzero

section

variable (parseAddress : String → Option Address)

/-- What the policy takes over from the contexts of some groups. -/
def groupStats (groups : List OutcomeGroup) : List Adaptive.HistoricalOutcomeStats :=
  groups.map fun group => (historicalProfile parseAddress group).toHistoricalOutcomeStats

variable (table : List ExecutionOutcomeRow) (selects : OutcomeContext → Bool)

/-- The contexts that are selected, and the rows that are in one of them. -/
def selectedGroups : List OutcomeGroup :=
  (Relational.groups ExecutionOutcomeRow.context table).filter fun group => selects group.1

def selectedRows : List ExecutionOutcomeRow := table.filter fun row => selects row.context

theorem sum_samples : ((groupStats parseAddress (selectedGroups table selects)).map
    Adaptive.HistoricalOutcomeStats.samples).sum = (selectedRows table selects).length := by
  have shared := Relational.sum_groups ExecutionOutcomeRow.context (fun _ => 1) selects table
  simp only [List.map_const', List.sum_replicate, nsmul_one, Nat.cast_id] at shared
  rw [groupStats, List.map_map, selectedRows, ← shared]
  rfl

/-- The rates of the contexts, weighted by their samples, sum up to the figures of the rows: a context is weighted
by the number that its averages were divided by. -/
theorem sum_weighted {figure : ExecutionOutcomeRow → ℚ} {rate : Adaptive.HistoricalOutcomeStats → ℚ}
    (averages : ∀ group, rate (historicalProfile parseAddress group).toHistoricalOutcomeStats =
      average (group.2.map figure)) :
    ((groupStats parseAddress (selectedGroups table selects)).map fun value => rate value * value.samples).sum =
      ((selectedRows table selects).map figure).sum := by
  rw [selectedRows, ← Relational.sum_groups ExecutionOutcomeRow.context figure selects table, groupStats, List.map_map]
  refine congrArg List.sum (List.map_congr_left fun group _ => ?_)
  have weight := average_mul_length (group.2.map figure)
  rw [List.length_map, ← averages] at weight
  exact weight

/-- Averaging within the contexts and then over them is averaging over the rows. -/
theorem rollUp_groupStats (some : selectedRows table selects ≠ []) :
    Adaptive.rollUp (groupStats parseAddress (selectedGroups table selects)) =
      directSignal (selectedRows table selects) := by
  have samples : max ((groupStats parseAddress (selectedGroups table selects)).map
      Adaptive.HistoricalOutcomeStats.samples).sum 1 = (selectedRows table selects).length := by
    rw [sum_samples]
    exact Nat.max_eq_left (List.length_pos_iff.mpr some)
  have overall : ∀ {figure : ExecutionOutcomeRow → ℚ} {rate : Adaptive.HistoricalOutcomeStats → ℚ},
      (∀ group, rate (historicalProfile parseAddress group).toHistoricalOutcomeStats = average (group.2.map figure)) →
      ((groupStats parseAddress (selectedGroups table selects)).map fun value => rate value * value.samples).sum /
        ((selectedRows table selects).length : ℚ) = average ((selectedRows table selects).map figure) := by
    intro figure rate averages
    rw [sum_weighted parseAddress table selects averages, average, List.length_map]
  have success := @overall _ Adaptive.HistoricalOutcomeStats.successRate fun _ => rfl
  have miss := @overall _ Adaptive.HistoricalOutcomeStats.acceptedNotIncludedRate fun _ => rfl
  have revert := @overall _ Adaptive.HistoricalOutcomeStats.revertRate fun _ => rfl
  have capture := @overall _ Adaptive.HistoricalOutcomeStats.realizedCapture fun _ => rfl
  simp only [Adaptive.rollUp, samples, success, miss, revert, capture]
  rfl

end

theorem rollUp_perm {values values' : List Adaptive.HistoricalOutcomeStats} (same : values.Perm values') :
    Adaptive.rollUp values = Adaptive.rollUp values' := by
  have samples := (same.map Adaptive.HistoricalOutcomeStats.samples).sum_eq
  have weighted : ∀ rate : Adaptive.HistoricalOutcomeStats → ℚ,
      (values.map fun value => rate value * value.samples).sum =
        (values'.map fun value => rate value * value.samples).sum := fun rate =>
    (same.map fun value => rate value * value.samples).sum_eq
  simp only [Adaptive.rollUp, samples, weighted]

section

variable {parseAddress : String → Option Address} {handle : Handle} {database : Database} {limit : Nat}

/-- A context is that of one of the outcomes at least. -/
theorem exists_outcome {network : String} {group : OutcomeGroup} (member : group ∈ database.outcomeContexts network) :
    ∃ row ∈ database.outcomesOf network, row.context = group.1 := by
  obtain ⟨rows, nonempty⟩ := Relational.mem_groups member
  obtain ⟨row, inside⟩ := List.exists_mem_of_ne_nil _ nonempty
  exact ⟨row, (rows row).mp inside⟩

/-- Every context of known addresses has a profile, with the addresses that its texts stand for. -/
theorem profile_of_context (known : database.KnowsAddresses parseAddress handle.network) {group : OutcomeGroup}
    (member : group ∈ database.outcomeContexts handle.network) :
    (historicalProfile parseAddress group).pair ≠ 0 ∧ (historicalProfile parseAddress group).router ≠ 0 := by
  obtain ⟨row, recorded, own⟩ := exists_outcome member
  have addresses := known row recorded
  rw [historicalProfile, ← own]
  exact addresses

/-- No context has less than one sample. -/
theorem outcomeContexts_sampled (network : String) :
    (database.outcomeContexts network).filter (fun group => asI64 1 ≤ (contextRates group.2).samples) =
      database.outcomeContexts network := by
  have one : asI64 1 = 1 := asI64_eq (by decide)
  refine List.filter_eq_self.mpr fun group member => decide_eq_true ?_
  have samples : 0 < (contextRates group.2).samples := List.length_pos_iff.mpr (Relational.mem_groups member).2
  rw [one]
  exact_mod_cast samples

/-- The query answers a profile for every context. -/
theorem outcomeProfiles_all (known : database.KnowsAddresses parseAddress handle.network)
    (unlimited : handle.Unlimited database limit) :
    (handle.outcomeProfiles database limit parseAddress 1).Nonempty ∧
      ∀ answer ∈ handle.outcomeProfiles database limit parseAddress 1, ∃ profiles, answer = .ok profiles ∧
        profiles.Perm ((database.outcomeContexts handle.network).map (historicalProfile parseAddress)) := by
  obtain ⟨window, limits, enough⟩ := unlimited
  unfold Handle.outcomeProfiles Backend.select
  rw [limits, outcomeContexts_sampled]
  constructor
  · obtain ⟨result, answers⟩ := Relational.exists_answers
      (fun group : OutcomeGroup => OrderDual.toDual (contextRates group.2).samples) window
      (database.outcomeContexts handle.network)
    exact ⟨_, mem_selectWithin.mpr ⟨result, answers, rfl⟩⟩
  · intro answer member
    obtain ⟨result, ⟨sorted, perm, _, rfl⟩, rfl⟩ := mem_selectWithin.mp member
    have whole : Relational.cutAt window sorted = sorted :=
      Relational.cutAt_of_enough fun most given => perm.length_eq.trans_le (enough most given)
    refine ⟨_, rfl, ?_⟩
    have finish : sorted.filterMap (fun group =>
        let profile := historicalProfile parseAddress group
        if profile.pair ≠ 0 ∧ profile.router ≠ 0 then some profile else none) =
        sorted.map (historicalProfile parseAddress) := by
      rw [← List.filterMap_eq_map]
      refine List.filterMap_congr fun group member => ?_
      exact if_pos (profile_of_context known (perm.mem_iff.mp member))
    rw [whole, finish]
    exact perm.map _

/-- The contexts that go to one router and hour. Texts of the same address are different contexts. -/
def inHour (parseAddress : String → Option Address) (router : Address) (hour : Nat) (context : OutcomeContext) : Bool :=
  (parseAddress context.router).getD 0 = router ∧ context.hourUtc = hour

/-- The policy groups the profiles by what it reads of their contexts. -/
theorem profiles_of_hour {router : Address} {hour : Nat} {order : List Adaptive.HistoricalOutcomeProfile}
    (arrived : order.Perm ((database.outcomeContexts handle.network).map (historicalProfile parseAddress))) :
    ((order.filter fun profile => profile.router = router ∧ profile.hourUtc = hour).map
        Adaptive.HistoricalOutcomeProfile.toHistoricalOutcomeStats).Perm
      (groupStats parseAddress
        (selectedGroups (database.outcomesOf handle.network) (inHour parseAddress router hour))) := by
  have values := (arrived.filter fun profile => profile.router = router ∧ profile.hourUtc = hour).map
    Adaptive.HistoricalOutcomeProfile.toHistoricalOutcomeStats
  rw [List.filter_map, List.map_map] at values
  have contexts : (database.outcomeContexts handle.network).filter
      ((fun profile => decide (profile.router = router ∧ profile.hourUtc = hour)) ∘ historicalProfile parseAddress) =
      selectedGroups (database.outcomesOf handle.network) (inHour parseAddress router hour) := by
    refine List.filter_congr fun group member => ?_
    obtain ⟨row, _, own⟩ := exists_outcome member
    have hour : group.1.hourUtc < 24 := by
      rw [← own]
      exact hourUtc_lt row.recordedAt
    have byte : (historicalProfile parseAddress group).hourUtc = group.1.hourUtc := Nat.mod_eq_of_lt (by omega)
    simp only [Function.comp_apply, byte]
    rfl
  rw [contexts] at values
  exact values

end

theorem outcomesAt_eq (parseAddress : String → Option Address) (network : String) (database : Database)
    (router : Address) (hour : Nat) : database.outcomesAt parseAddress network router hour =
      selectedRows (database.outcomesOf network) (inHour parseAddress router hour) := rfl

/-- The policy's signal for a router and an hour is that of the outcomes it had there, taken directly, whatever the
order in which the profiles arrive. -/
theorem contextSignal_aggregates (parseAddress : String → Option Address) (handle : Handle) (database : Database)
    (limit : Nat) (known : database.KnowsAddresses parseAddress handle.network)
    (unlimited : handle.Unlimited database limit) (policy : Adaptive.AdaptivePolicy) :
    (handle.outcomeProfiles database limit parseAddress 1).Nonempty ∧
      ∀ answer ∈ handle.outcomeProfiles database limit parseAddress 1, ∃ profiles, answer = .ok profiles ∧
        ∀ order, order.Perm profiles → ∀ router hour,
          database.outcomesAt parseAddress handle.network router hour ≠ [] →
          (policy.applyHistoricalProfiles order).contextSignal router hour =
            directSignal (database.outcomesAt parseAddress handle.network router hour) := by
  refine (outcomeProfiles_all known unlimited).imp_right (forall₂_imp fun answer _ => ?_)
  rintro ⟨profiles, answered, same⟩
  refine ⟨profiles, answered, fun order arrived router hour occurred => ?_⟩
  rw [outcomesAt_eq] at occurred ⊢
  have values := @profiles_of_hour parseAddress handle database router hour order (arrived.trans same)
  have counted := sum_samples parseAddress (database.outcomesOf handle.network) (inHour parseAddress router hour)
  have present : (order.filter fun profile => profile.router = router ∧ profile.hourUtc = hour).isEmpty = false := by
    refine Bool.eq_false_iff.mpr fun empty => occurred ?_
    rw [List.isEmpty_iff.mp empty, List.map_nil, List.nil_perm] at values
    rw [values] at counted
    exact List.length_eq_zero_iff.mp counted.symm
  rw [← rollUp_groupStats parseAddress _ _ occurred, ← rollUp_perm values, Adaptive.AdaptivePolicy.contextSignal,
    Adaptive.AdaptivePolicy.applyHistoricalProfiles]
  simp only [present]
  rfl

/-- The addresses of two pairs and a router, as they are parsed. -/
def sampleAddress (text : String) : Option Address :=
  if text = "0x0000000000000000000000000000000000000065" then some 0x65
  else if text = "0x0000000000000000000000000000000000000066" then some 0x66
  else if text = "0x00000000000000000000000000000000000000c9" then some 0xc9
  else none

/-- One pair succeeds twice, another one misses its block. -/
def sampleContexts : Database where
  __ := Database.empty
  executionOutcomes :=
    [⟨sampleExecution "0x0000000000000000000000000000000000000065" "included_success" 1, "polygon", 1⟩,
      ⟨sampleExecution "0x0000000000000000000000000000000000000066" "accepted_not_included" 0, "polygon", 2⟩,
      ⟨sampleExecution "0x0000000000000000000000000000000000000065" "included_success" 1, "polygon", 3⟩]

theorem contextSignal_sampleContexts :
    ((⟨.sqlite, "polygon"⟩ : Handle).outcomeProfiles sampleContexts 10 sampleAddress 1).Nonempty ∧
      ∀ answer ∈ (⟨.sqlite, "polygon"⟩ : Handle).outcomeProfiles sampleContexts 10 sampleAddress 1,
        ∃ profiles, answer = .ok profiles ∧ ∀ order, order.Perm profiles →
          ((Adaptive.AdaptivePolicy.new ⟨testConfig, 3000⟩).applyHistoricalProfiles order).contextSignal 0xc9 0 =
            ⟨52 / 75, 13 / 50, 3⟩ := by
  have known : sampleContexts.KnowsAddresses sampleAddress "polygon" := by
    unfold Database.KnowsAddresses
    decide
  have unlimited : (⟨.sqlite, "polygon"⟩ : Handle).Unlimited sampleContexts 10 :=
    ⟨some 10, Backend.window_of_lt _ (by decide), fun most member => by
      cases member
      decide⟩
  refine (contextSignal_aggregates sampleAddress ⟨.sqlite, "polygon"⟩ sampleContexts 10 known unlimited
    (.new ⟨testConfig, 3000⟩)).imp_right (forall₂_imp fun answer _ => ?_)
  rintro ⟨profiles, answered, signals⟩
  refine ⟨profiles, answered, fun order arrived => (signals order arrived 0xc9 0 (by decide)).trans ?_⟩
  rw [directSignal, Adaptive.ContextSignal.mk.injEq]
  decide +kernel

end ArbitrageRuntime.Storage
