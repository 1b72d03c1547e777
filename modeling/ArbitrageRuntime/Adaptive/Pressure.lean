import ArbitrageRuntime.Adaptive.Rebuilt
import ArbitrageRuntime.Lib.Cascade
import Mathlib.Order.Interval.Set.Basic
import Mathlib.Tactic.GCongr

namespace ArbitrageRuntime.Adaptive

/-- The seven inputs that the policy takes for signs of trouble. -/
inductive Pressure
  | mempoolDensity
  | clusterHeat
  | gasPressure
  | latencyPenalty
  | failurePressure
  | poorRealization
  | builderPressure
  deriving DecidableEq

/-- A reading of all of them, compared input by input. -/
abbrev Pressures := Pressure → Set.Icc (0 : ℚ) 1

def MarketRegime.severity : MarketRegime → Nat
  | .calm => 0
  | .normal => 1
  | .hot => 2
  | .toxic => 3

theorem MarketRegime.severity_injective : Function.Injective MarketRegime.severity := by
  intro left right same
  cases left <;> cases right <;> first | rfl | exact absurd same (by decide)

/-- The calmer regime is the smaller one. -/
instance : PartialOrder MarketRegime := PartialOrder.lift MarketRegime.severity MarketRegime.severity_injective

instance (left right : MarketRegime) : Decidable (left ≤ right) :=
  inferInstanceAs (Decidable (left.severity ≤ right.severity))

namespace Pressures

variable (pressures : Pressures)

def stress : ℚ :=
  clamp 0 1 (pressures .mempoolDensity * 0.20 + pressures .clusterHeat * 0.20 + pressures .gasPressure * 0.10 +
    pressures .latencyPenalty * 0.12 + pressures .failurePressure * 0.14 + pressures .poorRealization * 0.10 +
    pressures .builderPressure * 0.14)

def marketRegime : MarketRegime :=
  Adaptive.marketRegime (pressures .mempoolDensity) (pressures .clusterHeat) (pressures .gasPressure)
    (pressures .latencyPenalty) (pressures .failurePressure) (pressures .poorRealization) (pressures .builderPressure)

/-- The regime that a quote works with. -/
def regime (shift : Int) : MarketRegime := recalibratedRegime pressures.marketRegime shift

def dynamicThreshold (policy : AdaptivePolicy) (shift : Int) : ℚ :=
  policy.dynamicThreshold (pressures .mempoolDensity) (pressures .failurePressure) (pressures .gasPressure)
    (pressures .latencyPenalty) (pressures .poorRealization) (pressures .clusterHeat) (pressures .builderPressure)
    (pressures.regime shift)

end Pressures

theorem clamp_mono {low high : ℚ} : Monotone (clamp low high) :=
  fun _ _ le => max_le_max le_rfl (min_le_min le le_rfl)

theorem stress_mono : Monotone Pressures.stress := by
  intro x y le
  have each (pressure : Pressure) : (x pressure : ℚ) ≤ y pressure := le pressure
  unfold Pressures.stress
  apply clamp_mono
  gcongr <;> exact each _

def toxicTest (pressures : Pressures) : Bool :=
  0.82 ≤ pressures.stress ∨ 0.72 ≤ (pressures .failurePressure : ℚ) ∨ 0.62 ≤ (pressures .poorRealization : ℚ) ∨
    0.72 ≤ (pressures .builderPressure : ℚ)

def hotTest (pressures : Pressures) : Bool :=
  0.58 ≤ pressures.stress ∨ 0.55 ≤ (pressures .clusterHeat : ℚ) ∨ 0.52 ≤ (pressures .gasPressure : ℚ) ∨
    0.48 ≤ (pressures .builderPressure : ℚ)

def normalTest (pressures : Pressures) : Bool := 0.30 ≤ pressures.stress

theorem marketRegime_eq_firstMatch (pressures : Pressures) :
    pressures.marketRegime =
      Cascade.firstMatch [(toxicTest, .toxic), (hotTest, .hot), (normalTest, .normal)] .calm pressures := by
  simp only [Cascade.firstMatch, toxicTest, hotTest, normalTest, decide_eq_true_eq]
  rfl

theorem upward_regimeTests {rung : (Pressures → Bool) × MarketRegime}
    (inside : rung ∈ [(toxicTest, MarketRegime.toxic), (hotTest, .hot), (normalTest, .normal)]) :
    Cascade.Upward rung.1 := by
  intro x y le holds
  have each (pressure : Pressure) : (x pressure : ℚ) ≤ y pressure := le pressure
  have stress := stress_mono le
  simp only [List.mem_cons, List.not_mem_nil, or_false] at inside
  rcases inside with rfl | rfl | rfl
  · simp only [toxicTest, decide_eq_true_eq] at holds ⊢
    exact holds.imp stress.trans' (Or.imp (each _).trans' (Or.imp (each _).trans' (each _).trans'))
  · simp only [hotTest, decide_eq_true_eq] at holds ⊢
    exact holds.imp stress.trans' (Or.imp (each _).trans' (Or.imp (each _).trans' (each _).trans'))
  · simp only [normalTest, decide_eq_true_eq] at holds ⊢
    exact stress.trans' holds

theorem marketRegime_mono : Monotone Pressures.marketRegime := by
  have eq : Pressures.marketRegime = _ := funext marketRegime_eq_firstMatch
  rw [eq]
  exact Cascade.firstMatch_monotone (fun _ => upward_regimeTests) (by decide)

/-- A shift moves every regime the same way. -/
theorem recalibratedRegime_mono (shift : Int) : Monotone fun regime => recalibratedRegime regime shift := by
  intro left right le
  show recalibratedRegime left shift ≤ recalibratedRegime right shift
  unfold recalibratedRegime
  split
  · exact le_rfl
  · split
    · revert le
      cases left <;> cases right <;> decide
    · split
      · exact le
      · split
        · revert le
          cases left <;> cases right <;> decide
        · exact le_rfl

theorem regime_mono (shift : Int) : Monotone fun pressures : Pressures => pressures.regime shift :=
  (recalibratedRegime_mono shift).comp marketRegime_mono

/-- The factor of the threshold that the regime selects. -/
def regimeBase : MarketRegime → ℚ
  | .calm => 0.92
  | .normal => 1.08
  | .hot => 1.42
  | .toxic => 1.95

/-- A table over the regimes that rises from each to the next. -/
theorem monotone_of_steps {β : Type} [Preorder β] {table : MarketRegime → β} (calm : table .calm ≤ table .normal)
    (normal : table .normal ≤ table .hot) (hot : table .hot ≤ table .toxic) : Monotone table := by
  have calmHot := calm.trans normal
  have normalToxic := normal.trans hot
  have calmToxic := calm.trans normalToxic
  intro left right le
  cases left <;> cases right <;> first | exact le_rfl | assumption | exact absurd le (by decide)

theorem regimeBase_mono : Monotone regimeBase :=
  monotone_of_steps (by norm_num [regimeBase]) (by norm_num [regimeBase]) (by norm_num [regimeBase])

theorem minProbabilityThreshold_mono : Monotone minProbabilityThreshold :=
  monotone_of_steps (by norm_num [minProbabilityThreshold]) (by norm_num [minProbabilityThreshold])
    (by norm_num [minProbabilityThreshold])

/-- A limit that falls is one that rises in the opposite order. -/
theorem antitone_of_steps {table : MarketRegime → ℚ} (calm : table .normal ≤ table .calm)
    (normal : table .hot ≤ table .normal) (hot : table .toxic ≤ table .hot) : Antitone table :=
  have falling : Monotone (OrderDual.toDual ∘ table) := monotone_of_steps calm normal hot
  falling

theorem maxCompetitionThreshold_anti : Antitone maxCompetitionThreshold :=
  antitone_of_steps (by norm_num [maxCompetitionThreshold]) (by norm_num [maxCompetitionThreshold])
    (by norm_num [maxCompetitionThreshold])

theorem maxRiskThreshold_anti : Antitone maxRiskThreshold :=
  antitone_of_steps (by norm_num [maxRiskThreshold]) (by norm_num [maxRiskThreshold]) (by norm_num [maxRiskThreshold])

namespace Pressures

/-- The part of the threshold that grows with every input. -/
def surcharge (pressures : Pressures) : ℚ :=
  1 + pressures .mempoolDensity * 0.28 + pressures .failurePressure * 0.52 + pressures .gasPressure * 0.22 +
    pressures .latencyPenalty * 0.24 + pressures .poorRealization * 0.30 + pressures .clusterHeat * 0.24 +
    pressures .builderPressure * 0.38

theorem surcharge_mono : Monotone surcharge := by
  intro x y le
  have each (pressure : Pressure) : (x pressure : ℚ) ≤ y pressure := le pressure
  unfold surcharge
  gcongr <;> exact each _

theorem surcharge_nonneg (pressures : Pressures) : 0 ≤ pressures.surcharge := by
  have each (pressure : Pressure) : (0 : ℚ) ≤ pressures pressure := (pressures pressure).2.1
  unfold surcharge
  have := each .mempoolDensity
  have := each .failurePressure
  have := each .gasPressure
  have := each .latencyPenalty
  have := each .poorRealization
  have := each .clusterHeat
  have := each .builderPressure
  positivity

theorem dynamicThreshold_eq (pressures : Pressures) (policy : AdaptivePolicy) (shift : Int) :
    pressures.dynamicThreshold policy shift =
      policy.baseThresholdUsd * regimeBase (pressures.regime shift) * pressures.surcharge := by
  unfold dynamicThreshold AdaptivePolicy.dynamicThreshold regimeBase surcharge
  rfl

theorem dynamicThreshold_mono {policy : AdaptivePolicy} (nonneg : 0 ≤ policy.baseThresholdUsd) (shift : Int) :
    Monotone fun pressures : Pressures => pressures.dynamicThreshold policy shift := by
  intro x y le
  simp only [dynamicThreshold_eq]
  have base : regimeBase (x.regime shift) ≤ regimeBase (y.regime shift) := regimeBase_mono (regime_mono shift le)
  have basePos : 0 ≤ regimeBase (y.regime shift) := by
    cases y.regime shift <;> norm_num [regimeBase]
  exact mul_le_mul (mul_le_mul_of_nonneg_left base nonneg) (surcharge_mono le) x.surcharge_nonneg
    (mul_nonneg nonneg basePos)

end Pressures

/-- More pressure brings a regime that is not calmer, a threshold and a probability limit that are not lower, and limits
on competition and risk that are not higher. -/
theorem pressure_never_relaxes {policy : AdaptivePolicy} (nonneg : 0 ≤ policy.baseThresholdUsd) (shift : Int)
    {x y : Pressures} (le : x ≤ y) :
    x.regime shift ≤ y.regime shift ∧ x.dynamicThreshold policy shift ≤ y.dynamicThreshold policy shift ∧
      minProbabilityThreshold (x.regime shift) ≤ minProbabilityThreshold (y.regime shift) ∧
      maxCompetitionThreshold (y.regime shift) ≤ maxCompetitionThreshold (x.regime shift) ∧
      maxRiskThreshold (y.regime shift) ≤ maxRiskThreshold (x.regime shift) := by
  have regime : x.regime shift ≤ y.regime shift := regime_mono shift le
  exact ⟨regime, Pressures.dynamicThreshold_mono nonneg shift le, minProbabilityThreshold_mono regime,
    maxCompetitionThreshold_anti regime, maxRiskThreshold_anti regime⟩

/-- Everywhere a quarter, and everywhere a half of the greatest pressure. -/
theorem pressure_never_relaxes_sample :
    let x : Pressures := fun _ => ⟨1 / 4, by norm_num⟩
    let y : Pressures := fun _ => ⟨1 / 2, by norm_num⟩
    let policy := AdaptivePolicy.new samplePriced
    (0 ≤ policy.baseThresholdUsd ∧ x ≤ y) ∧ x.regime 1 ≤ y.regime 1 ∧
      x.dynamicThreshold policy 1 ≤ y.dynamicThreshold policy 1 ∧
      minProbabilityThreshold (x.regime 1) ≤ minProbabilityThreshold (y.regime 1) ∧
      maxCompetitionThreshold (y.regime 1) ≤ maxCompetitionThreshold (x.regime 1) ∧
      maxRiskThreshold (y.regime 1) ≤ maxRiskThreshold (x.regime 1) := by
  intro x y policy
  have nonneg : 0 ≤ policy.baseThresholdUsd := by decide +kernel
  have le : x ≤ y := fun _ => Subtype.mk_le_mk.mpr (by norm_num)
  exact ⟨⟨nonneg, le⟩, pressure_never_relaxes nonneg 1 le⟩

namespace AdaptivePolicy

variable (policy : AdaptivePolicy) (curves : Curves) (now : Instant) (input : AdaptiveQuoteInput)

/-- The pressure of the builders as a quote mixes it from the path and the history. -/
def quotedBuilderPressure : ℚ :=
  let historical := policy.historicalProfiles ⟨input.cluster.router, input.pair, input.hourUtc⟩
  let confidence := (historical.map HistoricalOutcomeStats.confidence).getD 0
  clamp 0 1 (input.relayPressureOverride.getD (policy.builderPathPressureForCluster none input.cluster) *
    (1 - confidence * 0.45) + (historical.map HistoricalOutcomeStats.pressure).getD 0 * confidence * 0.55)

def quotedRegimeShift : Int :=
  let historical := policy.historicalProfiles ⟨input.cluster.router, input.pair, input.hourUtc⟩
  let confidence := (historical.map HistoricalOutcomeStats.confidence).getD 0
  let calibration := historical.map fun profile => profile.calibration confidence
  (calibration.getD HistoricalCalibration.default).regimeShift

theorem unit_clamp (value : ℚ) : clamp 0 1 value ∈ Set.Icc (0 : ℚ) 1 := clamp_mem (by norm_num) value

theorem gasPressure_mem (currentGwei : ℚ) : policy.gasPressure currentGwei ∈ Set.Icc (0 : ℚ) 1 := by
  unfold gasPressure
  split
  · exact ⟨le_rfl, by norm_num⟩
  · have inside := clamp_mem (by norm_num : (0 : ℚ) ≤ 2) (currentGwei / policy.gasPriceEwmaGwei - 1)
    exact ⟨excess_nonneg _ _, (div_le_one (by norm_num)).mpr inside.2⟩

theorem clusterHeat_mem (key : ClusterKey) : policy.clusterHeat curves key now ∈ Set.Icc (0 : ℚ) 1 := by
  unfold clusterHeat
  split
  · exact ⟨le_rfl, by norm_num⟩
  · split
    · exact ⟨le_rfl, by norm_num⟩
    · exact unit_clamp _

/-- What a quote reads. -/
def quotedPressures : Pressures
  | .mempoolDensity => ⟨policy.mempoolDensity, unit_clamp _⟩
  | .clusterHeat => ⟨policy.clusterHeat curves input.cluster now, policy.clusterHeat_mem curves now _⟩
  | .gasPressure => ⟨policy.gasPressure (weiToGwei input.gasPriceWei), policy.gasPressure_mem _⟩
  | .latencyPenalty => ⟨policy.latencyPenalty input.lookupLatencyMs, unit_clamp _⟩
  | .failurePressure => ⟨policy.failurePressure, unit_clamp _⟩
  | .poorRealization => ⟨policy.poorRealization, unit_clamp _⟩
  | .builderPressure => ⟨policy.quotedBuilderPressure input, unit_clamp _⟩

/-- A quote names the regime of the pressures that it reads. -/
theorem adaptiveQuote_regime : (policy.adaptiveQuote curves now input).regime =
    (policy.quotedPressures curves now input).regime (policy.quotedRegimeShift input) := by
  unfold Pressures.regime Pressures.marketRegime adaptiveQuote
  simp only [quotedPressures, quotedBuilderPressure, quotedRegimeShift]

end AdaptivePolicy

end ArbitrageRuntime.Adaptive
