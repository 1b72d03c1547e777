import ArbitrageRuntime.Adaptive.Pressure
import ArbitrageRuntime.Runtime.FastPreflight

namespace ArbitrageRuntime

/-- The factor for the size of a swap with a positive estimate. -/
def edgeMultiplier (notionalEth : ℚ) : ℚ := clamp 1 1.18 (0.95 + notionalEth / 40)

/-- The factor for the size of a swap without one. -/
def idleMultiplier (notionalEth : ℚ) : ℚ := clamp 0.75 1.15 (notionalEth / 10)

theorem edgeMultiplier_mem (notionalEth : ℚ) : 1 ≤ edgeMultiplier notionalEth ∧ edgeMultiplier notionalEth ≤ 1.18 :=
  Adaptive.clamp_mem (by norm_num) _

theorem idleMultiplier_mem (notionalEth : ℚ) : 0.75 ≤ idleMultiplier notionalEth ∧ idleMultiplier notionalEth ≤ 1.15 :=
  Adaptive.clamp_mem (by norm_num) _

/-- Below two cents the continuous term stays under the floor of its tier. -/
theorem continuousCap_le_tierFloor {evUpperBoundUsd : ℚ} (hardCapGwei : ℚ) (below : evUpperBoundUsd < 0.02) :
    (if 0 < evUpperBoundUsd then 100 + evUpperBoundUsd * 3000 else 150 + evUpperBoundUsd * 1500) ≤
      gasCapTierFloor evUpperBoundUsd hardCapGwei := by
  norm_num at below
  have beyond {threshold : ℚ} (above : 1 / 50 ≤ threshold) : ¬ threshold ≤ evUpperBoundUsd := by linarith
  unfold gasCapTierFloor
  simp only [beyond (by norm_num : (1 / 50 : ℚ) ≤ 0.25), beyond (by norm_num : (1 / 50 : ℚ) ≤ 0.14),
    beyond (by norm_num : (1 / 50 : ℚ) ≤ 0.10), beyond (by norm_num : (1 / 50 : ℚ) ≤ 0.05),
    beyond (by norm_num : (1 / 50 : ℚ) ≤ 0.02), if_false]
  by_cases positive : 0 < evUpperBoundUsd
  · simp only [positive, if_true]
    split
    · linarith
    · split <;> linarith
  · have none {threshold : ℚ} (above : 0 < threshold) : ¬ threshold ≤ evUpperBoundUsd := by linarith
    simp only [positive, none (by norm_num : (0 : ℚ) < 0.005), none (by norm_num : (0 : ℚ) < 0.001), if_false]
    split
    · linarith
    · rename_i deep
      norm_num at deep
      linarith

/-- The tier and the size decide alone. -/
theorem adaptiveGasCapGwei_eq (evUpperBoundUsd notionalEth hardCapGwei : ℚ) :
    adaptiveGasCapGwei evUpperBoundUsd notionalEth hardCapGwei =
      clampOrPanic 120 (max hardCapGwei 1) (gasCapTierFloor evUpperBoundUsd hardCapGwei *
        if 0 < evUpperBoundUsd then edgeMultiplier notionalEth else idleMultiplier notionalEth) := by
  unfold adaptiveGasCapGwei
  have edge : (if 0.02 ≤ evUpperBoundUsd then gasCapTierFloor evUpperBoundUsd hardCapGwei
      else max (gasCapTierFloor evUpperBoundUsd hardCapGwei)
        (if 0 < evUpperBoundUsd then 100 + evUpperBoundUsd * 3000 else 150 + evUpperBoundUsd * 1500)) =
      gasCapTierFloor evUpperBoundUsd hardCapGwei := by
    split
    · rfl
    · rename_i below
      exact max_eq_left (continuousCap_le_tierFloor hardCapGwei (not_le.mp below))
  dsimp only
  rw [edge]
  rfl

section

variable (notionalEth hardCapGwei : ℚ)

/-- The cap of a tier, by its floor. -/
def edgeCap (tierFloor : ℚ) : ℚ := clamp 120 hardCapGwei (tierFloor * edgeMultiplier notionalEth)

def idleCap (tierFloor : ℚ) : ℚ := clamp 120 hardCapGwei (tierFloor * idleMultiplier notionalEth)

/-- The tiers from the greatest estimate down. -/
def gasCapTiers : List ((ℚ → Bool) × ℚ) :=
  [(fun ev => 0.25 ≤ ev, edgeCap notionalEth hardCapGwei 1000),
    (fun ev => 0.14 ≤ ev, edgeCap notionalEth hardCapGwei (hardCapGwei * 0.98)),
    (fun ev => 0.10 ≤ ev, edgeCap notionalEth hardCapGwei 850),
    (fun ev => 0.05 ≤ ev, edgeCap notionalEth hardCapGwei 450),
    (fun ev => 0.02 ≤ ev, edgeCap notionalEth hardCapGwei (hardCapGwei * 0.95)),
    (fun ev => 0.005 ≤ ev, edgeCap notionalEth hardCapGwei 350),
    (fun ev => 0.001 ≤ ev, edgeCap notionalEth hardCapGwei 300),
    (fun ev => 0 < ev, edgeCap notionalEth hardCapGwei 250),
    (fun ev => -0.02 ≤ ev, idleCap notionalEth hardCapGwei 150)]

variable {notionalEth hardCapGwei}

theorem gasCapTiers_upward {tier : (ℚ → Bool) × ℚ} (inside : tier ∈ gasCapTiers notionalEth hardCapGwei) :
    Cascade.Upward tier.1 := by
  intro x y le holds
  simp only [gasCapTiers, List.mem_cons, List.not_mem_nil, or_false] at inside
  rcases inside with rfl | rfl | rfl | rfl | rfl | rfl | rfl | rfl | rfl <;>
    simp only [decide_eq_true_eq] at holds ⊢ <;> linarith

theorem adaptiveGasCapGwei_eq_tier (admissible : 120 ≤ hardCapGwei) (evUpperBoundUsd : ℚ) :
    adaptiveGasCapGwei evUpperBoundUsd notionalEth hardCapGwei =
      some (Cascade.firstMatch (gasCapTiers notionalEth hardCapGwei) (idleCap notionalEth hardCapGwei 120)
        evUpperBoundUsd) := by
  have one : max hardCapGwei 1 = hardCapGwei := max_eq_left (by linarith)
  rw [adaptiveGasCapGwei_eq, one, clampOrPanic, if_pos admissible]
  congr 1
  simp only [Cascade.firstMatch, gasCapTiers, gasCapTierFloor, decide_eq_true_eq]
  by_cases positive : 0 < evUpperBoundUsd
  · simp only [positive, if_true]
    split_ifs <;> rfl
  · have none {threshold : ℚ} (above : 0 < threshold) : ¬ threshold ≤ evUpperBoundUsd := by linarith
    simp only [positive, none (by norm_num : (0 : ℚ) < 0.25), none (by norm_num : (0 : ℚ) < 0.14),
      none (by norm_num : (0 : ℚ) < 0.10), none (by norm_num : (0 : ℚ) < 0.05), none (by norm_num : (0 : ℚ) < 0.02),
      none (by norm_num : (0 : ℚ) < 0.005), none (by norm_num : (0 : ℚ) < 0.001), if_false]
    split <;> rfl

end

theorem clamp_le_clamp_iff {low high a b : ℚ} :
    clamp low high a ≤ clamp low high b ↔ a ≤ b ∨ high ≤ b ∨ a ≤ low ∨ high ≤ low := by
  unfold clamp
  constructor
  · intro le
    by_contra nowhere
    simp only [not_or, not_le] at nowhere
    obtain ⟨less, inside, above, wide⟩ := nowhere
    have right : max low (min b high) < min a high :=
      max_lt (lt_min above wide) (lt_min (min_lt_of_left_lt less) (min_lt_of_left_lt inside))
    exact absurd (le_max_right low (min a high)) (not_le.mpr (le.trans_lt right))
  · rintro (less | top | bottom | narrow)
    · exact max_le_max le_rfl (min_le_min less le_rfl)
    · rw [min_eq_right top]
      exact max_le_max le_rfl (min_le_right _ _)
    · exact max_le (le_max_left _ _) ((min_le_left _ _).trans (bottom.trans (le_max_left _ _)))
    · exact max_le (le_max_left _ _) ((min_le_right _ _).trans (narrow.trans (le_max_left _ _)))

section

variable {notionalEth hardCapGwei : ℚ}

theorem edgeCap_le_iff {floor floor' : ℚ} :
    edgeCap notionalEth hardCapGwei floor ≤ edgeCap notionalEth hardCapGwei floor' ↔
      floor ≤ floor' ∨ hardCapGwei ≤ floor' * edgeMultiplier notionalEth ∨ floor * edgeMultiplier notionalEth ≤ 120 ∨
        hardCapGwei ≤ 120 := by
  have positive : 0 < edgeMultiplier notionalEth := zero_lt_one.trans_le (edgeMultiplier_mem notionalEth).1
  unfold edgeCap
  rw [clamp_le_clamp_iff, mul_le_mul_iff_left₀ positive]

theorem le_edgeMultiplier_iff {factor : ℚ} (above : 1 < factor) :
    factor ≤ edgeMultiplier notionalEth ↔ factor ≤ 1.18 ∧ factor ≤ 0.95 + notionalEth / 40 := by
  unfold edgeMultiplier clamp
  rw [le_max_iff, le_min_iff]
  constructor
  · rintro (small | both)
    · exact absurd small (not_le.mpr above)
    · exact ⟨both.2, both.1⟩
  · rintro ⟨most, grown⟩
    exact Or.inr ⟨grown, most⟩

/-- A constant tier is not above a share of the cap exactly when its floor is not, or the size outweighs the cut. -/
theorem floor_le_share_iff (wide : 120 < hardCapGwei) {floor : ℚ} (large : 120 < floor) (share : ℚ) :
    edgeCap notionalEth hardCapGwei floor ≤ edgeCap notionalEth hardCapGwei (hardCapGwei * share) ↔
      floor ≤ hardCapGwei * share ∨ 1 ≤ share * edgeMultiplier notionalEth := by
  obtain ⟨one, -⟩ := edgeMultiplier_mem notionalEth
  have positive : 0 < hardCapGwei := by linarith
  have grown : floor ≤ floor * edgeMultiplier notionalEth := le_mul_of_one_le_right (by linarith) one
  have outweighs : hardCapGwei ≤ hardCapGwei * share * edgeMultiplier notionalEth ↔
      1 ≤ share * edgeMultiplier notionalEth := by rw [mul_assoc, le_mul_iff_one_le_right positive]
  rw [edgeCap_le_iff, outweighs]
  constructor
  · rintro (less | size | bottom | narrow)
    · exact Or.inl less
    · exact Or.inr size
    · linarith
    · linarith
  · rintro (less | size)
    · exact Or.inl less
    · exact Or.inr (Or.inl size)

/-- A share of the cap is not above a constant tier exactly when it is not above its floor, or the tier reaches the
whole cap. -/
theorem share_le_floor_iff (wide : 120 < hardCapGwei) {floor share : ℚ} (large : 120 ≤ floor) (nonneg : 0 ≤ share) :
    edgeCap notionalEth hardCapGwei (hardCapGwei * share) ≤ edgeCap notionalEth hardCapGwei floor ↔
      hardCapGwei * share ≤ floor ∨ hardCapGwei ≤ floor * edgeMultiplier notionalEth := by
  obtain ⟨one, -⟩ := edgeMultiplier_mem notionalEth
  have grown : hardCapGwei * share ≤ hardCapGwei * share * edgeMultiplier notionalEth :=
    le_mul_of_one_le_right (mul_nonneg (by linarith) nonneg) one
  rw [edgeCap_le_iff]
  constructor
  · rintro (less | top | bottom | narrow)
    · exact Or.inl less
    · exact Or.inr top
    · exact Or.inl (by linarith)
    · linarith
  · rintro (less | top)
    · exact Or.inl less
    · exact Or.inr (Or.inl top)

/-- The caps for which the tiers that are a share of the cap lie between their neighbours, by the size of the swap. -/
def TiersInOrder (notionalEth hardCapGwei : ℚ) : Prop :=
  hardCapGwei = 120 ∨
  (78 / 19 ≤ notionalEth ∧ hardCapGwei ≤ 531 ∧ hardCapGwei ≤ 427.5 + 11.25 * notionalEth) ∨
  (138 / 49 ≤ notionalEth ∧ 7000 / 19 ≤ hardCapGwei ∧ hardCapGwei ≤ 9000 / 19)

/-- The same in terms of the multiplier. -/
theorem tiersInOrder_iff (wide : 120 < hardCapGwei) :
    TiersInOrder notionalEth hardCapGwei ↔
      (7000 / 19 ≤ hardCapGwei ∨ 20 / 19 ≤ edgeMultiplier notionalEth) ∧
      (hardCapGwei ≤ 9000 / 19 ∨ hardCapGwei ≤ 450 * edgeMultiplier notionalEth) ∧
      (42500 / 49 ≤ hardCapGwei ∨ 50 / 49 ≤ edgeMultiplier notionalEth) := by
  have share98 := @le_edgeMultiplier_iff notionalEth (50 / 49) (by norm_num)
  have share95 := @le_edgeMultiplier_iff notionalEth (20 / 19) (by norm_num)
  obtain ⟨one, most⟩ := edgeMultiplier_mem notionalEth
  have reach (above : 450 < hardCapGwei) := @le_edgeMultiplier_iff notionalEth (hardCapGwei / 450) (by linarith)
  unfold TiersInOrder
  norm_num at share98 share95 reach most ⊢
  constructor
  · rintro (equal | ⟨large, below, size⟩ | ⟨large, above, below⟩)
    · linarith
    · have m95 : 20 / 19 ≤ edgeMultiplier notionalEth := share95.mpr (by linarith)
      refine ⟨Or.inr m95, ?_, Or.inr (by linarith)⟩
      by_cases small : hardCapGwei ≤ 9000 / 19
      · exact Or.inl small
      · have m := (reach (by linarith)).mpr ⟨by linarith, by linarith⟩
        exact Or.inr (by linarith)
    · exact ⟨Or.inl above, Or.inl below, Or.inr (share98.mpr (by linarith))⟩
  · rintro ⟨lower, middle, upper⟩
    by_cases small : hardCapGwei ≤ 9000 / 19
    · have m98 : 50 / 49 ≤ edgeMultiplier notionalEth := upper.resolve_left (by linarith)
      rcases lower with above | m95
      · exact Or.inr (Or.inr ⟨by linarith [share98.mp m98], above, small⟩)
      · have grown := share95.mp m95
        exact Or.inr (Or.inl ⟨by linarith, by linarith, by linarith⟩)
    · have reached := middle.resolve_left small
      obtain ⟨below, grown⟩ := (reach (by linarith)).mp (by linarith)
      exact Or.inr (Or.inl ⟨by linarith, by linarith, by linarith⟩)

/-- The tiers that are a share of the cap lie between their neighbours. -/
theorem neighbours_iff (admissible : 120 ≤ hardCapGwei) :
    (edgeCap notionalEth hardCapGwei 850 ≤ edgeCap notionalEth hardCapGwei (hardCapGwei * 0.98) ∧
      edgeCap notionalEth hardCapGwei (hardCapGwei * 0.95) ≤ edgeCap notionalEth hardCapGwei 450 ∧
      edgeCap notionalEth hardCapGwei 350 ≤ edgeCap notionalEth hardCapGwei (hardCapGwei * 0.95)) ↔
      TiersInOrder notionalEth hardCapGwei := by
  rcases admissible.eq_or_lt with equal | wide
  · have all {floor floor' : ℚ} : edgeCap notionalEth hardCapGwei floor ≤ edgeCap notionalEth hardCapGwei floor' :=
      edgeCap_le_iff.mpr (Or.inr (Or.inr (Or.inr equal.ge)))
    exact ⟨fun _ => Or.inl equal.symm, fun _ => ⟨all, all, all⟩⟩
  · rw [floor_le_share_iff wide (by norm_num), floor_le_share_iff wide (by norm_num),
      share_le_floor_iff wide (by norm_num) (by norm_num), tiersInOrder_iff wide]
    have cap98 : 850 ≤ hardCapGwei * 0.98 ↔ 42500 / 49 ≤ hardCapGwei := by
      rw [← div_le_iff₀ (by norm_num)]
      norm_num
    have cap95 : 350 ≤ hardCapGwei * 0.95 ↔ 7000 / 19 ≤ hardCapGwei := by
      rw [← div_le_iff₀ (by norm_num)]
      norm_num
    have under95 : hardCapGwei * 0.95 ≤ 450 ↔ hardCapGwei ≤ 9000 / 19 := by
      rw [← le_div_iff₀ (by norm_num)]
      norm_num
    have size98 : 1 ≤ 0.98 * edgeMultiplier notionalEth ↔ 50 / 49 ≤ edgeMultiplier notionalEth := by
      rw [← div_le_iff₀' (by norm_num)]
      norm_num
    have size95 : 1 ≤ 0.95 * edgeMultiplier notionalEth ↔ 20 / 19 ≤ edgeMultiplier notionalEth := by
      rw [← div_le_iff₀' (by norm_num)]
      norm_num
    rw [cap98, cap95, under95, size98, size95]
    exact ⟨fun ⟨upper, middle, lower⟩ => ⟨lower, middle, upper⟩, fun ⟨lower, middle, upper⟩ => ⟨upper, middle, lower⟩⟩

/-- The tiers fall from one to the next. -/
theorem gasCapTiers_falling (admissible : 120 ≤ hardCapGwei) (order : TiersInOrder notionalEth hardCapGwei) :
    ((gasCapTiers notionalEth hardCapGwei).map Prod.snd ++ [idleCap notionalEth hardCapGwei 120]).Pairwise (· ≥ ·) := by
  obtain ⟨one, most⟩ := edgeMultiplier_mem notionalEth
  obtain ⟨least, idle⟩ := idleMultiplier_mem notionalEth
  have edge {floor floor' : ℚ} (le : floor ≤ floor') :
      edgeCap notionalEth hardCapGwei floor ≤ edgeCap notionalEth hardCapGwei floor' := edgeCap_le_iff.mpr (Or.inl le)
  have cross : idleCap notionalEth hardCapGwei 150 ≤ edgeCap notionalEth hardCapGwei 250 :=
    Adaptive.clamp_mono (by norm_num at *; linarith)
  have bottom : idleCap notionalEth hardCapGwei 120 ≤ idleCap notionalEth hardCapGwei 150 :=
    Adaptive.clamp_mono (by norm_num at *; linarith)
  obtain ⟨upper, middle, lower⟩ := (neighbours_iff admissible).mpr order
  have below : hardCapGwei * 0.98 ≤ 1000 := by
    norm_num
    rcases order with equal | ⟨-, below, -⟩ | ⟨-, -, below⟩ <;> linarith
  rw [← List.isChain_iff_pairwise]
  simp only [gasCapTiers, List.map_cons, List.map_nil, List.cons_append, List.nil_append, List.isChain_cons_cons,
    List.isChain_singleton, and_true]
  exact ⟨edge below, upper, edge (by norm_num), middle, lower, edge (by norm_num), edge (by norm_num), cross, bottom⟩

/-- A better estimate never gets a lower cap exactly when the tiers are in order. -/
theorem adaptiveGasCap_monotone_iff (admissible : 120 ≤ hardCapGwei) :
    (∀ ev ev' : ℚ, ev ≤ ev' → ∃ cap cap', adaptiveGasCapGwei ev notionalEth hardCapGwei = some cap ∧
      adaptiveGasCapGwei ev' notionalEth hardCapGwei = some cap' ∧ cap ≤ cap') ↔
      TiersInOrder notionalEth hardCapGwei := by
  constructor
  · intro monotone
    have between {ev ev' : ℚ} (le : ev ≤ ev') :
        Cascade.firstMatch (gasCapTiers notionalEth hardCapGwei) (idleCap notionalEth hardCapGwei 120) ev ≤
          Cascade.firstMatch (gasCapTiers notionalEth hardCapGwei) (idleCap notionalEth hardCapGwei 120) ev' := by
      obtain ⟨cap, cap', found, found', ordered⟩ := monotone ev ev' le
      rw [adaptiveGasCapGwei_eq_tier admissible] at found found'
      rwa [Option.some.inj found, Option.some.inj found']
    have upper := between (by norm_num : (0.10 : ℚ) ≤ 0.14)
    have middle := between (by norm_num : (0.02 : ℚ) ≤ 0.05)
    have lower := between (by norm_num : (0.005 : ℚ) ≤ 0.02)
    norm_num [gasCapTiers, Cascade.firstMatch] at upper middle lower
    exact (neighbours_iff admissible).mp (by norm_num; exact ⟨upper, middle, lower⟩)
  · intro order ev ev' le
    exact ⟨_, _, adaptiveGasCapGwei_eq_tier admissible ev, adaptiveGasCapGwei_eq_tier admissible ev',
      Cascade.firstMatch_monotone (fun _ => gasCapTiers_upward) (gasCapTiers_falling admissible order) le⟩

end

theorem adaptiveGasCap_monotone_sample :
    (120 : ℚ) ≤ 500 ∧ ∀ ev ev' : ℚ, ev ≤ ev' → ∃ cap cap', adaptiveGasCapGwei ev 10 500 = some cap ∧
      adaptiveGasCapGwei ev' 10 500 = some cap' ∧ cap ≤ cap' :=
  ⟨by norm_num, (adaptiveGasCap_monotone_iff (by norm_num)).mpr (Or.inr (Or.inl (by norm_num)))⟩

/-- Under a hard cap of 1000 gwei an estimate of 2.43 cents may pay 950 gwei, and one of 6 cents may pay 450. -/
theorem better_estimate_gets_lower_cap :
    (120 : ℚ) ≤ 1000 ∧ (243 / 10000 : ℚ) ≤ 6 / 100 ∧ adaptiveGasCapGwei (243 / 10000) (1 / 10) 1000 = some 950 ∧
      adaptiveGasCapGwei (6 / 100) (1 / 10) 1000 = some 450 := by
  decide +kernel

end ArbitrageRuntime
