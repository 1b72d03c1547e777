import ArbitrageRuntime.Amm.UniswapV3

namespace ArbitrageRuntime

/-- The net liquidities of the ticks between two points, in the order of the list. -/
def crossedNets (before after : Int) (ticks : List V3Tick) : List Int :=
  (ticks.filter (tickCrossed before after)).map V3Tick.liquidityNet

/-- No addition of the crossing saturates. -/
def CrossingFits (liquidity : Nat) (before after : Int) (ticks : List V3Tick) : Prop :=
  Saturating.Fits u256Max liquidity (crossedNets before after ticks)

instance (liquidity : Nat) (before after : Int) (ticks : List V3Tick) :
    Decidable (CrossingFits liquidity before after ticks) :=
  inferInstanceAs (Decidable (Saturating.Fits _ _ _))

/-- The net liquidity of all ticks up to a point. -/
def netBelow (point : Int) (ticks : List V3Tick) : Int :=
  ((ticks.filter fun tick => tick.index ≤ point).map V3Tick.liquidityNet).sum

/-- The point between `a` and `c` that is nearest to `b`: where a path over `b` turns around. -/
def turningPoint (a b c : Int) : Int := max (min a c) (min b (max a c))

theorem applyCrossedTickLiquidity_eq {liquidity : Nat} {before after : Int} {ticks : List V3Tick}
    (fits : CrossingFits liquidity before after ticks) :
    (applyCrossedTickLiquidity liquidity before after ticks : Int) =
      liquidity + (crossedNets before after ticks).sum := by
  unfold applyCrossedTickLiquidity
  split
  · rename_i same
    have none : ticks.filter (tickCrossed before after) = [] := by
      refine List.filter_eq_nil_iff.mpr fun tick _ => ?_
      simp only [tickCrossed, same, lt_irrefl, if_false, decide_eq_true_eq]
      omega
    simp [crossedNets, none]
  · have fold : (ticks.filter (tickCrossed before after)).foldl crossTick liquidity =
        (crossedNets before after ticks).foldl (Saturating.addSigned u256Max) liquidity := by
      rw [crossedNets, List.foldl_map]
      rfl
    rw [fold, Saturating.foldl_addSigned fits]

/-- Both directions add the net liquidity between the two points: the sign does not turn with the price. -/
theorem sum_crossedNets {before after : Int} (ticks : List V3Tick) :
    (crossedNets before after ticks).sum =
      netBelow (max before after) ticks - netBelow (min before after) ticks := by
  unfold crossedNets netBelow
  induction ticks with
  | nil => rfl
  | cons tick rest ih =>
    have crossed : tickCrossed before after tick =
        decide (min before after < tick.index ∧ tick.index ≤ max before after) := by
      unfold tickCrossed
      split
      · rename_i ascending
        rw [min_eq_left ascending.le, max_eq_right ascending.le]
      · rename_i descending
        rw [min_eq_right (not_lt.mp descending), max_eq_left (not_lt.mp descending)]
        exact decide_eq_decide.mpr and_comm
    have order : min before after ≤ max before after := min_le_max
    simp only [List.filter_cons, crossed, decide_eq_true_eq]
    by_cases low : tick.index ≤ min before after
    · have high : tick.index ≤ max before after := low.trans order
      rw [if_neg (by omega), if_pos high, if_pos low, List.map_cons, List.map_cons, List.sum_cons, List.sum_cons, ih]
      omega
    · by_cases high : tick.index ≤ max before after
      · rw [if_pos (by omega), if_pos high, if_neg low, List.map_cons, List.map_cons, List.sum_cons, List.sum_cons, ih]
        omega
      · rw [if_neg (by omega), if_neg high, if_neg low, ih]

/-- A crossing over `b` ends with the liquidity of the direct one if and only if the ticks that it crosses twice, up to
`b` and back, carry no net liquidity. -/
theorem applyCrossedTickLiquidity_pathIndependent_iff {liquidity : Nat} {a b c : Int} {ticks : List V3Tick}
    (first : CrossingFits liquidity a b ticks)
    (second : CrossingFits (applyCrossedTickLiquidity liquidity a b ticks) b c ticks)
    (direct : CrossingFits liquidity a c ticks) :
    applyCrossedTickLiquidity (applyCrossedTickLiquidity liquidity a b ticks) b c ticks =
        applyCrossedTickLiquidity liquidity a c ticks ↔
      (crossedNets (turningPoint a b c) b ticks).sum = 0 := by
  have toB := applyCrossedTickLiquidity_eq first
  have toC := applyCrossedTickLiquidity_eq second
  have whole := applyCrossedTickLiquidity_eq direct
  rw [sum_crossedNets] at toB toC whole
  rw [sum_crossedNets, ← Int.natCast_inj, toC, toB, whole]
  unfold turningPoint
  -- The six orders of the three points.
  rcases le_total a b with ab | ba
  · rcases le_total b c with bc | cb
    · have ac := ab.trans bc
      simp only [ab, bc, ac, max_eq_right, min_eq_left, max_self, min_self]
      omega
    · rcases le_total a c with ac | ca
      · simp only [ab, cb, ac, max_eq_right, max_eq_left, min_eq_left, min_eq_right]
        omega
      · simp only [ab, cb, ca, max_eq_right, max_eq_left, min_eq_left, min_eq_right]
        omega
  · rcases le_total b c with bc | cb
    · rcases le_total a c with ac | ca
      · simp only [ba, bc, ac, max_eq_right, max_eq_left, min_eq_left, min_eq_right]
        omega
      · simp only [ba, bc, ca, max_eq_right, max_eq_left, min_eq_left, min_eq_right]
        omega
    · have ca := cb.trans ba
      simp only [ba, cb, ca, max_eq_left, max_eq_right, min_eq_left, min_eq_right, max_self, min_self]
      omega

def sampleTicks : List V3Tick := [{ index := 5, liquidityNet := 100 }]

/-- A point on the way does not matter. -/
theorem sampleTicks_pathIndependent : applyCrossedTickLiquidity (applyCrossedTickLiquidity 1000 0 3 sampleTicks) 3 10
    sampleTicks = applyCrossedTickLiquidity 1000 0 10 sampleTicks :=
  (applyCrossedTickLiquidity_pathIndependent_iff (by decide) (by decide) (by decide)).mpr (by decide)

/-- Up over a tick and back down adds its net liquidity twice. -/
theorem sampleTicks_roundTrip : CrossingFits 1000 0 10 sampleTicks ∧
    CrossingFits (applyCrossedTickLiquidity 1000 0 10 sampleTicks) 10 0 sampleTicks ∧
    applyCrossedTickLiquidity (applyCrossedTickLiquidity 1000 0 10 sampleTicks) 10 0 sampleTicks = 1200 ∧
    applyCrossedTickLiquidity 1000 0 0 sampleTicks = 1000 := by
  decide

end ArbitrageRuntime
