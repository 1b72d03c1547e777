import ArbitrageRuntime.Builder.SizingCompletes
import ArbitrageRuntime.Builder.BuildV2

namespace ArbitrageRuntime

/-- A size as the edge sample of the V2 builder sees it: the sign and the size of its edge, in units of the profit
token, and what is reported about it. -/
structure V2EdgeSample where
  positive : Bool
  edgeAbs : Nat
  metadata : EdgeMetadata
  deficit : positive = false → edgeAbs ≠ 0

def V2EdgeSample.signedEdge (sample : V2EdgeSample) : Int :=
  if sample.positive then sample.edgeAbs else -sample.edgeAbs

def V2EdgeSample.replaces (next best : V2EdgeSample) : Bool :=
  (next.positive && !best.positive) ||
    (next.positive == best.positive &&
      if next.positive then decide (best.edgeAbs < next.edgeAbs) else decide (next.edgeAbs < best.edgeAbs))

section Loop

variable (config : Config) (sizing : V2SizingInput) (input : FeeExtractionBuildInput) (priceImpactBps : Nat)
  (status : String)

def v2SampleMetadata (bps amountIn amountOut repayment : Nat) (grossEdgeWei : Int) (grossEdgeNative repaymentNative : ℚ) :
    EdgeMetadata where
  status := status
  gasEstimate := 0
  bestSizeBps := bps
  amountInWei := amountIn
  amountOutWei := amountOut
  grossEdgeWei := grossEdgeWei
  grossEdgeNative := grossEdgeNative
  repaymentWei := repayment
  repaymentNative := repaymentNative
  priceImpactBps := priceImpactBps
  selfSlippageBps := ArbitrageRuntime.priceImpactBps amountIn amountOut sizing.borrowReserve sizing.profitReserve

/-- One fraction of the sample loop. A deficit is converted by its absolute value and reported with a minus sign. -/
def v2EdgeSample (bps : Nat) : Option V2EdgeSample :=
  let amountIn := u256Mul sizing.capitalCap bps / 10000
  if amountIn = 0 ∨ sizing.borrowReserve ≤ amountIn then none
  else do
    let amountOut ← quoteV2RouteExactIn amountIn sizing.routePath sizing.routePools sizing.feeBps
    let repayment ← v2RepaymentAmountInProfitToken sizing.borrowReserve sizing.profitReserve amountIn
    if covered : repayment ≤ amountOut then
      let edgeNativeWei ← tokenAmountToNativeWei config input.tokenIn (amountOut - repayment)
      let repaymentNative ← tokenAmountToNative config input.tokenIn repayment
      some
        { positive := true
          edgeAbs := amountOut - repayment
          metadata := v2SampleMetadata sizing priceImpactBps status bps amountIn amountOut repayment edgeNativeWei
            (weiToEth edgeNativeWei) repaymentNative
          deficit := by simp }
    else
      let edgeNativeWei ← tokenAmountToNativeWei config input.tokenIn (repayment - amountOut)
      let repaymentNative ← tokenAmountToNative config input.tokenIn repayment
      some
        { positive := false
          edgeAbs := repayment - amountOut
          metadata := v2SampleMetadata sizing priceImpactBps status bps amountIn amountOut repayment (-edgeNativeWei)
            (-weiToEth edgeNativeWei) repaymentNative
          deficit := fun _ => by omega }

def bestV2EdgeMetadata (fractionsBps : List Nat) : Option EdgeMetadata :=
  (fractionsBps.foldl (fun best bps =>
    match v2EdgeSample config sizing input priceImpactBps status bps with
    | some sample => PickMax.keepFirst V2EdgeSample.replaces best sample
    | none => best) none).map V2EdgeSample.metadata

end Loop

/-- The edge of a size in native wei, with its sign. -/
def signedNativeWei (config : Config) (token : Address) (amountOut repayment : Nat) : Option Int :=
  if repayment ≤ amountOut then (tokenAmountToNativeWei config token (amountOut - repayment)).map Int.ofNat
  else (tokenAmountToNativeWei config token (repayment - amountOut)).map fun wei : Nat => -(wei : Int)

/-- A size that the sample can evaluate, with its native edge. -/
structure V2SizingInput.Sampled (config : Config) (sizing : V2SizingInput) (bps amountIn amountOut repayment : Nat)
    (edgeWei : Int) : Prop extends sizing.Evaluates bps amountIn amountOut repayment where
  valued : signedNativeWei config sizing.profitToken amountOut repayment = some edgeWei

/-- The sample is about the size of the list with the greatest edge, and no size is missed. -/
def ReportsGreatestEdge (config : Config) (sizing : V2SizingInput) (fractionsBps : List Nat) :
    Option EdgeMetadata → Prop
  | none => ∀ bps ∈ fractionsBps, ∀ amountIn amountOut repayment edgeWei,
      ¬ sizing.Sampled config bps amountIn amountOut repayment edgeWei
  | some sample => sample.bestSizeBps ∈ fractionsBps ∧
      sizing.Sampled config sample.bestSizeBps sample.amountInWei sample.amountOutWei sample.repaymentWei
        sample.grossEdgeWei ∧
      ∀ bps ∈ fractionsBps, ∀ amountIn amountOut repayment edgeWei,
        sizing.Sampled config bps amountIn amountOut repayment edgeWei →
          (amountOut : Int) - repayment ≤ sample.amountOutWei - sample.repaymentWei

/-- The sizing loop completes, finds something exactly when the reported edge is positive, and then the best of what it
finds is the reported edge. -/
def AgreesWithSizing (reported : Option EdgeMetadata) (run : Except BuildStop (List SizeCandidate)) : Prop :=
  ∃ candidates, run = .ok candidates ∧
    (candidates ≠ [] ↔ ∃ sample, reported = some sample ∧ 0 < sample.grossEdgeWei) ∧
    ∀ sample, reported = some sample → candidates ≠ [] →
      (∀ candidate ∈ candidates, (candidate.grossProfitWei : Int) ≤ sample.grossEdgeWei) ∧
        ∃ candidate ∈ candidates, (candidate.grossProfitWei : Int) = sample.grossEdgeWei

/-- Every size that earns something is matched by one that earns as much and whose repayment is a word of native wei. -/
def BestEdgeRepayable (config : Config) (sizing : V2SizingInput) (fractionsBps : List Nat) : Prop :=
  ∀ bps ∈ fractionsBps, ∀ amountIn amountOut repayment edgeWei,
    sizing.Sampled config bps amountIn amountOut repayment edgeWei → 0 < edgeWei →
      ∃ bps' ∈ fractionsBps, ∃ amountIn' amountOut' repayment' edgeWei' token,
        sizing.Sampled config bps' amountIn' amountOut' repayment' edgeWei' ∧ edgeWei ≤ edgeWei' ∧
          tokenMetadata config sizing.profitToken = some token ∧ repayment' * token.weiPerUnit < u256Max + 1

theorem V2EdgeSample.replaces_iff (next best : V2EdgeSample) :
    next.replaces best = true ↔ best.signedEdge < next.signedEdge := by
  have nextDeficit := next.deficit
  have bestDeficit := best.deficit
  unfold replaces signedEdge
  cases nextSign : next.positive with
  | false =>
    cases bestSign : best.positive with
    | false => simp
    | true => simp
  | true =>
    cases bestSign : best.positive with
    | false =>
      have strict := bestDeficit bestSign
      simp
      omega
    | true => simp

section Reported

variable {config : Config} {sizing : V2SizingInput} {input : FeeExtractionBuildInput} {priceImpactBps : Nat}
  {status : String} {bps : Nat}

theorem v2EdgeSample_eq_some {sample : V2EdgeSample} (profit : sizing.profitToken = input.tokenIn)
    (found : v2EdgeSample config sizing input priceImpactBps status bps = some sample) :
    sample.metadata.bestSizeBps = bps ∧
      sizing.Sampled config bps sample.metadata.amountInWei sample.metadata.amountOutWei sample.metadata.repaymentWei
        sample.metadata.grossEdgeWei ∧
      sample.signedEdge = sample.metadata.amountOutWei - sample.metadata.repaymentWei := by
  unfold v2EdgeSample at found
  dsimp only at found
  split at found
  · exact absurd found (by simp)
  · rename_i sized
    rw [not_or, not_le] at sized
    simp only [Option.bind_eq_bind, Option.bind_eq_some_iff] at found
    obtain ⟨amountOut, sold, repayment, repaid, found⟩ := found
    have evaluates : sizing.Evaluates bps (u256Mul sizing.capitalCap bps / 10000) amountOut repayment :=
      ⟨rfl, sized.1, sized.2, sold, repaid⟩
    split at found
    · rename_i covered
      simp only [Option.bind_eq_some_iff] at found
      obtain ⟨edgeNativeWei, valued, repaymentNative, _, found⟩ := found
      cases Option.some.inj found
      refine ⟨rfl, ⟨evaluates, ?_⟩, ?_⟩
      · show signedNativeWei config sizing.profitToken amountOut repayment = some (edgeNativeWei : Int)
        rw [signedNativeWei, if_pos covered, profit, valued]
        rfl
      · simp only [V2EdgeSample.signedEdge, v2SampleMetadata, if_true]
        omega
    · rename_i deficit
      simp only [Option.bind_eq_some_iff] at found
      obtain ⟨edgeNativeWei, valued, repaymentNative, _, found⟩ := found
      cases Option.some.inj found
      refine ⟨rfl, ⟨evaluates, ?_⟩, ?_⟩
      · show signedNativeWei config sizing.profitToken amountOut repayment = some (-(edgeNativeWei : Int))
        rw [signedNativeWei, if_neg deficit, profit, valued]
        rfl
      · simp only [V2EdgeSample.signedEdge, v2SampleMetadata, Bool.false_eq_true, if_false]
        omega

/-- A size has a native value only if the token is known, and then the repayment has a native price. -/
theorem V2SizingInput.Sampled.known {amountIn amountOut repayment : Nat} {edgeWei : Int}
    (sampled : sizing.Sampled config bps amountIn amountOut repayment edgeWei) :
    ∃ token, tokenMetadata config sizing.profitToken = some token := by
  have valued := sampled.valued
  cases known : tokenMetadata config sizing.profitToken with
  | some token => exact ⟨token, rfl⟩
  | none => simp [signedNativeWei, tokenAmountToNativeWei, tokenAmountToNative, known] at valued

variable (priceImpactBps status) in
theorem v2EdgeSample_of_sampled {amountIn amountOut repayment : Nat} {edgeWei : Int}
    (profit : sizing.profitToken = input.tokenIn)
    (sampled : sizing.Sampled config bps amountIn amountOut repayment edgeWei) :
    ∃ sample, v2EdgeSample config sizing input priceImpactBps status bps = some sample ∧
      sample.metadata.amountOutWei = amountOut ∧ sample.metadata.repaymentWei = repayment := by
  obtain ⟨token, known⟩ := sampled.known
  have valued := sampled.valued
  have guard : ¬ (amountIn = 0 ∨ sizing.borrowReserve ≤ amountIn) := by
    rw [not_or, not_le]
    exact ⟨sampled.nonzero, sampled.lent⟩
  have priced : tokenAmountToNative config input.tokenIn repayment =
      some (repayment / 10 ^ token.decimals * token.priceEth) := by
    rw [← profit]
    simp only [tokenAmountToNative, known, Option.bind_eq_bind, Option.bind_some]
  unfold signedNativeWei at valued
  rw [profit] at valued
  split at valued
  · rename_i covered
    obtain ⟨wei, found, _⟩ := Option.map_eq_some_iff.mp valued
    simp [v2EdgeSample, ← sampled.size, guard, sampled.sold, sampled.repaid, covered, found, priced, v2SampleMetadata]
  · rename_i deficit
    obtain ⟨wei, found, _⟩ := Option.map_eq_some_iff.mp valued
    simp [v2EdgeSample, ← sampled.size, guard, sampled.sold, sampled.repaid, deficit, found, priced, v2SampleMetadata]

variable (config priceImpactBps status) in
/-- The sample loop reports the greatest signed edge, whatever the prices are. -/
theorem bestV2EdgeMetadata_reportsGreatest (profit : sizing.profitToken = input.tokenIn) (fractionsBps : List Nat) :
    ReportsGreatestEdge config sizing fractionsBps
      (bestV2EdgeMetadata config sizing input priceImpactBps status fractionsBps) := by
  have search : bestV2EdgeMetadata config sizing input priceImpactBps status fractionsBps =
      (PickMax.pickFirst V2EdgeSample.replaces
        (fractionsBps.filterMap (v2EdgeSample config sizing input priceImpactBps status))).map V2EdgeSample.metadata := by
    rw [PickMax.pickFirst, List.foldl_filterMap, bestV2EdgeMetadata]
    congr 2
    funext best bps
    split <;> simp_all
  rw [search]
  by_cases none : fractionsBps.filterMap (v2EdgeSample config sizing input priceImpactBps status) = []
  · rw [none]
    intro bps inside amountIn amountOut repayment edgeWei sampled
    obtain ⟨sample, found, _⟩ := v2EdgeSample_of_sampled priceImpactBps status profit sampled
    exact absurd (List.mem_filterMap.mpr ⟨bps, inside, found⟩) (by simp [none])
  · obtain ⟨sample, member, found, greatest⟩ := PickMax.pickFirst_spec V2EdgeSample.replaces_iff none
    rw [found]
    obtain ⟨bps, inside, visited⟩ := List.mem_filterMap.mp member
    obtain ⟨size, sampled, signed⟩ := v2EdgeSample_eq_some profit visited
    rw [← size] at inside sampled
    refine ⟨inside, sampled, ?_⟩
    intro bps' inside' amountIn amountOut repayment edgeWei other
    obtain ⟨next, nextFound, sold, repaid⟩ := v2EdgeSample_of_sampled priceImpactBps status profit other
    have order := greatest next (List.mem_filterMap.mpr ⟨bps', inside', nextFound⟩)
    obtain ⟨_, _, nextSigned⟩ := v2EdgeSample_eq_some profit nextFound
    rwa [signed, nextSigned, sold, repaid] at order

/-- A greater edge is never worth less, when the price is not negative. -/
theorem signedNativeWei_mono {profitToken : Address} {token : MonitoredTokenConfig} {small large : Int}
    {amountOut repayment amountOut' repayment' : Nat} (known : tokenMetadata config profitToken = some token)
    (price : 0 ≤ token.weiPerUnit) (first : signedNativeWei config profitToken amountOut repayment = some small)
    (second : signedNativeWei config profitToken amountOut' repayment' = some large)
    (order : (amountOut : Int) - repayment ≤ amountOut' - repayment') : small ≤ large := by
  have conversion : ∀ {less more lessWei moreWei : Nat}, less ≤ more →
      tokenAmountToNativeWei config profitToken less = some lessWei →
      tokenAmountToNativeWei config profitToken more = some moreWei → lessWei ≤ moreWei := by
    intro less more lessWei moreWei amounts lessFound moreFound
    rw [tokenAmountToNativeWei_eq known] at lessFound moreFound
    have values : (less : ℚ) * token.weiPerUnit ≤ more * token.weiPerUnit :=
      mul_le_mul_of_nonneg_right (by exact_mod_cast amounts) price
    obtain ⟨wei, bound, found⟩ := Rounding.floorWithin_mono (mul_nonneg (Nat.cast_nonneg _) price) values moreFound
    rwa [Option.some.inj (lessFound.symm.trans found)]
  unfold signedNativeWei at first second
  split at first
  · rename_i covered
    split at second
    · rename_i covered'
      obtain ⟨wei, found, same⟩ := Option.map_eq_some_iff.mp first
      obtain ⟨wei', found', same'⟩ := Option.map_eq_some_iff.mp second
      have bound := conversion (by omega) found found'
      rw [← same, ← same']
      exact Int.ofNat_le.mpr bound
    · omega
  · rename_i deficit
    obtain ⟨wei, found, same⟩ := Option.map_eq_some_iff.mp first
    split at second
    · obtain ⟨wei', found', same'⟩ := Option.map_eq_some_iff.mp second
      simp only [Int.ofNat_eq_natCast] at same'
      omega
    · rename_i deficit'
      obtain ⟨wei', found', same'⟩ := Option.map_eq_some_iff.mp second
      have bound := conversion (by omega) found' found
      omega

/-- A positive edge is what the sale leaves after the repayment, in native wei. -/
theorem signedNativeWei_eq_natCast {token : Address} {amountOut repayment gross : Nat} (positive : gross ≠ 0) :
    signedNativeWei config token amountOut repayment = some (gross : Int) ↔
      repayment ≤ amountOut ∧ tokenAmountToNativeWei config token (amountOut - repayment) = some gross := by
  unfold signedNativeWei
  split
  · rename_i covered
    rw [Option.map_eq_some_iff]
    constructor
    · rintro ⟨wei, found, same⟩
      cases Int.ofNat.inj same
      exact ⟨covered, found⟩
    · rintro ⟨_, found⟩
      exact ⟨gross, found, rfl⟩
  · rename_i deficit
    refine iff_of_false (fun valued => ?_) fun covered => deficit covered.1
    obtain ⟨wei, _, same⟩ := Option.map_eq_some_iff.mp valued
    omega

theorem tokenAmountToNativeWei_nothing {token : Address} {wei : Nat}
    (found : tokenAmountToNativeWei config token 0 = some wei) : wei = 0 := by
  cases known : tokenMetadata config token with
  | none => simp [tokenAmountToNativeWei, tokenAmountToNative, known] at found
  | some metadata =>
    rw [tokenAmountToNativeWei_eq known, Nat.cast_zero, zero_mul] at found
    obtain ⟨_, _, lower, _⟩ := Rounding.floorWithin_eq_some found
    exact Nat.le_zero.mp (by exact_mod_cast lower)

/-- What the sizing loop pushes in scavenger mode: a size with a positive edge whose repayment has a native value. -/
theorem candidate_pushed_iff (scavenging : sizing.scavenger = true) {grossWei : Nat} :
    (∃ candidate, sizing.candidate config bps = .ok (some candidate) ∧ candidate.grossProfitWei = grossWei) ↔
      ∃ amountIn amountOut repayment repaymentWei,
        sizing.Sampled config bps amountIn amountOut repayment grossWei ∧ grossWei ≠ 0 ∧
          tokenAmountToNativeWei config sizing.profitToken repayment = some repaymentWei ∧ repaymentWei ≠ 0 := by
  have net : ∀ gross, sizing.netOf gross = gross := fun gross => by simp [V2SizingInput.netOf, scavenging]
  constructor
  · rintro ⟨candidate, pushed, rfl⟩
    by_cases evaluable : ∃ amountIn amountOut repayment, sizing.Evaluates bps amountIn amountOut repayment
    · obtain ⟨amountIn, amountOut, repayment, evaluates⟩ := evaluable
      rw [V2SizingInput.candidate_of_evaluates evaluates] at pushed
      split at pushed
      · rename_i gross repaymentWei grossFound repaymentFound
        rw [net] at pushed
        split at pushed
        · exact absurd pushed (by simp)
        · rename_i earns
          split at pushed
          · exact absurd pushed (by simp)
          · rename_i worth
            cases Option.some.inj (Except.ok.inj pushed)
            have covered : repayment ≤ amountOut := by
              by_contra deficit
              rw [Nat.sub_eq_zero_of_le (not_le.mp deficit).le] at grossFound
              exact earns (tokenAmountToNativeWei_nothing grossFound)
            exact ⟨amountIn, amountOut, repayment, repaymentWei,
              ⟨evaluates, (signedNativeWei_eq_natCast earns).mpr ⟨covered, grossFound⟩⟩, earns, repaymentFound, worth⟩
      · exact absurd pushed (by simp)
    · push Not at evaluable
      rw [V2SizingInput.candidate_of_not_evaluates evaluable] at pushed
      exact absurd pushed (by simp)
  · rintro ⟨amountIn, amountOut, repayment, repaymentWei, sampled, earns, repaymentFound, worth⟩
    have grossFound := ((signedNativeWei_eq_natCast earns).mp sampled.valued).2
    refine ⟨sizing.pushed bps amountIn amountOut grossWei repayment repaymentWei, ?_, rfl⟩
    rw [V2SizingInput.candidate_of_evaluates sampled.toEvaluates]
    simp only [grossFound, repaymentFound, net, if_neg earns, if_neg worth]

theorem mem_feeExtractionV2SizeCandidates {fractionsBps : List Nat} {candidates : List SizeCandidate}
    (run : feeExtractionV2SizeCandidates config sizing fractionsBps = .ok candidates) {candidate : SizeCandidate} :
    candidate ∈ candidates ↔ ∃ bps ∈ fractionsBps, sizing.candidate config bps = .ok (some candidate) := by
  rw [feeExtractionV2SizeCandidates_eq_collect] at run
  constructor
  · exact Collect.collect_mem run
  · rintro ⟨bps, inside, pushed⟩
    exact Collect.collect_pushes run inside pushed

/-- A repayment that divides the profit, and whose value is a word. -/
theorem repayment_worth {amountIn amountOut repayment : Nat} {edgeWei : Int} {token : MonitoredTokenConfig}
    (scavenging : sizing.scavenger = true) (price : 0 ≤ token.weiPerUnit)
    (worth : ¬ sizing.RepaymentBelowOneWei config bps)
    (sampled : sizing.Sampled config bps amountIn amountOut repayment edgeWei) (earns : 0 < edgeWei)
    (known : tokenMetadata config sizing.profitToken = some token)
    (fits : repayment * token.weiPerUnit < u256Max + 1) :
    ∃ repaymentWei, tokenAmountToNativeWei config sizing.profitToken repayment = some repaymentWei ∧
      repaymentWei ≠ 0 := by
  obtain ⟨repaymentWei, found⟩ := Rounding.floorWithin_of_lt (mul_nonneg (Nat.cast_nonneg repayment) price) fits
  refine ⟨repaymentWei, (tokenAmountToNativeWei_eq known repayment).trans found, fun zero => worth ?_⟩
  obtain ⟨_, _, _, small⟩ := Rounding.floorWithin_eq_some found
  rw [zero, Nat.cast_zero, zero_add] at small
  have owed : sizing.owedWei = 0 := if_pos scavenging
  obtain ⟨gross, rfl⟩ := Int.eq_ofNat_of_zero_le earns.le
  have grossFound := ((signedNativeWei_eq_natCast (by omega)).mp sampled.valued).2
  rw [tokenAmountToNativeWei_eq known] at grossFound
  obtain ⟨_, grossFits, lower, upper⟩ := Rounding.floorWithin_eq_some grossFound
  have positive : (1 : ℚ) ≤ gross := by exact_mod_cast (by omega : 1 ≤ gross)
  have top : (gross + 1 : ℚ) ≤ u256Max + 1 := by exact_mod_cast Nat.succ_le_succ grossFits
  refine ⟨amountIn, amountOut, repayment, token, sampled.toEvaluates, known, ?_, upper.trans_le top, small⟩
  rw [owed, Nat.cast_zero, zero_add]
  exact positive.trans lower

theorem weiPerUnit_nonneg {token : Address} {metadata : MonitoredTokenConfig}
    (prices : ∀ token ∈ config.monitoredTokens, 0 ≤ token.priceEth)
    (known : tokenMetadata config token = some metadata) : 0 ≤ metadata.weiPerUnit := by
  have price := prices metadata (List.mem_of_find?_eq_some known)
  have scale : (0 : ℚ) < weiPerEth := by norm_num [weiPerEth]
  unfold MonitoredTokenConfig.weiPerUnit
  positivity

/-- Every size of the list is reported or earns no more than the one that is. -/
theorem ReportsGreatestEdge.edge_le {reported : Option EdgeMetadata} {fractionsBps : List Nat}
    {amountIn amountOut repayment : Nat} {edgeWei : Int}
    (prices : ∀ token ∈ config.monitoredTokens, 0 ≤ token.priceEth)
    (reports : ReportsGreatestEdge config sizing fractionsBps reported) (inside : bps ∈ fractionsBps)
    (sampled : sizing.Sampled config bps amountIn amountOut repayment edgeWei) :
    ∃ sample, reported = some sample ∧ edgeWei ≤ sample.grossEdgeWei := by
  cases reported with
  | none => exact absurd sampled (reports bps inside amountIn amountOut repayment edgeWei)
  | some sample =>
    obtain ⟨_, best, greatest⟩ := reports
    obtain ⟨token, known⟩ := sampled.known
    have order := greatest bps inside amountIn amountOut repayment edgeWei sampled
    exact ⟨sample, rfl, signedNativeWei_mono known (weiPerUnit_nonneg prices known) sampled.valued best.valued order⟩

section Agreement

variable {reported : Option EdgeMetadata} {fractionsBps : List Nat}
  (prices : ∀ token ∈ config.monitoredTokens, 0 ≤ token.priceEth) (scavenging : sizing.scavenger = true)
  (reports : ReportsGreatestEdge config sizing fractionsBps reported)

include prices scavenging reports

/-- No candidate earns more than what is reported. -/
theorem candidate_le_reported {candidates : List SizeCandidate}
    (run : feeExtractionV2SizeCandidates config sizing fractionsBps = .ok candidates) {candidate : SizeCandidate}
    (pushed : candidate ∈ candidates) :
    candidate.grossProfitWei ≠ 0 ∧
      ∃ sample, reported = some sample ∧ (candidate.grossProfitWei : Int) ≤ sample.grossEdgeWei := by
  obtain ⟨bps, inside, visited⟩ := (mem_feeExtractionV2SizeCandidates run).mp pushed
  obtain ⟨amountIn, amountOut, repayment, repaymentWei, sampled, earns, _⟩ :=
    (candidate_pushed_iff scavenging).mp ⟨candidate, visited, rfl⟩
  exact ⟨earns, reports.edge_le prices inside sampled⟩

/-- The sample and the sizing loop agree when no profitable size divides by zero and a best one has a repayment of one
word of native wei. -/
theorem agreesWithSizing_of_repayable (worth : ∀ bps ∈ fractionsBps, ¬ sizing.RepaymentBelowOneWei config bps)
    (repayable : BestEdgeRepayable config sizing fractionsBps) :
    AgreesWithSizing reported (feeExtractionV2SizeCandidates config sizing fractionsBps) := by
  have completes : ∃ candidates, feeExtractionV2SizeCandidates config sizing fractionsBps = .ok candidates := by
    rw [feeExtractionV2SizeCandidates_eq_collect, Collect.collect_completes_iff]
    intro bps inside stop stopped
    exact worth bps inside (V2SizingInput.candidate_stops_iff.mp ⟨stop, stopped⟩)
  obtain ⟨candidates, run⟩ := completes
  -- A reported positive edge has a candidate that earns as much.
  have found : ∀ sample, reported = some sample → 0 < sample.grossEdgeWei →
      ∃ candidate ∈ candidates, (candidate.grossProfitWei : Int) = sample.grossEdgeWei := by
    rintro sample rfl positive
    have parts := reports
    obtain ⟨inside, best, _⟩ := parts
    obtain ⟨bps, listed, amountIn, amountOut, repayment, edgeWei, token, sampled, atLeast, known, fits⟩ :=
      repayable sample.bestSizeBps inside _ _ _ _ best positive
    obtain ⟨repaymentWei, repaymentFound, nonzero⟩ := repayment_worth scavenging (weiPerUnit_nonneg prices known)
      (worth bps listed) sampled (positive.trans_le atLeast) known fits
    obtain ⟨gross, rfl⟩ := Int.eq_ofNat_of_zero_le (positive.trans_le atLeast).le
    obtain ⟨candidate, visited, same⟩ := (candidate_pushed_iff scavenging).mpr
      ⟨amountIn, amountOut, repayment, repaymentWei, sampled, by omega, repaymentFound, nonzero⟩
    have pushed := (mem_feeExtractionV2SizeCandidates run).mpr ⟨bps, listed, visited⟩
    obtain ⟨_, sample', reported', bound⟩ := candidate_le_reported prices scavenging reports run pushed
    cases reported'
    exact ⟨candidate, pushed, by omega⟩
  refine ⟨candidates, run, ⟨?_, ?_⟩, ?_⟩
  · intro nonempty
    obtain ⟨candidate, pushed⟩ := List.exists_mem_of_ne_nil candidates nonempty
    obtain ⟨earns, sample, same, bound⟩ := candidate_le_reported prices scavenging reports run pushed
    exact ⟨sample, same, by omega⟩
  · rintro ⟨sample, same, positive⟩
    obtain ⟨candidate, pushed, _⟩ := found sample same positive
    exact List.ne_nil_of_mem pushed
  · intro sample same nonempty
    have bounded : ∀ candidate ∈ candidates, (candidate.grossProfitWei : Int) ≤ sample.grossEdgeWei := by
      intro candidate pushed
      obtain ⟨_, sample', same', bound⟩ := candidate_le_reported prices scavenging reports run pushed
      cases same.symm.trans same'
      exact bound
    obtain ⟨candidate, pushed⟩ := List.exists_mem_of_ne_nil candidates nonempty
    obtain ⟨earns, _⟩ := candidate_le_reported prices scavenging reports run pushed
    have positive : 0 < sample.grossEdgeWei := lt_of_lt_of_le (by omega) (bounded candidate pushed)
    exact ⟨bounded, found sample same positive⟩

/-- An agreement needs both: the loop has to complete, and the best of its candidates repays within a word. -/
theorem repayable_of_agreesWithSizing
    (agrees : AgreesWithSizing reported (feeExtractionV2SizeCandidates config sizing fractionsBps)) :
    (∀ bps ∈ fractionsBps, ¬ sizing.RepaymentBelowOneWei config bps) ∧
      BestEdgeRepayable config sizing fractionsBps := by
  obtain ⟨candidates, run, nonempty, greatest⟩ := agrees
  constructor
  · have completes : ∃ ys, Collect.collect (sizing.candidate config) fractionsBps = .ok ys :=
      ⟨candidates, (feeExtractionV2SizeCandidates_eq_collect config sizing fractionsBps).symm.trans run⟩
    intro bps inside worthless
    obtain ⟨stop, stopped⟩ := V2SizingInput.candidate_stops_iff.mpr worthless
    exact Collect.collect_completes_iff.mp completes bps inside stop stopped
  · intro bps inside amountIn amountOut repayment edgeWei sampled earns
    obtain ⟨sample, same, bound⟩ := reports.edge_le prices inside sampled
    obtain ⟨_, candidate, pushed, equal⟩ := greatest sample same (nonempty.mpr ⟨sample, same, by omega⟩)
    obtain ⟨bps', inside', visited⟩ := (mem_feeExtractionV2SizeCandidates run).mp pushed
    obtain ⟨amountIn', amountOut', repayment', repaymentWei, sampled', _, repaid, _⟩ :=
      (candidate_pushed_iff scavenging).mp ⟨candidate, visited, rfl⟩
    obtain ⟨token, known⟩ := sampled'.known
    rw [tokenAmountToNativeWei_eq known] at repaid
    obtain ⟨_, fits, _, upper⟩ := Rounding.floorWithin_eq_some repaid
    have top : (repaymentWei + 1 : ℚ) ≤ u256Max + 1 := by exact_mod_cast Nat.succ_le_succ fits
    exact ⟨bps', inside', amountIn', amountOut', repayment', candidate.grossProfitWei, token, sampled',
      bound.trans equal.ge, known, upper.trans_le top⟩

end Agreement

end Reported

/-- The two loops of the V2 builder tell the same story if and only if no profitable size divides by zero and some size
with the best edge has a repayment that fits a word of native wei. The sizing loop alone asks for either. -/
theorem bestV2EdgeMetadata_agrees_iff {config : Config} {sizing : V2SizingInput} {input : FeeExtractionBuildInput}
    (prices : ∀ token ∈ config.monitoredTokens, 0 ≤ token.priceEth) (profit : sizing.profitToken = input.tokenIn)
    (scavenging : sizing.scavenger = true) (priceImpactBps : Nat) (status : String) (fractionsBps : List Nat) :
    (ReportsGreatestEdge config sizing fractionsBps
        (bestV2EdgeMetadata config sizing input priceImpactBps status fractionsBps) ∧
      AgreesWithSizing (bestV2EdgeMetadata config sizing input priceImpactBps status fractionsBps)
        (feeExtractionV2SizeCandidates config sizing fractionsBps)) ↔
      (∀ bps ∈ fractionsBps, ¬ sizing.RepaymentBelowOneWei config bps) ∧
        BestEdgeRepayable config sizing fractionsBps := by
  have reports := bestV2EdgeMetadata_reportsGreatest config priceImpactBps status profit fractionsBps
  constructor
  · rintro ⟨_, agrees⟩
    exact repayable_of_agreesWithSizing prices scavenging reports agrees
  · rintro ⟨worth, repayable⟩
    exact ⟨reports, agreesWithSizing_of_repayable prices scavenging reports worth repayable⟩

/-- At the price of an ether the same sizes agree. -/
theorem etherSizing_agrees :
    ReportsGreatestEdge testConfig pennySizing [1000]
        (bestV2EdgeMetadata testConfig pennySizing secondPairInput 0 "blocked" [1000]) ∧
      AgreesWithSizing (bestV2EdgeMetadata testConfig pennySizing secondPairInput 0 "blocked" [1000])
        (feeExtractionV2SizeCandidates testConfig pennySizing [1000]) := by
  have known : tokenMetadata testConfig pennySizing.profitToken = some { address := 1, decimals := 18, priceEth := 1 } := by
    simp [tokenMetadata, testConfig, pennySizing]
  have unit : MonitoredTokenConfig.weiPerUnit { address := 1, decimals := 18, priceEth := 1 } = 1 := by
    norm_num [MonitoredTokenConfig.weiPerUnit, weiPerEth]
  refine (bestV2EdgeMetadata_agrees_iff (by decide +kernel) rfl rfl 0 "blocked" [1000]).mpr ⟨?_, ?_⟩
  · rintro bps _ ⟨amountIn, amountOut, repayment, token, evaluates, known', _, _, small⟩
    cases Option.some.inj (known.symm.trans known')
    rw [unit, mul_one] at small
    have zero : repayment < 1 := by exact_mod_cast small
    exact evaluates.repayment_ne_zero (Nat.lt_one_iff.mp zero)
  · intro bps inside amountIn amountOut repayment edgeWei sampled _
    cases List.mem_singleton.mp inside
    refine ⟨1000, inside, amountIn, amountOut, repayment, edgeWei, _, sampled, le_rfl, known, ?_⟩
    obtain ⟨_, _, two⟩ := pennySizing_evaluates.unique sampled.toEvaluates
    rw [unit, two]
    norm_num [u256Max]

/-- The sample reports an edge of 49 wei, and the sizing loop does not come to an end. -/
theorem pennySample_disagrees : ∃ sample,
    bestV2EdgeMetadata pennyConfig pennySizing secondPairInput 0 "blocked" [1000] = some sample ∧
      sample.grossEdgeWei = 49 ∧
      ¬ AgreesWithSizing (some sample) (feeExtractionV2SizeCandidates pennyConfig pennySizing [1000]) := by
  have edge : (bestV2EdgeMetadata pennyConfig pennySizing secondPairInput 0 "blocked" [1000]).map
      EdgeMetadata.grossEdgeWei = some 49 := by decide +kernel
  obtain ⟨sample, reported, gross⟩ := Option.map_eq_some_iff.mp edge
  refine ⟨sample, reported, gross, ?_⟩
  rintro ⟨candidates, run, _⟩
  rw [feeExtractionV2SizeCandidates_eq_collect, Collect.collect, pennySizing_stops] at run
  exact absurd run (by simp)

end ArbitrageRuntime
