import ArbitrageRuntime.Replay.Stages
import ArbitrageRuntime.Lib.AbiDecoder
import Mathlib.Data.List.Forall2

namespace ArbitrageRuntime.Replay

/-- A profitable case that was not executed. -/
def missed (case : ReplayInputCase) (row : ReplayDecisionRow) : Bool := case.profitable && row.decision ≠ "execute"

/-- The row is about the case. -/
def ReplayDecisionRow.IsFor (case : ReplayInputCase) (row : ReplayDecisionRow) : Prop :=
  row.txHash = case.txHash.getD "synthetic"

def Tally.count (tally : Tally) (case : ReplayInputCase) (row : ReplayDecisionRow) : Tally :=
  { tally with
    labelled := tally.labelled + 1
    falseNegative := tally.falseNegative + (missed case row).toNat
    rows := tally.rows ++ [row] }

/-- Every case has a label and a row of its own, and every profitable case without an execution is a false negative of
the tuning. -/
structure CountsEveryCase (tuning : ReplayTuning) (cases : List ReplayInputCase)
    (output : ReplaySettings.ReplayRunOutput) : Prop where
  labels : output.report.truePositive + output.report.falsePositive + output.report.trueNegative +
    output.report.falseNegative = output.report.total
  rows : List.Forall₂ ReplayDecisionRow.IsFor cases output.decisionRows
  misses : (ReplayTuningResult.fromReport tuning output.report).falseNegative =
    (cases.zip output.decisionRows).countP fun entry => missed entry.1 entry.2

theorem labelled_observeLabeledOutcome (report : ReplayReport) (executed : Bool) (case : ReplayInputCase) :
    (report.observeLabeledOutcome executed case).labelled = report.labelled + 1 := by
  unfold ReplayReport.observeLabeledOutcome ReplayReport.labelled
  split
  all_goals
    dsimp only
    omega

theorem falseNegative_observeLabeledOutcome (report : ReplayReport) (executed : Bool) (case : ReplayInputCase) :
    (report.observeLabeledOutcome executed case).falseNegative =
      report.falseNegative + (!executed && case.profitable).toNat := by
  unfold ReplayReport.observeLabeledOutcome
  cases executed
  all_goals
    cases case.profitable
    all_goals rfl

theorem total_observeLabeledOutcome (report : ReplayReport) (executed : Bool) (case : ReplayInputCase) :
    (report.observeLabeledOutcome executed case).total = report.total := by
  unfold ReplayReport.observeLabeledOutcome
  split
  all_goals rfl

/-- A change of the report that keeps its labels. -/
structure KeepsLabels (change : ReplayReport → ReplayReport) : Prop where
  total : ∀ report, (change report).total = report.total
  truePositive : ∀ report, (change report).truePositive = report.truePositive
  falsePositive : ∀ report, (change report).falsePositive = report.falsePositive
  trueNegative : ∀ report, (change report).trueNegative = report.trueNegative
  falseNegative : ∀ report, (change report).falseNegative = report.falseNegative

theorem KeepsLabels.labelled {change : ReplayReport → ReplayReport} (keeps : KeepsLabels change)
    (report : ReplayReport) : (change report).labelled = report.labelled := by
  simp only [ReplayReport.labelled, keeps.truePositive, keeps.falsePositive, keeps.trueNegative, keeps.falseNegative]

namespace ReplayState

variable (state : ReplayState) (decoded : DecodedCase)

/-- A label and a row, whatever else the report learns. -/
theorem tally_of_label {change : ReplayReport → ReplayReport} (keeps : KeepsLabels change) (executed : Bool)
    (case : ReplayInputCase) {row : ReplayDecisionRow} (decision : executed = (row.decision == "execute")) :
    ReplayState.tally
        { state with
          report := change (state.report.observeLabeledOutcome executed case)
          decisionRows := state.decisionRows ++ [row] } =
      state.tally.count case row := by
  have dropped : missed case row = (!executed && case.profitable) := by
    simp only [missed, decision, Bool.and_comm, ne_eq, decide_not, beq_eq_decide]
  apply Tally.ext
  · exact (keeps.total _).trans (total_observeLabeledOutcome _ _ _)
  · exact (keeps.labelled _).trans (labelled_observeLabeledOutcome _ _ _)
  · rw [Tally.count, dropped]
    exact (keeps.falseNegative _).trans (falseNegative_observeLabeledOutcome _ _ _)
  · rfl
  · rfl

theorem tally_reject (gasLimit : Nat) (key stage reason : String) :
    (state.reject decoded gasLimit key stage reason).tally =
      state.tally.count decoded.case (.reject decoded.case stage reason) := by
  have keeps : KeepsLabels fun report => ((report.observeRejectGas decoded.gasPrice gasLimit).bump
      key).observeToxicityReject decoded.signal decoded.hourUtc decoded.case stage := by
    constructor
    all_goals
      intro report
      simp only [ReplayReport.observeRejectGas, ReplayReport.bump, ReplayReport.observeToxicityReject,
        ReplayReport.observeToxicity]
  exact state.tally_of_label keeps false decoded.case (by simp [ReplayDecisionRow.reject])

theorem tally_execute (payload : ExecutionPayload) (quote : Adaptive.AdaptiveQuote) :
    (state.execute decoded payload quote).tally =
      state.tally.count decoded.case (.execute decoded.case payload.expectedProfitWei quote) := by
  have keeps : KeepsLabels fun report => (report.observeRealized decoded.case).observeToxicityExecute decoded.signal
      payload.pair decoded.hourUtc decoded.case payload.expectedProfitWei := by
    constructor
    all_goals
      intro report
      simp only [ReplayReport.observeRealized, ReplayReport.observeToxicityExecute, ReplayReport.observeToxicity]
  exact state.tally_of_label keeps true decoded.case (by simp [ReplayDecisionRow.execute])

end ReplayState

namespace ReplaySettings

variable {settings : ReplaySettings} {readings : CaseReadings} {state after : ReplayState} {decoded : DecodedCase}
  {payload : ExecutionPayload}

/-- A stage has counted the case: it has added one label and one row. -/
def Counted (state after : ReplayState) (case : ReplayInputCase) : Prop :=
  ∃ row, ReplayDecisionRow.IsFor case row ∧ after.tally = state.tally.count case row

theorem counted_reject (gasLimit : Nat) (key stage reason : String) :
    Counted state (state.reject decoded gasLimit key stage reason) decoded.case :=
  ⟨.reject decoded.case stage reason, rfl, state.tally_reject decoded gasLimit key stage reason⟩

theorem counted_execute (quote : Adaptive.AdaptiveQuote) :
    Counted state (state.execute decoded payload quote) decoded.case :=
  ⟨.execute decoded.case payload.expectedProfitWei quote, rfl, state.tally_execute decoded payload quote⟩

/-- A verdict on a case is counted, unless the lock is poisoned. -/
theorem counted_of_verdict {passes : Bool} (verdict : state.Verdict decoded passes after)
    (healthy : state.adaptive.poisoned = false) : Counted state after decoded.case := by
  cases verdict with
  | reject noted =>
    obtain ⟨row, named, tally⟩ : Counted _ _ decoded.case := counted_reject _ _ _ _
    exact ⟨row, named, tally.trans (by rw [noted.tally])⟩
  | locked _ poisoned => exact absurd (healthy.symm.trans poisoned) (by simp)
  | execute noted =>
    obtain ⟨row, named, tally⟩ : Counted _ _ decoded.case := counted_execute _
    exact ⟨row, named, tally.trans (by rw [noted.tally])⟩

/-- One case: it is counted, or only the total moves. -/
theorem tally_replayCase {index : Nat} {case : ReplayInputCase}
    (ran : settings.replayCase index readings state case = .ok after) (healthy : state.adaptive.poisoned = false) :
    if settings.isCounted index case then
      ∃ row, ReplayDecisionRow.IsFor case row ∧ after.tally = state.tally.skip.count case row
    else after.tally = state.tally.skip := by
  obtain ⟨dropped, _, tally, _⟩ | ⟨counts, decoded, entered, about, tally, _, verdict⟩ := replayCase_ends ran
  · rw [if_neg (by simp [dropped])]
    exact tally
  · rw [if_pos counts]
    have still : entered.adaptive.poisoned = false := (congrArg Tally.poisoned tally).trans healthy
    have counted := counted_of_verdict verdict still
    rw [Counted, about, tally] at counted
    exact counted

/-- The cases of a run that are counted. -/
def countedCases (settings : ReplaySettings) (index : Nat) (cases : List ReplayInputCase) : List ReplayInputCase :=
  ((cases.zipIdx index).filter fun entry => settings.isCounted entry.2 entry.1).map Prod.fst

theorem countedCases_cons (settings : ReplaySettings) (index : Nat) (case : ReplayInputCase)
    (cases : List ReplayInputCase) :
    settings.countedCases index (case :: cases) =
      if settings.isCounted index case then case :: settings.countedCases (index + 1) cases
      else settings.countedCases (index + 1) cases := by
  unfold countedCases
  rw [List.zipIdx_cons, List.filter_cons]
  split
  · rfl
  · rfl

theorem length_countedCases (settings : ReplaySettings) (index : Nat) (cases : List ReplayInputCase) :
    (settings.countedCases index cases).length = cases.length ↔
      ∀ entry ∈ cases.zipIdx index, settings.isCounted entry.2 entry.1 := by
  have length : (cases.zipIdx index).length = cases.length := List.length_zipIdx
  rw [countedCases, List.length_map, ← length, List.length_filter_eq_length_iff]

theorem countedCases_eq {settings : ReplaySettings} {index : Nat} {cases : List ReplayInputCase}
    (all : ∀ entry ∈ cases.zipIdx index, settings.isCounted entry.2 entry.1) :
    settings.countedCases index cases = cases := by
  rw [countedCases, List.filter_eq_self.mpr all, List.zipIdx_map_fst]

/-- A run counts the counted cases, each once and in order, and no other. -/
theorem tally_replayCasesFrom {readings : Nat → CaseReadings} {index : Nat} {cases : List ReplayInputCase}
    (ran : settings.replayCasesFrom readings index state cases = .ok after) (healthy : state.adaptive.poisoned = false) :
    ∃ rows, List.Forall₂ ReplayDecisionRow.IsFor (settings.countedCases index cases) rows ∧
      after.tally =
        { total := state.tally.total + cases.length
          labelled := state.tally.labelled + rows.length
          falseNegative := state.tally.falseNegative +
            ((settings.countedCases index cases).zip rows).countP fun entry => missed entry.1 entry.2
          rows := state.tally.rows ++ rows
          poisoned := false } := by
  induction cases generalizing index state with
  | nil =>
    cases Except.ok.inj ran
    refine ⟨[], .nil, Tally.ext rfl rfl rfl (List.append_nil _).symm healthy⟩
  | cons case cases ih =>
    unfold replayCasesFrom at ran
    split at ran
    · exact absurd ran (by simp)
    · rename_i next stepped
      have step := tally_replayCase stepped healthy
      rw [countedCases_cons]
      split at step
      · rename_i counted
        obtain ⟨row, named, tally⟩ := step
        have still : next.adaptive.poisoned = false := (congrArg Tally.poisoned tally).trans healthy
        obtain ⟨rows, about, result⟩ := ih ran still
        refine ⟨row :: rows, ?_, ?_⟩
        · rw [if_pos counted]
          exact .cons named about
        · rw [if_pos counted, result, tally, List.zip_cons_cons, List.countP_cons]
          apply Tally.ext
          · simp only [Tally.count, Tally.skip, List.length_cons]
            omega
          · simp only [Tally.count, Tally.skip, List.length_cons]
            omega
          · simp only [Tally.count, Tally.skip]
            cases missed case row
            · simp only [Bool.toNat_false, Bool.false_eq_true, if_false]
              omega
            · simp only [Bool.toNat_true, if_true]
              omega
          · simp only [Tally.count, Tally.skip, List.append_assoc, List.singleton_append]
          · rfl
      · rename_i dropped
        have still : next.adaptive.poisoned = false := (congrArg Tally.poisoned step).trans healthy
        obtain ⟨rows, about, result⟩ := ih ran still
        refine ⟨rows, ?_, ?_⟩
        · rw [if_neg dropped]
          exact about
        · rw [if_neg dropped, result, step]
          apply Tally.ext
          · simp only [Tally.skip, List.length_cons]
            omega
          · rfl
          · rfl
          · rfl
          · rfl

theorem runReplayCases_eq_ok {settings : ReplaySettings} {readings : Nat → CaseReadings}
    {cases : List ReplayInputCase} {profiles : List Adaptive.HistoricalOutcomeProfile} {output : ReplayRunOutput}
    (ran : settings.runReplayCases readings cases profiles = .ok output) :
    ∃ final, settings.replayCasesFrom readings 0 (settings.startingState profiles) cases = .ok final ∧
      output = ⟨final.report, final.decisionRows⟩ := by
  unfold runReplayCases at ran
  split at ran
  · exact absurd ran (by simp)
  · rename_i final ended
    exact ⟨final, ended, (Except.ok.inj ran).symm⟩

/-- The labels and rows of a run cover every case exactly when every case decodes and offers a gas price. -/
theorem runReplayCases_countsEveryCase_iff {settings : ReplaySettings} {readings : Nat → CaseReadings}
    {cases : List ReplayInputCase} {profiles : List Adaptive.HistoricalOutcomeProfile} {output : ReplayRunOutput}
    (ran : settings.runReplayCases readings cases profiles = .ok output) :
    CountsEveryCase settings.tuning cases output ↔ ∀ entry ∈ cases.zipIdx, settings.isCounted entry.2 entry.1 := by
  obtain ⟨after, from0, same⟩ := runReplayCases_eq_ok ran
  subst same
  obtain ⟨rows, about, tally⟩ := tally_replayCasesFrom from0 rfl
  have total : after.report.total = cases.length := (congrArg Tally.total tally).trans (Nat.zero_add _)
  have labelled : after.report.labelled = rows.length := (congrArg Tally.labelled tally).trans (Nat.zero_add _)
  have falseNegative := (congrArg Tally.falseNegative tally).trans (Nat.zero_add _)
  have decisionRows : after.decisionRows = rows := congrArg Tally.rows tally
  have length := about.length_eq
  rw [← length_countedCases]
  constructor
  · intro counts
    have all : after.report.labelled = after.report.total := counts.labels
    omega
  · intro all
    have same := countedCases_eq ((length_countedCases settings 0 cases).mp all)
    rw [same] at about falseNegative length
    refine ⟨?_, ?_, ?_⟩
    · show after.report.labelled = after.report.total
      omega
    · rw [decisionRows]
      exact about
    · rw [decisionRows]
      exact falseNegative

end ReplaySettings

def hexDigit (c : Char) : Option Nat :=
  if '0' ≤ c ∧ c ≤ '9' then some (c.toNat - 48)
  else if 'a' ≤ c ∧ c ≤ 'f' then some (c.toNat - 87)
  else if 'A' ≤ c ∧ c ≤ 'F' then some (c.toNat - 55)
  else none

def digits (base : Nat) (text : List Char) : Option Nat :=
  text.foldlM (fun value c => do
    let digit ← hexDigit c
    if digit < base then some (base * value + digit) else none) 0

def hexPairs : List Char → Option Bytes
  | [] => some []
  | [_] => none
  | high :: low :: rest => do
    let byte ← digits 16 [high, low]
    let bytes ← hexPairs rest
    some (UInt8.ofNat byte :: bytes)

/-- Plain hexadecimal and decimal texts. -/
def plainReader : CaseReader where
  hash text := if text.length = 66 then (digits 16 (text.drop 2)).map (BitVec.ofNat 256) else none
  address text := if text.length = 42 then (digits 16 (text.drop 2)).map (BitVec.ofNat 160) else none
  hexBytes := hexPairs
  hexWord := digits 16
  decWord := digits 10

/-- A victim's pair at par, and a way back that pays twice as much. -/
def samplePools : List (Address × CachedV2Pool) :=
  [(0x31, ⟨0xa1, 0xb2, 3000 * 10 ^ 18, 3000 * 10 ^ 18⟩), (0x32, ⟨0xb2, 0xc3, 3000 * 10 ^ 18, 3000 * 10 ^ 18⟩),
    (0x33, ⟨0xc3, 0xa1, 3000 * 10 ^ 18, 6000 * 10 ^ 18⟩)]

def sampleView : ChainView where
  routerFactory _ := none
  getPair _ tokenA tokenB := (samplePools.find? fun entry =>
    (entry.2.token0 = tokenA ∧ entry.2.token1 = tokenB) ∨ (entry.2.token0 = tokenB ∧ entry.2.token1 = tokenA)).map
      Prod.fst
  getOrFetchV2 pair := (samplePools.find? fun entry => entry.1 = pair).map Prod.snd
  getPool _ _ _ _ := none
  getOrFetchV3 _ := none
  deployed pair pool fetched := by
    have all : ∀ entry ∈ samplePools,
        entry.2.token0 ≠ entry.2.token1 ∧ entry.2.reserve0 < 2 ^ 112 ∧ entry.2.reserve1 < 2 ^ 112 := by decide
    obtain ⟨entry, found, same⟩ := Option.map_eq_some_iff.mp fetched
    rw [← same]
    exact all entry (List.mem_of_find?_eq_some found)

def sampleReadings : CaseReadings where
  view := sampleView
  utcHour := 12
  flowAt := 0
  preflightAt := 0
  quoteAt _ := 0
  executePayloadOnFork := .error "fork execution is off"

/-- A replay in Scavenger mode, with the thresholds that the harness takes from the configuration. -/
def sampleSettings : ReplaySettings where
  config :=
    { toConfig := { testConfig with monitoredTokens := [⟨0xa1, 18, 1⟩, ⟨0xc3, 18, 1⟩] }
      ethUsdPrice := 3000
      uniswapV3Factory := none }
  abi := Abi.headTailDecoder
  curves := ⟨fun x => if 0 ≤ x then 1 + x + x ^ 2 / 2 else 1 / (1 - x + x ^ 2 / 2), fun x => 2 * x / (2 + x)⟩
  reader := plainReader
  minLargeSwapWei := 10 ^ 18
  minProfitWei := 10 ^ 14
  tuning := .default
  executeOnFork := false
  forkHardFail := false

def hexChar (digit : Nat) : Char := Char.ofNat (if digit < 10 then 48 + digit else 87 + digit)

def hexText (byte : UInt8) : List Char := [hexChar (byte.toNat / 16), hexChar (byte.toNat % 16)]

def etherSwapCalldata : Bytes :=
  [0x7f, 0xf3, 0x6a, 0xb5] ++ Abi.encode [.uint 1, .array [.address 0xa1, .address 0xb2], .address 1, .uint 9]

/-- A swap of 30 ether for 0xb2 over the given router. -/
def etherSwapCase (router : String) : ReplayInputCase where
  txHash := none
  recipient := router
  input := '0' :: 'x' :: etherSwapCalldata.flatMap hexText
  valueWei := some "30000000000000000000"
  gasPriceWei := some "8000000000"
  maxFeePerGasWei := none
  lookupLatencyMs := none
  hourUtc := none
  knownOutcome := some "profitable"
  realizedProfitEth := none

def sampleCases : List ReplayInputCase :=
  [etherSwapCase "0x0000000000000000000000000000000000000098",
    etherSwapCase "0x0000000000000000000000000000000000000099"]

/-- The quote of the policy turns the first swap away, and the second one is executed. -/
theorem sampleCases_run : ∃ output,
    sampleSettings.runReplayCases (fun _ => sampleReadings) sampleCases [] = .ok output ∧
      output.report.executeCandidates = 1 ∧
      output.decisionRows.map ReplayDecisionRow.decision = ["reject", "execute"] := by
  have result : (sampleSettings.runReplayCases (fun _ => sampleReadings) sampleCases []).toOption.map
      (fun output => (output.report.executeCandidates, output.decisionRows.map ReplayDecisionRow.decision)) =
        some (1, ["reject", "execute"]) := by
    decide +kernel
  cases ran : sampleSettings.runReplayCases (fun _ => sampleReadings) sampleCases [] with
  | error stop => simp [ran, Except.toOption] at result
  | ok output =>
    simp only [ran, Except.toOption, Option.map_some, Option.some.injEq, Prod.mk.injEq] at result
    exact ⟨output, rfl, result⟩

/-- Both profitable swaps are counted. -/
theorem sampleCases_counted : ∃ output,
    sampleSettings.runReplayCases (fun _ => sampleReadings) sampleCases [] = .ok output ∧
      CountsEveryCase sampleSettings.tuning sampleCases output := by
  obtain ⟨output, ran, _⟩ := sampleCases_run
  have counted : ∀ entry ∈ sampleCases.zipIdx, sampleSettings.isCounted entry.2 entry.1 := by decide +kernel
  have iff := ReplaySettings.runReplayCases_countsEveryCase_iff ran
  exact ⟨output, ran, iff.mpr counted⟩

/-- The same swap without its calldata, which the decoder turns away. -/
def droppedCase : ReplayInputCase := { etherSwapCase "0x0000000000000000000000000000000000000098" with input := ['0', 'x'] }

/-- The case is profitable and not executed, and yet it has no label, no row and no false negative. -/
theorem droppedCase_uncounted : droppedCase.profitable ∧ ∃ output,
    sampleSettings.runReplayCases (fun _ => sampleReadings) [droppedCase] [] = .ok output ∧
      output.report.total = 1 ∧ output.report.labelled = 0 ∧ output.decisionRows = [] ∧
      (ReplayTuningResult.fromReport sampleSettings.tuning output.report).falseNegative = 0 ∧
      ¬ CountsEveryCase sampleSettings.tuning [droppedCase] output := by
  refine ⟨by decide +kernel, ?_⟩
  have tally : (sampleSettings.runReplayCases (fun _ => sampleReadings) [droppedCase] []).toOption.map
      (fun output => (output.report.total, output.report.labelled, output.decisionRows, output.report.falseNegative)) =
        some (1, 0, [], 0) := by
    decide +kernel
  cases ran : sampleSettings.runReplayCases (fun _ => sampleReadings) [droppedCase] [] with
  | error stop => simp [ran, Except.toOption] at tally
  | ok output =>
    simp only [ran, Except.toOption, Option.map_some, Option.some.injEq, Prod.mk.injEq] at tally
    obtain ⟨total, labelled, rows, falseNegative⟩ := tally
    refine ⟨output, rfl, total, labelled, rows, falseNegative, ?_⟩
    intro counts
    have all : output.report.labelled = output.report.total := counts.labels
    omega

end ArbitrageRuntime.Replay
