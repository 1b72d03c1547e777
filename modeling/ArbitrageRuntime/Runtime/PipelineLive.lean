import ArbitrageRuntime.Adaptive.Rebuilt
import ArbitrageRuntime.Decoder.NoPanic
import ArbitrageRuntime.Runtime.PipelinePoisoned

namespace ArbitrageRuntime

/-- Nothing is read, and nothing has been learnt. -/
def idleReading (config : PricedConfig) : StageReading where
  readings :=
    { pendingTx := none
      lookupPendingTx := none
      lookupMs := 0
      utcHour := 0
      smallBudgetAt := 0
      currentBlock := none
      lookupLatencyMs := 0
      flowAt := 0
      preflightAt := 0
      quoteAt := fun _ => 0
      views := []
      validateWithEvmPreflight := .ok true }
  state :=
    { adaptive := ⟨Adaptive.AdaptivePolicy.new config, false⟩
      smallScavengerBudget := ⟨⟨0, 0⟩, false⟩ }
  opportunityModeLock := config.mev.opportunityModeLock
  runtimeThresholdsLock := config.mev.runtimeThresholdsLock

namespace Pipeline

variable {stages : LiveStages} {state next : Pipeline}
  {backpressure : PendingLookupBackpressure} {lookupWorkers evalWorkers : Nat}
  {labels : List (PipelineStep StageReading)}

theorem evaluateTraced_gives_none (reading : StageReading) (candidate : Traced LookupDecodedCandidate)
    (result : Traced PendingExecutionCandidate) : stages.stageWork.evaluateTraced reading candidate ≠ .gives result := by
  intro given
  unfold StageWork.evaluateTraced LiveStages.stageWork at given
  dsimp only at given
  cases evaluated : ((stages.holding reading.opportunityModeLock reading.runtimeThresholdsLock).processEvaluationTask
      reading.readings reading.state candidate.value).1 with
  | gives ready => exact LiveStages.processEvaluationTask_emits_none candidate.value ready evaluated
  | declines => rw [evaluated] at given; cases given
  | fails panic => rw [evaluated] at given; cases given

/-- Nothing has come out of the evaluation. -/
structure Barren (state : Pipeline) : Prop where
  pool : state.evalPool.Good (fun _ => True) (fun _ => False)
  arrived : state.arrived = []

theorem Barren.step {step : PipelineStep StageReading} (barren : Barren state)
    (stepped : Stepped stages.stageWork state step next) : Barren next := by
  obtain ⟨pool, arrived⟩ := barren
  cases stepped with
  | ready pushedAt reading candidate queue selecting items =>
    have none := pool.sink candidate
    rw [evalPool, items] at none
    exact (none List.mem_cons_self).elim
  | lookup index move moved' moved => exact ⟨⟨fun _ _ => trivial, pool.workers, pool.sink⟩, arrived⟩
  | evaluate index move moved' moved =>
    have kept := pool.moved (fun reading candidate result _ given =>
      evaluateTraced_gives_none reading candidate result given) moved
    exact ⟨kept, arrived⟩
  | _ => exact ⟨pool, arrived⟩

/-- One transaction that passes the gates, and whose decoding panics, is enough to bring the live engine to a stand
for good, if it comes in often enough under different hashes, and nothing else has to. -/
theorem live_pipeline_deadlocks {tx : MempoolTransaction} {settings : IntakeSettings} {minLargeSwapWei : Nat}
    (passes : preDecodeTxGate settings.mev settings.preDecodeGasCapMultiplier tx = none)
    (passesAgain : preDecodeTxGate stages.config.mev stages.environment.preDecodeGasCapMultiplier tx = none)
    (parses : parseEther stages.config.mev.effectiveMinLargeSwapEth = some minLargeSwapWei)
    (panics : (decodeRelevantSwap stages.abi tx.toPendingTransaction stages.config.monitoredTokens minLargeSwapWei
      stages.config.mev.opportunityMode).Fails)
    (backpressure : PendingLookupBackpressure) (lookupConfigured evalConfigured : Option Nat) :
    ∃ (labels : List (PipelineStep StageReading)) (state : Pipeline) (hashes : List Hash),
      (system stages.stageWork).after (start backpressure (workerCount lookupConfigured lookupDecodeWorkersMax)
        (workerCount evalConfigured evalWorkersMax)) labels = some state ∧
      hashes.Nodup ∧
      state.loop.intake.takings.map Taking.item = hashes.map (fun txHash => .full { tx with hash := txHash }) ∧
      Deadlocked stages.stageWork state ∧
      ∀ later next, (system stages.stageWork).after state later = some next →
        next = { state with paused := next.paused } ∧ Deadlocked stages.stageWork next := by
  have few : workerCount lookupConfigured lookupDecodeWorkersMax ≤ 6 :=
    workerCount_le lookupConfigured lookupDecodeWorkersMax
  let reading := idleReading stages.config.toPricedConfig
  have filled : Nonempty StageReading := ⟨reading⟩
  obtain ⟨panic, panics⟩ := panics
  let copies (index : Nat) : MempoolTransaction := { tx with hash := BitVec.ofNat 256 index }
  have distinct : Set.InjOn (fun index => (copies index).hash)
      (Set.Iio (workerCount lookupConfigured lookupDecodeWorkersMax + 8193)) := by
    intro i inside j inside' same
    have values := congrArg BitVec.toNat same
    simp only [copies, BitVec.toNat_ofNat, Set.mem_Iio] at values inside inside'
    omega
  have fails : ∀ index, ∃ reading panic,
      stages.stageWork.lookupDecode reading ⟨(copies index).hash, some (copies index)⟩ = .fails panic := by
    intro index
    refine ⟨reading, .decode panic, ?_⟩
    have gate : preDecodeTxGate stages.config.mev stages.environment.preDecodeGasCapMultiplier (copies index) = none :=
      passesAgain
    show (stages.processLookupDecodeTask { reading.readings with pendingTx := some (copies index) } reading.state).1 = _
    unfold LiveStages.processLookupDecodeTask lookupTx
    dsimp only
    rw [gate, parses]
    dsimp only
    rw [panics]
    rfl
  obtain ⟨labels, state, reached, fed, deadlocked⟩ :=
    poisoned_deadlocks distinct (fun _ => passes) fails backpressure (workerCount evalConfigured evalWorkersMax)
  refine ⟨labels, state,
    (List.range (workerCount lookupConfigured lookupDecodeWorkersMax + 8193)).map fun index => (copies index).hash,
    reached, ?_, ?_, deadlocked, fun later next => deadlocked.after⟩
  · refine List.Nodup.map_on ?_ List.nodup_range
    intro i inside j inside' same
    exact distinct (List.mem_range.mp inside) (List.mem_range.mp inside') same
  · rw [fed.items, List.map_map]
    rfl

section Sample

def sampleStages : LiveStages where
  config := { toConfig := testConfig, ethUsdPrice := 3000, uniswapV3Factory := none }
  abi := Abi.headTailDecoder
  curves := Adaptive.sampleCurves
  ln := id
  environment :=
    { preDecodeGasCapMultiplier := none
      minPartialDecodeConfidence := none
      gasCapResearchBypass := none
      researchMaxGasRatio := none
      scavenger := ⟨none, none, none⟩
      evmPreflightEnabled := false }
  minLargeSwapWei := 10 ^ 18
  minProfitWei := 10 ^ 14

def wideFeePending : MempoolTransaction :=
  { wideFeeTransaction with hash := 7, gasPrice := some 30000000000, maxFeePerGas := none }

/-- An exactInputSingle call with a fee of 33 bits. -/
theorem wideFee_deadlocks : ∃ (labels : List (PipelineStep StageReading)) (state : Pipeline) (hashes : List Hash),
    (system sampleStages.stageWork).after
      (start LoopState.idleBackpressure (workerCount none 6) (workerCount (some 2) 4)) labels = some state ∧
    hashes.Nodup ∧
    state.loop.intake.takings.map Taking.item =
      hashes.map (fun txHash => .full { wideFeePending with hash := txHash }) ∧
    Deadlocked sampleStages.stageWork state ∧
    ∀ later next, (system sampleStages.stageWork).after state later = some next →
      next = { state with paused := next.paused } ∧ Deadlocked sampleStages.stageWork next := by
  have passes : preDecodeTxGate LoopState.sampleSettings.mev LoopState.sampleSettings.preDecodeGasCapMultiplier
      wideFeePending = none := by decide +kernel
  have passesAgain : preDecodeTxGate sampleStages.config.mev sampleStages.environment.preDecodeGasCapMultiplier
      wideFeePending = none := by decide +kernel
  have parses : parseEther sampleStages.config.mev.effectiveMinLargeSwapEth = some (2 * 10 ^ 16) := by decide +kernel
  have panics : decodeRelevantSwap sampleStages.abi wideFeePending.toPendingTransaction
      sampleStages.config.monitoredTokens (2 * 10 ^ 16) sampleStages.config.mev.opportunityMode =
        .fails (.narrowing (2 ^ 32)) := by
    decide +kernel
  exact live_pipeline_deadlocks passes passesAgain parses ⟨_, panics⟩ LoopState.idleBackpressure none (some 2)

end Sample

end Pipeline

end ArbitrageRuntime
