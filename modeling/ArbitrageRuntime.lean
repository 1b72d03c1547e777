import ArbitrageRuntime.Lib.Saturating
import ArbitrageRuntime.Lib.Rounding
import ArbitrageRuntime.Lib.PickMax
import ArbitrageRuntime.Lib.Abi
import ArbitrageRuntime.Lib.Collect
import ArbitrageRuntime.Base
import ArbitrageRuntime.Config
import ArbitrageRuntime.Amm.UniswapV2
import ArbitrageRuntime.Amm.UniswapV3
import ArbitrageRuntime.Amm.StateSimulator
import ArbitrageRuntime.Amm.TickCrossing
import ArbitrageRuntime.Builder.Payload
import ArbitrageRuntime.Builder.Units
import ArbitrageRuntime.Builder.SizingV2
import ArbitrageRuntime.Builder.SizingCompletes
import ArbitrageRuntime.Builder.SizingV3
import ArbitrageRuntime.Builder.Thresholds
import ArbitrageRuntime.Builder.BuildV2
import ArbitrageRuntime.Builder.BuildV3
import ArbitrageRuntime.Runtime.SanityGate
import ArbitrageRuntime.Builder.SelfArbitrage
import ArbitrageRuntime.Runtime.PayloadV2
import ArbitrageRuntime.Builder.Market
import ArbitrageRuntime.Builder.CapitalUnits
import ArbitrageRuntime.Lib.CallMachine
import ArbitrageRuntime.Executor.Code
import ArbitrageRuntime.Executor.Callback
import ArbitrageRuntime.Executor.Authenticity
import ArbitrageRuntime.Executor.Accounting
import ArbitrageRuntime.Builder.ProfitUnits
import ArbitrageRuntime.Builder.FlashRepayment
import ArbitrageRuntime.Engine.Budget
import ArbitrageRuntime.Engine.Guards
import ArbitrageRuntime.Lib.Reorder
import ArbitrageRuntime.Rpc.Fleet
import ArbitrageRuntime.Engine.SubmitPaths
import ArbitrageRuntime.Engine.Transaction
import ArbitrageRuntime.Engine.Handle
import ArbitrageRuntime.Engine.Submission
import ArbitrageRuntime.Engine.ContextStopLoss
import ArbitrageRuntime.Engine.BudgetRelease
import ArbitrageRuntime.Decoder.Path
import ArbitrageRuntime.Decoder.Signal
import ArbitrageRuntime.Decoder.UniversalRouter
import ArbitrageRuntime.Decoder.Leaf
import ArbitrageRuntime.Decoder.Nested
import ArbitrageRuntime.Decoder.Search
import ArbitrageRuntime.Decoder.Plan
import ArbitrageRuntime.Decoder.Candidates
import ArbitrageRuntime.Decoder.HopFallback
import ArbitrageRuntime.Decoder.Outcome
import ArbitrageRuntime.Decoder.NoPanic
import ArbitrageRuntime.Decoder.Relevant
import ArbitrageRuntime.Decoder.V3Signal
import ArbitrageRuntime.Decoder.Multicall
import ArbitrageRuntime.Executor.Split
import ArbitrageRuntime.Executor.SplitV2
import ArbitrageRuntime.Executor.SplitRefinement
import ArbitrageRuntime.Executor.Repayment
import ArbitrageRuntime.Executor.OwnFunds
import ArbitrageRuntime.Executor.Guard
import ArbitrageRuntime.Executor.StepSlippage
import ArbitrageRuntime.Executor.BorrowSign
import ArbitrageRuntime.Decoder.Termination
import ArbitrageRuntime.Lib.Transition
import ArbitrageRuntime.Lib.SlidingWindow
import ArbitrageRuntime.Lib.ElapsedWindows
import ArbitrageRuntime.Lib.SilentSteps
import ArbitrageRuntime.Runtime.SeenWindow
import ArbitrageRuntime.Runtime.MicroBatch
import ArbitrageRuntime.Runtime.PreDecodeGate
import ArbitrageRuntime.Runtime.MempoolIntake
import ArbitrageRuntime.Runtime.RunLoop
import ArbitrageRuntime.Engine.BudgetWindow
import ArbitrageRuntime.Engine.StopLoss
import ArbitrageRuntime.Engine.ContextDecay
import ArbitrageRuntime.Cache.PoolCache
import ArbitrageRuntime.Rpc.EndpointState
import ArbitrageRuntime.Rpc.Cooldown
import ArbitrageRuntime.Rpc.ScoreCache
import ArbitrageRuntime.Rpc.StaysOut
import ArbitrageRuntime.Rpc.FailureDecay
import ArbitrageRuntime.Lib.ConstantProduct
import ArbitrageRuntime.Amm.SwapSound
import ArbitrageRuntime.Builder.EdgeSample
import ArbitrageRuntime.Runtime.KeepsRunning
import ArbitrageRuntime.Lib.LastWriter
import ArbitrageRuntime.Dashboard.ThresholdUpdates
import ArbitrageRuntime.Adaptive.Limits
import ArbitrageRuntime.Adaptive.Policy
import ArbitrageRuntime.Adaptive.Scores
import ArbitrageRuntime.Adaptive.Quotes
import ArbitrageRuntime.Adaptive.Retuning
import ArbitrageRuntime.Adaptive.Rebuilt
import ArbitrageRuntime.Adaptive.Pressure
import ArbitrageRuntime.Adaptive.Rates
import ArbitrageRuntime.Adaptive.MissedInclusion
import ArbitrageRuntime.Engine.Receipts
import ArbitrageRuntime.Engine.Exposure
import ArbitrageRuntime.Lib.Relational
import ArbitrageRuntime.Lib.Cascade
import ArbitrageRuntime.Lib.Blend
import ArbitrageRuntime.Storage.Tables
import ArbitrageRuntime.Storage.Snapshots
import ArbitrageRuntime.Storage.Queries
import ArbitrageRuntime.Storage.Networks
import ArbitrageRuntime.Storage.Backends
import ArbitrageRuntime.Storage.RelayTotals
import ArbitrageRuntime.Engine.Books
import ArbitrageRuntime.Engine.SameBooks
import ArbitrageRuntime.Runtime.EvGates
import ArbitrageRuntime.Runtime.FastPreflight
import ArbitrageRuntime.Runtime.GasCapTiers
import ArbitrageRuntime.Runtime.GateVerdicts
import ArbitrageRuntime.Runtime.LookupBudget
import ArbitrageRuntime.Runtime.ReverseRoute
import ArbitrageRuntime.Runtime.RouteQuote
import ArbitrageRuntime.Runtime.PayloadBuild
import ArbitrageRuntime.Replay.Report
import ArbitrageRuntime.Replay.Cases
import ArbitrageRuntime.Replay.Stages
import ArbitrageRuntime.Replay.Accounting
import ArbitrageRuntime.Runtime.LiveStages
import ArbitrageRuntime.Replay.Faithful
import ArbitrageRuntime.Replay.TunedDecision
import ArbitrageRuntime.Runtime.GasCharge
import ArbitrageRuntime.Decoder.PathSegments
import ArbitrageRuntime.Lib.Upsert
import ArbitrageRuntime.Lib.RunningAverage
import ArbitrageRuntime.Dashboard.Latency
import ArbitrageRuntime.Lib.TopList
import ArbitrageRuntime.Dashboard.RejectReasons
import ArbitrageRuntime.Dashboard.UnsupportedSelectors
import ArbitrageRuntime.Dashboard.TopLists
import ArbitrageRuntime.Storage.ContextSignals
import ArbitrageRuntime.Lib.Spaced
import ArbitrageRuntime.Lib.WorkerPool
import ArbitrageRuntime.Runtime.Pipeline
import ArbitrageRuntime.Runtime.PipelineConserves
import ArbitrageRuntime.Runtime.PipelineDeadlock
import ArbitrageRuntime.Runtime.PipelinePoisoned
import ArbitrageRuntime.Runtime.PipelineLive
import ArbitrageRuntime.Dashboard.Rollups
import ArbitrageRuntime.Dashboard.RollupLaws
import ArbitrageRuntime.Dashboard.RollupRows
import ArbitrageRuntime.Executor.Calldata
import ArbitrageRuntime.Decoder.SentCalls
import ArbitrageRuntime.Executor.Authority
