import ArbitrageRuntime.Engine.Guards
import ArbitrageRuntime.Engine.Transaction

namespace ArbitrageRuntime

structure MevOpportunity where
  victimTx : Hash
  executionPayload : Option ExecutionPayload
  router : Address
  tokenIn : Address
  tokenOut : Address
  selector : Selector
  preferredRelay : Option String

def MevOpportunity.cluster (opportunity : MevOpportunity) : ClusterKey where
  router := opportunity.router
  tokenIn := opportunity.tokenIn
  tokenOut := opportunity.tokenOut
  selector := opportunity.selector

/-- What an endpoint says about the wallet and the chain. -/
structure ChainState where
  hotBalance : Nat
  chainNonce : Nat
  gasPrice : Nat
  baseFeePerGas : Option Nat
  block : Nat

inductive SubmitResult
  | panicked
  | accepted
  | failed (error : String)
  deriving DecidableEq

/-- A spawned submission: aborted before it reaches the network, or sent at a time of its own. -/
inductive SubmitTask
  | unsent
  | sent (time : Instant) (result : SubmitResult)
  deriving DecidableEq

/-- The tasks of a join set, and the order in which they are joined. -/
structure JoinSet (α : Type) where
  task : α → SubmitTask
  order : List α → List α
  order_perm : ∀ xs, (order xs).Perm xs

/-- Everything outside the engine that one call reads: the wallet, the fleet at each selection, the
answers of chain, endpoints and relays, and the times of the steps. -/
structure Outside where
  ageMs : Nat
  stopLossAt : Instant
  wallet : Except String Address
  contextFleet : RpcFleet
  chainState : RpcHandle → Except String ChainState
  preflightEnabled : Bool
  preflight : Except String Bool
  preflightHardFail : Bool
  reserveAt : Instant
  rankingFleet : RpcFleet
  adaptive : Mutex AdaptivePolicy
  checkAt : Nat → Instant
  checkAt_mono : Monotone checkAt
  signTransaction : TypedTransaction → Except String Bytes
  submitFleet : RpcFleet
  rpcSubmits : JoinSet RpcHandle
  sent_after_checks : ∀ endpoint time result, rpcSubmits.task endpoint = .sent time result → ∀ i, checkAt i ≤ time
  parseUrl : String → Except String Unit
  relaySubmits : JoinSet RelayQuote
  observeRealizedPnl : String → ExecutionResult
  resultAt : Instant

structure Engine where
  capitalBudget : Mutex CapitalBudget
  executionGuard : Mutex ExecutionGuard

/-- What a call does that others can see. A transaction that is sent is noted with the guard as it
stood then. -/
inductive EngineEvent
  | reserved (reservation : BudgetReservation)
  | sent (endpoint : RpcHandle) (time : Instant) (guard : Mutex ExecutionGuard)
  | accepted (submitPath : String)

structure Run where
  result : Except String Unit
  engine : Engine
  log : List EngineEvent

def Run.exit (engine : Engine) (result : Except String Unit) : Run where
  result := result
  engine := engine
  log := []

def Run.after (events : List EngineEvent) (run : Run) : Run := { run with log := events ++ run.log }

/-- The first endpoint that answers. -/
def firstSendContext (chainState : RpcHandle → Except String ChainState) (lastError : Option String) :
    List RpcHandle → Except String SendContext
  | [] => .error (lastError.getD "no rpc endpoint available for send context")
  | endpoint :: rest =>
    match chainState endpoint with
    | .ok chain => .ok
        { endpoint := endpoint
          hotBalance := chain.hotBalance
          chainNonce := chain.chainNonce
          gasPrice := chain.gasPrice
          baseFeePerGas := chain.baseFeePerGas
          block := chain.block }
    | .error err => firstSendContext chainState (some (err ++ " via " ++ endpoint.name)) rest

def loadSendContext (outside : Outside) : Except String SendContext :=
  firstSendContext outside.chainState none (outside.contextFleet.sendCandidates 3)

/-- The gas price cap, the two buffer limits of the wallet and the optional preflight. -/
def passesChecks (config : Config) (outside : Outside) (context : SendContext) : Bool :=
  (match config.mev.maxGasPriceWei with
    | some cap => context.gasPrice ≤ cap
    | none => true) &&
  config.mev.executorMinBufferEth ≤ weiToEth context.hotBalance &&
  weiToEth context.hotBalance ≤ config.mev.executorMaxBufferEth &&
  (!outside.preflightEnabled ||
    match outside.preflight with
    | .ok success => success
    | .error _ => !outside.preflightHardFail)

def Engine.stopLossSnapshot (engine : Engine) (now : Instant) : Option StopLossSnapshot × Engine :=
  match engine.executionGuard.lock with
  | none => (none, engine)
  | some guard =>
    let observed := guard.stopLossSnapshot now
    (observed.1, { engine with executionGuard := { engine.executionGuard with value := observed.2 } })

def Engine.releaseBudget (engine : Engine) (victimTx : Hash) : Engine :=
  { engine with capitalBudget := ArbitrageRuntime.releaseBudget engine.capitalBudget victimTx }

def Engine.recordResult (engine : Engine) (mev : MevConfig) (now : Instant) (result : ExecutionResult)
    (context : Option ContextFreezeKey) (contextPriorityScore contextToxicityScore : Option ℚ) : Engine :=
  match engine.executionGuard.lock with
  | none => engine
  | some guard => { engine with executionGuard :=
      { engine.executionGuard with
        value := guard.recordResult mev now result context contextPriorityScore contextToxicityScore } }

/-- What a call carries from its checks on. -/
structure Order where
  opportunity : MevOpportunity
  payload : ExecutionPayload
  walletAddress : Address
  context : SendContext

namespace Order

def freezeKey (order : Order) (submitPath : String) : ContextFreezeKey where
  pair := order.payload.pair
  router := order.opportunity.router
  submitPath := submitPath

/-- The request that `check_and_reserve` turns into a reservation. -/
def request (order : Order) (now : Instant) : BudgetReservation where
  reservedAt := now
  cluster := order.opportunity.cluster
  pair := order.payload.pair
  victimTx := order.opportunity.victimTx
  capitalEth := weiToEth order.payload.capitalCommittedWei

/-- The last steps of every submission: the budget is released and the result is recorded for the path. -/
def settle (order : Order) (mev : MevConfig) (now : Instant) (result : ExecutionResult) (submitPath : Option String)
    (engine : Engine) : Engine :=
  (engine.releaseBudget order.opportunity.victimTx).recordResult mev now result (submitPath.map order.freezeKey)
    (some order.payload.contextPriorityScore) (some order.payload.contextToxicityScore)

end Order

def failedSubmission : ExecutionResult where
  realizedProfit := 0
  gasUsed := 0
  success := false

/-- The joining loop of both submission modes: the first acceptance ends it, failures go on with the
next task, and with no task left the call fails. -/
def joinSubmits {α : Type} (label : α → String) (task : α → SubmitTask) (accept : String → Engine)
    (giveUp : Option String → Run) (lastError : Option String) : List α → Run
  | [] => giveUp lastError
  | x :: rest =>
    match task x with
    | .unsent => joinSubmits label task accept giveUp lastError rest
    | .sent _ .panicked => joinSubmits label task accept giveUp lastError rest
    | .sent _ (.failed error) => joinSubmits label task accept giveUp (some error) rest
    | .sent _ .accepted => { result := .ok (), engine := accept (label x), log := [.accepted (label x)] }

/-- After an acceptance the call waits for the outcome, releases the budget and records the result. -/
def acceptedBy (config : Config) (outside : Outside) (order : Order) (engine : Engine) (submitPath : String) : Engine :=
  order.settle config.mev outside.resultAt (outside.observeRealizedPnl submitPath) (some submitPath) engine

def gaveUp (config : Config) (outside : Outside) (order : Order) (engine : Engine) (firstPath : Option String)
    (message : String) (lastError : Option String) : Run :=
  .exit (order.settle config.mev outside.resultAt failedSubmission firstPath engine) (.error (lastError.getD message))

/-- In direct mode the budget is released only if there is a path to blame. -/
def allRpcFailed (config : Config) (outside : Outside) (order : Order) (engine : Engine) (firstPath : Option RelayQuote)
    (lastError : Option String) : Run :=
  match firstPath with
  | none => .exit engine (.error (lastError.getD "all rpc submit endpoints failed"))
  | some path => gaveUp config outside order engine (some path.relay) "all rpc submit endpoints failed" lastError

def submitDirect (config : Config) (outside : Outside) (order : Order) (paths : List RelayQuote) (engine : Engine) :
    Run :=
  let endpoints := directRpcSubmitEndpointsFromRankedPaths config outside.submitFleet paths
  let sends := endpoints.filterMap fun endpoint =>
    match outside.rpcSubmits.task endpoint with
    | .unsent => none
    | .sent time _ => some (EngineEvent.sent endpoint time engine.executionGuard)
  (joinSubmits (fun endpoint => rpcLabel endpoint.name) outside.rpcSubmits.task
    (acceptedBy config outside order engine) (allRpcFailed config outside order engine paths.head?) none
    (outside.rpcSubmits.order endpoints)).after sends

/-- Relays whose address does not parse are skipped, and the parse error is kept as the last error. -/
def parsedRelays (parseUrl : String → Except String Unit) (lastError : Option String) :
    List RelayQuote → List RelayQuote × Option String
  | [] => ([], lastError)
  | quote :: rest =>
    match parseUrl quote.relay with
    | .error error => parsedRelays parseUrl (some error) rest
    | .ok _ =>
      let parsed := parsedRelays parseUrl lastError rest
      (quote :: parsed.1, parsed.2)

def submitBundles (config : Config) (outside : Outside) (order : Order) (paths : List RelayQuote) (engine : Engine) :
    Run :=
  let relays := parsedRelays outside.parseUrl none (paths.take (max config.mev.relayFanoutCount 1))
  joinSubmits RelayQuote.relay outside.relaySubmits.task (acceptedBy config outside order engine)
    (gaveUp config outside order engine (paths.head?.map RelayQuote.relay) "no relay submission path available")
    relays.2 (outside.relaySubmits.order relays.1)

/-- `retain` over the ranked paths, with one look at the stop-loss of each. -/
def retainUnfrozen (mev : MevConfig) (key : String → ContextFreezeKey) (checkAt : Nat → Instant) :
    Nat → List RelayQuote → ExecutionGuard → List RelayQuote × ExecutionGuard
  | _, [], guard => ([], guard)
  | i, quote :: rest, guard =>
    let observed := guard.contextStopLossSnapshot mev (checkAt i) (key quote.relay)
    let kept := retainUnfrozen mev key checkAt (i + 1) rest observed.2
    (if observed.1.isNone then quote :: kept.1 else kept.1, kept.2)

def rankedSubmitPaths (config : Config) (outside : Outside) (order : Order) : List RelayQuote :=
  if config.usesBundleRelays then
    rankRelaySubmitPaths config outside.adaptive order.opportunity.preferredRelay order.opportunity.cluster
  else
    rankDirectRpcSubmitPaths config outside.rankingFleet outside.adaptive order.context.endpoint order.opportunity.cluster

/-- A poisoned guard freezes nothing. -/
def Engine.retainUnfrozen (engine : Engine) (mev : MevConfig) (outside : Outside) (order : Order)
    (paths : List RelayQuote) : List RelayQuote × Engine :=
  match engine.executionGuard.lock with
  | none => (paths, engine)
  | some guard =>
    let kept := ArbitrageRuntime.retainUnfrozen mev order.freezeKey outside.checkAt 0 paths guard
    (kept.1, { engine with executionGuard := { engine.executionGuard with value := kept.2 } })

def signExecutorTransaction (config : Config) (outside : Outside) (order : Order) (bestPath : Option RelayQuote) :
    Except String Bytes :=
  outside.signTransaction (executorTransaction config order.payload order.walletAddress order.context.chainNonce
    (dynamicGasPrice config.mev order.context.gasPrice bestPath order.payload) order.context.baseFeePerGas)

/-- From the reservation on. The two exits before the submission leave the reservation where it is. -/
def submit (config : Config) (outside : Outside) (order : Order) (engine : Engine) : Run :=
  let retained := engine.retainUnfrozen config.mev outside order (rankedSubmitPaths config outside order)
  if retained.1.isEmpty then .exit retained.2 (.ok ())
  else
    match signExecutorTransaction config outside order retained.1.head? with
    | .error error => .exit retained.2 (.error error)
    | .ok _ =>
      if config.usesBundleRelays then submitBundles config outside order retained.1 retained.2
      else submitDirect config outside order retained.1 retained.2

def reserveAndSubmit (config : Config) (outside : Outside) (order : Order) (engine : Engine) : Run :=
  let request := order.request outside.reserveAt
  let gate := checkAndReserveBudget engine.capitalBudget config.mev request
  if gate.1.allowed then
    (submit config outside order { engine with capitalBudget := gate.2 }).after
      (if engine.capitalBudget.poisoned then [] else [.reserved request])
  else .exit { engine with capitalBudget := gate.2 } (.ok ())

/-- The exits before the budget is touched, in the order of the source. -/
def prepareOrder (config : Config) (opportunity : MevOpportunity) (outside : Outside) (engine : Engine) :
    Except (Except String Unit) Order × Engine :=
  if !config.allowSend then (.error (.ok ()), engine)
  else if max config.mev.maxPendingAgeMs 1 < outside.ageMs then (.error (.ok ()), engine)
  else
    match opportunity.executionPayload with
    | none => (.error (.ok ()), engine)
    | some payload =>
      let observed := engine.stopLossSnapshot outside.stopLossAt
      if observed.1.isSome then (.error (.ok ()), observed.2)
      else
        match outside.wallet with
        | .error error => (.error (.error error), observed.2)
        | .ok walletAddress =>
          match loadSendContext outside with
          | .error error => (.error (.error error), observed.2)
          | .ok context =>
            if passesChecks config outside context then
              (.ok { opportunity := opportunity, payload := payload, walletAddress := walletAddress, context := context },
                observed.2)
            else (.error (.ok ()), observed.2)

def handle (config : Config) (opportunity : MevOpportunity) (outside : Outside) (engine : Engine) : Run :=
  match prepareOrder config opportunity outside engine with
  | (.error result, observed) => .exit observed result
  | (.ok order, observed) => reserveAndSubmit config outside order observed

end ArbitrageRuntime
