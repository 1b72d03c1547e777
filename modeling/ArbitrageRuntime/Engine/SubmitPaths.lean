import ArbitrageRuntime.Lib.Reorder
import ArbitrageRuntime.Rpc.Fleet
import ArbitrageRuntime.Engine.Budget

namespace ArbitrageRuntime

/-- The figures of a relay quote that the engine reads. The rest only goes to the dashboard. -/
structure RelayFigures where
  acceptRate : ℚ
  acceptedNotIncludedRate : ℚ
  revertRate : ℚ
  score : ℚ
  deriving DecidableEq

structure RelayQuote extends RelayFigures where
  relay : String
  deriving DecidableEq

/-- What the adaptive policy has learned about submit paths: any figures may come out of it. -/
structure AdaptivePolicy where
  figures : String → RelayFigures
  figuresForCluster : String → ClusterKey → RelayFigures

/-- The quote of a path when the policy cannot be read. -/
def plainQuote (relay : String) : RelayQuote where
  acceptRate := 1
  acceptedNotIncludedRate := 0
  revertRate := 0
  score := 0
  relay := relay

/-- Quotes of the paths, lowest score first. -/
def rankedBy (figures : String → RelayFigures) (relays : List String) : List RelayQuote :=
  (relays.map fun relay => { toRelayFigures := figures relay, relay := relay : RelayQuote }).insertionSort
    fun left right => left.score ≤ right.score

def rankRelays (adaptive : Mutex AdaptivePolicy) (relays : List String) : List RelayQuote :=
  match adaptive.lock with
  | some policy => rankedBy policy.figures relays
  | none => relays.map plainQuote

def rankRelaysForCluster (adaptive : Mutex AdaptivePolicy) (relays : List String) (cluster : ClusterKey) :
    List RelayQuote :=
  match adaptive.lock with
  | some policy => rankedBy (fun relay => policy.figuresForCluster relay cluster) relays
  | none => relays.map plainQuote

/-- The relays of bundle mode; the relay that the opportunity prefers goes first. -/
def rankRelaySubmitPaths (config : Config) (adaptive : Mutex AdaptivePolicy) (preferredRelay : Option String)
    (cluster : ClusterKey) : List RelayQuote :=
  let relays := rankRelaysForCluster adaptive config.builderRelays cluster
  match preferredRelay with
  | none => relays
  | some preferred =>
    match relays.find? fun quote => quote.relay == preferred with
    | none => relays
    | some quote => quote :: relays.eraseP fun quote => quote.relay == preferred

/-- The name under which a direct endpoint is ranked and its losses are counted. -/
def rpcLabel (name : String) : String := "rpc://" ++ name

def pushNew (ordered : List RpcHandle) (endpoint : RpcHandle) : List RpcHandle :=
  if ordered.any fun existing => existing.id == endpoint.id then ordered else ordered ++ [endpoint]

def directRpcSubmitEndpoints (config : Config) (fleet : RpcFleet) (adaptive : Mutex AdaptivePolicy)
    (preferredEndpoint : RpcHandle) : List RpcHandle :=
  let offered := fleet.sendCandidates (max config.mev.rpcFanoutCount 1)
  let rankedByHealth := if offered.any fun endpoint => endpoint.id == preferredEndpoint.id then offered
    else preferredEndpoint :: offered
  let rankedByPath := rankRelays adaptive (rankedByHealth.map fun endpoint => rpcLabel endpoint.name)
  let byPath := rankedByPath.filterMap fun path =>
    rankedByHealth.find? fun endpoint => path.relay == rpcLabel endpoint.name
  ((byPath ++ rankedByHealth).foldl pushNew []).take (max config.mev.rpcFanoutCount 1)

def rankDirectRpcSubmitPaths (config : Config) (fleet : RpcFleet) (adaptive : Mutex AdaptivePolicy)
    (preferredEndpoint : RpcHandle) (cluster : ClusterKey) : List RelayQuote :=
  let submitEndpoints := directRpcSubmitEndpoints config fleet adaptive preferredEndpoint
  rankRelaysForCluster adaptive (submitEndpoints.map fun endpoint => rpcLabel endpoint.name) cluster

/-- The endpoints that get the signed transaction. The candidates that no ranked path names follow the
named ones. -/
def directRpcSubmitEndpointsFromRankedPaths (config : Config) (fleet : RpcFleet)
    (rankedSubmitPaths : List RelayQuote) : List RpcHandle :=
  let candidates := fleet.sendCandidates (max config.mev.rpcFanoutCount 1)
  let pulled := Reorder.pull (fun path endpoint => path.relay == rpcLabel endpoint.name) rankedSubmitPaths candidates
  (pulled.1 ++ pulled.2).take (max config.mev.rpcFanoutCount 1)

/-- Ranked paths only order the endpoints: every candidate of the fleet is among them, whatever the
paths are. -/
theorem directRpcSubmitEndpointsFromRankedPaths_perm (config : Config) (fleet : RpcFleet)
    (rankedSubmitPaths : List RelayQuote) :
    (directRpcSubmitEndpointsFromRankedPaths config fleet rankedSubmitPaths).Perm
      (fleet.sendCandidates (max config.mev.rpcFanoutCount 1)) := by
  have whole := Reorder.pull_perm (fun path endpoint => path.relay == rpcLabel endpoint.name) rankedSubmitPaths
    (fleet.sendCandidates (max config.mev.rpcFanoutCount 1))
  have bound := fleet.length_sendCandidates_le (max config.mev.rpcFanoutCount 1)
  have short := whole.length_eq.trans_le bound
  unfold directRpcSubmitEndpointsFromRankedPaths
  dsimp only
  rw [List.take_of_length_le (short.trans (by omega))]
  exact whole

end ArbitrageRuntime
