import ArbitrageRuntime.Base
import Mathlib.Data.List.Sort

namespace ArbitrageRuntime

inductive RpcKind
  | tenderly
  | getBlock
  | generic
  | alchemy
  | infura
  deriving DecidableEq, Repr

inductive RpcPreference
  | auto
  | getBlock
  | alchemy
  | infura
  deriving DecidableEq, Repr

structure RpcHandle where
  id : Nat
  name : String
  deriving DecidableEq

structure RpcEndpoint where
  id : Nat
  name : String
  kind : RpcKind
  deriving DecidableEq

/-- The fleet as one selection for sending finds it. `sendScores` is the score table of the cache,
indexed by endpoint id; an endpoint that is disabled or cools down has no score. -/
structure RpcFleet where
  endpoints : List RpcEndpoint
  rotation : Nat
  sendPreference : RpcPreference
  sendScores : List (Option ℚ)

namespace RpcFleet

def matchesPreference (kind : RpcKind) : RpcPreference → Bool
  | .auto => true
  | .getBlock => kind == .getBlock
  | .alchemy => kind == .alchemy
  | .infura => kind == .infura

def endpointScore (fleet : RpcFleet) (endpoint : RpcEndpoint) : Option (RpcEndpoint × ℚ) :=
  ((fleet.sendScores[endpoint.id]?).join).map fun score => (endpoint, score)

def toHandle (endpoint : RpcEndpoint) : RpcHandle := { id := endpoint.id, name := endpoint.name }

/-- The endpoints with a score, the preferred kind first of all, best score first. -/
def rankedCandidates (fleet : RpcFleet) : List (RpcEndpoint × ℚ) :=
  let preferred := (fleet.endpoints.filter fun endpoint => matchesPreference endpoint.kind fleet.sendPreference).filterMap
    fleet.endpointScore
  let candidates := if preferred.isEmpty then fleet.endpoints.filterMap fleet.endpointScore else preferred
  candidates.insertionSort fun left right => left.2 ≤ right.2

/-- `select_candidates` in send mode: the two best endpoints take turns. -/
def sendCandidates (fleet : RpcFleet) (limit : Nat) : List RpcHandle :=
  let candidates := fleet.rankedCandidates
  let topN := min candidates.length 2
  let rotated := if 1 < topN then
      (candidates.take topN).rotateLeft (fleet.rotation % topN) ++ candidates.drop topN
    else candidates
  (rotated.take (max limit 1)).map fun candidate => toHandle candidate.1

theorem length_sendCandidates_le (fleet : RpcFleet) (limit : Nat) :
    (fleet.sendCandidates limit).length ≤ max limit 1 := by
  unfold sendCandidates
  rw [List.length_map]
  exact List.length_take_le _ _

end RpcFleet

end ArbitrageRuntime
