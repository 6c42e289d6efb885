import QTom.Lib.Checked
import QTom.Router.CpuRouter

/- The CPU router as it executes: the functions of `cpu_router.rs`, `route_table.rs`
   and `score.rs` with every operation that may panic checked, debug assertions and
   usize overflow among them. The slots, the length and the worst index are separate
   fields here, as in the source, and nothing is known of them. -/
namespace QTom.Router
open QTom.Lib
variable {F : Type}

/-- `size_of::<CompactCandidate>()`: a u32, six f32 and a bool. -/
def compactCandidateSize : Nat := 32

/-- `size_of::<RoutingResult>()`: a u64, two Vecs and two bools. -/
def routingResultSize : Nat := 64

/-! Storage. -/

inductive RawStorage (α : Type) where
  | stack (candidates : List (Option α)) (len : Nat)
  | heap (candidates : List α)

namespace RawStorage
variable {α : Type}

def new (k : Nat) : Checked (RawStorage α) :=
  if k ≤ stackTopKCap then .ok (.stack (List.replicate stackTopKCap none) 0)
  else do
    let candidates ← Checked.withCapacity compactCandidateSize k
    return .heap candidates

def len : RawStorage α → Nat
  | .stack _ len => len
  | .heap candidates => candidates.length

def candidate : RawStorage α → Nat → Checked α
  | .stack candidates len, idx => do
    Checked.debugAssert (idx < len)
    let slot ← Checked.read candidates idx
    Checked.expect slot
  | .heap candidates, idx => Checked.read candidates idx

def push : RawStorage α → α → Checked (RawStorage α)
  | .stack candidates len, candidate => do
    Checked.debugAssert (len < stackTopKCap)
    let candidates ← Checked.write candidates len (some candidate)
    let len ← Checked.add len 1
    return .stack candidates len
  | .heap candidates, candidate => .ok (.heap (candidates ++ [candidate]))

def replace : RawStorage α → Nat → α → Checked (RawStorage α)
  | .stack candidates len, idx, candidate => do
    Checked.debugAssert (idx < len)
    let candidates ← Checked.write candidates idx (some candidate)
    return .stack candidates len
  | .heap candidates, idx, candidate => do
    let candidates ← Checked.write candidates idx candidate
    return .heap candidates

def intoVec : RawStorage α → Checked (List α)
  | .stack candidates len => do
    let out ← Checked.withCapacity compactCandidateSize len
    (candidates.take len).foldlM (fun out candidate => do
      let candidate ← Checked.expect candidate
      return out ++ [candidate]) out
  | .heap candidates => .ok candidates

end RawStorage

/-! The bounded selection. -/

structure RawTopK (F : Type) where
  k : Nat
  sort : CandidateSort
  storage : RawStorage (CompactCandidate F)
  worstIdx : Option Nat

namespace RawTopK

def new (k : Nat) (sort : CandidateSort) : Checked (RawTopK F) := do
  let storage ← RawStorage.new k
  return { k, sort, storage, worstIdx := none }

def len (b : RawTopK F) : Nat := b.storage.len

def candidate (b : RawTopK F) (idx : Nat) : Checked (CompactCandidate F) := b.storage.candidate idx

def pushCandidate (b : RawTopK F) (candidate : CompactCandidate F) : Checked (RawTopK F) := do
  let storage ← b.storage.push candidate
  return { b with storage }

def replaceCandidate (b : RawTopK F) (idx : Nat) (candidate : CompactCandidate F) :
    Checked (RawTopK F) := do
  let storage ← b.storage.replace idx candidate
  return { b with storage }

variable [F32 F]

def updateWorstAfterPush (b : RawTopK F) : Checked (RawTopK F) := do
  let newIdx ← Checked.sub b.len 1
  match b.worstIdx with
  | some worstIdx =>
    let new ← b.candidate newIdx
    let worst ← b.candidate worstIdx
    if compareCandidate b.sort new worst = .gt then return { b with worstIdx := some newIdx }
    else return b
  | none => return { b with worstIdx := some newIdx }

def recomputeWorst (b : RawTopK F) : Checked (RawTopK F) := do
  let worstIdx ← Checked.maxBy (fun left right => do
    let left ← b.candidate left
    let right ← b.candidate right
    return compareCandidate b.sort left right) (List.range b.len)
  return { b with worstIdx }

def push (b : RawTopK F) (candidate : CompactCandidate F) : Checked (RawTopK F) :=
  if b.k = 0 then .ok b
  else if b.len < b.k then do
    let b ← b.pushCandidate candidate
    b.updateWorstAfterPush
  else
    match b.worstIdx with
    | none => .ok b
    | some worstIdx => do
      let worst ← b.candidate worstIdx
      if compareCandidate b.sort candidate worst = .lt then
        let b ← b.replaceCandidate worstIdx candidate
        b.recomputeWorst
      else return b

def intoVec (b : RawTopK F) : Checked (List (CompactCandidate F)) := do
  let candidates ← b.storage.intoVec
  return sortBy (compareCandidate b.sort) candidates

end RawTopK

/-! Scoring. -/

section
variable [F32 F]

/-- One turn of the loop over blocks of four. -/
def Lanes.addChecked (s : Lanes F) (left right : List F) : Checked (Lanes F) := do
  let l0 ← Checked.read left 0
  let r0 ← Checked.read right 0
  let l1 ← Checked.read left 1
  let r1 ← Checked.read right 1
  let l2 ← Checked.read left 2
  let r2 ← Checked.read right 2
  let l3 ← Checked.read left 3
  let r3 ← Checked.read right 3
  return ⟨addSquare s.sum0 l0 r0, addSquare s.sum1 l1 r1, addSquare s.sum2 l2 r2,
    addSquare s.sum3 l3 r3⟩

def distSqBlockedChecked (lhs rhs : List F) : Checked F := do
  Checked.debugAssert (lhs.length = rhs.length)
  let lhsChunks ← Checked.chunksExact 4 lhs
  let rhsChunks ← Checked.chunksExact 4 rhs
  let s ← (lhsChunks.zip rhsChunks).foldlM (fun s p => Lanes.addChecked s p.1 p.2)
    ⟨F32.zero, F32.zero, F32.zero, F32.zero⟩
  return ((remainder lhs).zip (remainder rhs)).foldl (fun sum p => addSquare sum p.1 p.2)
    (F32.add (F32.add s.sum0 s.sum1) (F32.add s.sum2 s.sum3))

/-- The score over a base distance. -/
def scoreOf (agentId : Nat) (baseDistance : F) (factors : RuntimeScoreFactors F) :
    CompactCandidate F where
  agentId
  effectiveDistance := if factors.available then F32.mul baseDistance factors.omega else F32.infinity
  baseDistance
  omega := factors.omega
  queuePenalty := factors.queuePenalty
  latencyPenalty := factors.latencyPenalty
  cachePenalty := factors.cachePenalty
  available := factors.available

def scoreCompactCandidateChecked (requestVector : List F) (coefficients : ScoreCoefficients F)
    (agentId : Nat) (agentVector : List F) (state : AgentRuntimeState F) :
    Checked (CompactCandidate F) := do
  Checked.debugAssert (requestVector.length = agentVector.length)
  let baseDistance ← distSqBlockedChecked requestVector agentVector
  return scoreOf agentId baseDistance (.fromState state coefficients)

def scoreCompactCandidateWithFactorsChecked (requestVector : List F) (agentId : Nat)
    (agentVector : List F) (factors : RuntimeScoreFactors F) : Checked (CompactCandidate F) := do
  let baseDistance ← distSqBlockedChecked requestVector agentVector
  return scoreOf agentId baseDistance factors

end

/-! The route table. -/

def AgentRouteTable.agentIdChecked (t : AgentRouteTable F) (index : Nat) : Checked Nat :=
  Checked.read t.agentIds index

def AgentRouteTable.vectorChecked (t : AgentRouteTable F) (index : Nat) : Checked (List F) := do
  let start ← Checked.mul index t.dimensions
  let stop ← Checked.add start t.dimensions
  Checked.range t.vectors start stop

section
variable [F32 F]

/-! One request. -/

def scanCandidatesChecked {σ : Type} (requestVector : List F) (coefficients : ScoreCoefficients F)
    (routeTable : AgentRouteTable F) (states : List (AgentRuntimeState F))
    (push : σ → CompactCandidate F → Checked σ) (init : σ) : Checked σ :=
  if routeTable.dimensions = 0 then
    states.zipIdx.foldlM (fun acc row => do
      let agentId ← routeTable.agentIdChecked row.2
      let agentVector ← routeTable.vectorChecked row.2
      let candidate ← scoreCompactCandidateChecked requestVector coefficients agentId agentVector row.1
      push acc candidate) init
  else do
    let rows ← Checked.chunksExact routeTable.dimensions routeTable.vectors
    ((routeTable.agentIds.zip rows).zip states).foldlM (fun acc row => do
      let candidate ← scoreCompactCandidateChecked requestVector coefficients row.1.1 row.1.2 row.2
      push acc candidate) init

/-- `pushBoth` into selections that may panic. -/
def pushBothChecked {σ τ : Type} (observe : σ → CompactCandidate F → Checked σ)
    (offer : τ → CompactCandidate F → Checked τ) (acc : σ × τ) (candidate : CompactCandidate F) :
    Checked (σ × τ) := do
  let observed ← observe acc.1 candidate
  let available ← (if candidate.available then offer acc.2 candidate else .ok acc.2)
  return (observed, available)

namespace CpuRouter

def routeOneBestValidatedChecked (router : CpuRouter F) (request : RoutingRequest F)
    (b : ValidatedBatch F) : Checked (Except RouteError (RoutingResult F)) := do
  let scanned ← scanCandidatesChecked request.vector router.coefficients b.routeTable b.states
    (fun (acc : BestCandidate F × BestCandidate F) candidate =>
      .ok (pushBoth BestCandidate.push BestCandidate.push acc candidate))
    (BestCandidate.new .observed true, BestCandidate.new .available true)
  let observedBest := scanned.1.intoCandidate
  return .ok (finish request scanned.2.intoCandidate.toList
    ((observedBest.map fun candidate => !candidate.available).getD false)
    (if router.debugObserved then some ⟨observedBest.toList⟩ else none))

def routeOneValidatedChecked (router : CpuRouter F) (request : RoutingRequest F)
    (b : ValidatedBatch F) : Checked (Except RouteError (RoutingResult F)) :=
  if request.k = 1 then router.routeOneBestValidatedChecked request b
  else do
    let availableTopK ← RawTopK.new request.k .available
    if router.debugObserved then
      let observedTopK ← RawTopK.new request.k .observed
      let scanned ← scanCandidatesChecked request.vector router.coefficients b.routeTable b.states
        (pushBothChecked RawTopK.push RawTopK.push) (observedTopK, availableTopK)
      let observedCandidates ← scanned.1.intoVec
      let availableCandidates ← scanned.2.intoVec
      return .ok (finish request availableCandidates
        ((observedCandidates.head?.map fun candidate => !candidate.available).getD false)
        (some ⟨observedCandidates⟩))
    else
      let scanned ← scanCandidatesChecked request.vector router.coefficients b.routeTable b.states
        (pushBothChecked (fun best candidate => .ok (BestCandidate.push best candidate)) RawTopK.push)
        (BestCandidate.new .observed (0 < request.k), availableTopK)
      let availableCandidates ← scanned.2.intoVec
      return .ok (finish request availableCandidates scanned.1.idealCandidateUnavailable none)

def routeOneChecked (router : CpuRouter F) (request : RoutingRequest F)
    (states : List (AgentRuntimeState F)) : Checked (Except RouteError (RoutingResult F)) :=
  match router.validateRequest request states with
  | .error e => .ok (.error e)
  | .ok b => router.routeOneValidatedChecked request b

end CpuRouter

/-! A batch. -/

inductive RawAvailableAccumulator (F : Type) where
  | best (winner : BestCandidate F)
  | topK (selection : RawTopK F)

namespace RawAvailableAccumulator

def new (k : Nat) : Checked (RawAvailableAccumulator F) :=
  if k = 1 then .ok (.best (.new .available true))
  else do
    let selection ← RawTopK.new k .available
    return .topK selection

def push : RawAvailableAccumulator F → CompactCandidate F → Checked (RawAvailableAccumulator F)
  | .best winner, candidate => .ok (.best (winner.push candidate))
  | .topK selection, candidate => do
    let selection ← selection.push candidate
    return .topK selection

def intoVec : RawAvailableAccumulator F → Checked (List (CompactCandidate F))
  | .best winner => .ok winner.intoCandidate.toList
  | .topK selection => selection.intoVec

end RawAvailableAccumulator

structure RawAccumulator (F : Type) where
  observedBest : BestCandidate F
  available : RawAvailableAccumulator F

namespace RawAccumulator

def new (k : Nat) : Checked (RawAccumulator F) := do
  let available ← RawAvailableAccumulator.new k
  return ⟨.new .observed (0 < k), available⟩

def push (a : RawAccumulator F) (candidate : CompactCandidate F) : Checked (RawAccumulator F) := do
  let observedBest := a.observedBest.push candidate
  let available ← (if candidate.available then a.available.push candidate else .ok a.available)
  return { observedBest, available }

def intoResult (a : RawAccumulator F) (request : RoutingRequest F) : Checked (RoutingResult F) := do
  let availableCandidates ← a.available.intoVec
  return finish request availableCandidates a.observedBest.idealCandidateUnavailable none

end RawAccumulator

def pushAgentToRequestBlockChecked (requests : List (RoutingRequest F))
    (accumulators : List (RawAccumulator F)) (agentId : Nat) (agentVector : List F)
    (factors : RuntimeScoreFactors F) : Checked (List (RawAccumulator F)) :=
  (requests.zip accumulators).mapM fun pair => do
    let candidate ← scoreCompactCandidateWithFactorsChecked pair.1.vector agentId agentVector factors
    pair.2.push candidate

/-- Both branches of the source's scan slice the row as `vector` does. -/
def scanProductionRequestBlockChecked (requests : List (RoutingRequest F))
    (accumulators : List (RawAccumulator F)) (coefficients : ScoreCoefficients F)
    (routeTable : AgentRouteTable F) (states : List (AgentRuntimeState F)) :
    Checked (List (RawAccumulator F)) := do
  Checked.debugAssert (requests.length = accumulators.length)
  (blockStarts productionAgentBlock routeTable.len).foldlM (fun accumulators agentStart => do
    let agentEnd ← Checked.add agentStart productionAgentBlock
    let agentEnd := min agentEnd routeTable.len
    (List.range' agentStart (agentEnd - agentStart)).foldlM (fun accumulators index => do
      let agentId ← routeTable.agentIdChecked index
      let agentVector ← routeTable.vectorChecked index
      let state ← Checked.read states index
      pushAgentToRequestBlockChecked requests accumulators agentId agentVector
        (.fromState state coefficients)) accumulators) accumulators

namespace CpuRouter

def routeBatchValidatedPerRequestChecked (router : CpuRouter F) (requests : List (RoutingRequest F))
    (b : ValidatedBatch F) : Checked (Except RouteError (List (RoutingResult F))) :=
  Checked.collect (fun request => router.routeOneValidatedChecked request b) requests

/-- One block of requests. -/
def routeRequestBlockChecked (router : CpuRouter F) (b : ValidatedBatch F)
    (requestBlock : List (RoutingRequest F)) : Checked (List (RoutingResult F)) := do
  let accumulators ← requestBlock.mapM fun request => RawAccumulator.new request.k
  let accumulators ← scanProductionRequestBlockChecked requestBlock accumulators router.coefficients
    b.routeTable b.states
  (requestBlock.zip accumulators).mapM fun pair => pair.2.intoResult pair.1

def routeBatchValidatedProductionChecked (router : CpuRouter F) (requests : List (RoutingRequest F))
    (b : ValidatedBatch F) : Checked (List (RoutingResult F)) := do
  let results ← Checked.withCapacity routingResultSize requests.length
  let requestBlocks ← Checked.chunks productionRequestBlock requests
  let blockResults ← requestBlocks.mapM (router.routeRequestBlockChecked b)
  return results ++ blockResults.flatten

def routeBatchValidatedWorkerChunkChecked (router : CpuRouter F) (requests : List (RoutingRequest F))
    (b : ValidatedBatch F) : Checked (Except RouteError (List (RoutingResult F))) :=
  if router.debugObserved || b.routeTable.len < productionBlockedMinAgents then
    router.routeBatchValidatedPerRequestChecked requests b
  else do
    let results ← router.routeBatchValidatedProductionChecked requests b
    return .ok results

/-- The threads of a batch: each routes its chunk, and all are joined. -/
def routeBatchThreadsChecked (router : CpuRouter F) (requests : List (RoutingRequest F))
    (b : ValidatedBatch F) (workerCount : Nat) :
    Checked (Except RouteError (List (RoutingResult F))) := do
  let chunkSize ← Checked.divCeil requests.length workerCount
  let chunks ← Checked.chunks chunkSize requests
  let partials ← chunks.mapM fun chunk =>
    Checked.join (router.routeBatchValidatedWorkerChunkChecked chunk b)
  let results ← Checked.withCapacity routingResultSize requests.length
  return partials.foldlM (fun results chunkResults => return results ++ (← chunkResults)) results

def routeBatchWithWorkersChecked (router : CpuRouter F) (requests : List (RoutingRequest F))
    (states : List (AgentRuntimeState F)) (workers : Nat) :
    Checked (Except RouteError (List (RoutingResult F))) :=
  if requests.isEmpty then .ok (.ok [])
  else
    match router.validateBatch requests states with
    | .error e => .ok (.error e)
    | .ok b =>
      let workerCount := min (max workers 1) requests.length
      if workerCount = 1 then router.routeBatchValidatedWorkerChunkChecked requests b
      else router.routeBatchThreadsChecked requests b workerCount

end CpuRouter

end

end QTom.Router
