import QTom.Router.RouteTable
import QTom.Router.TopK

/- The CPU router (`cpu_router.rs`): one request, and a batch over worker threads.
   A request is scored against the rows one by one; a batch without debug output on
   a large table goes through the blocked scan, which walks blocks of agents for
   blocks of requests. Worker threads share nothing but the table and the states,
   and their partial results are joined in order, so a thread is a call. The three
   copies of the result's tail are one function, `finish`. -/
namespace QTom.Router
open QTom.Lib

def productionBlockedMinAgents : Nat := 32768
def productionRequestBlock : Nat := 8
def productionAgentBlock : Nat := 256

structure CpuRouter (F : Type) where
  routeTable : Except RouteError (AgentRouteTable F)
  coefficients : ScoreCoefficients F
  debugObserved : Bool

/-- A route table and states `validate_batch` has found to be of one length. -/
structure ValidatedBatch (F : Type) where
  routeTable : AgentRouteTable F
  states : List (AgentRuntimeState F)
  paired : states.length = routeTable.len

section
variable {F : Type}

def ValidatedBatch.state (b : ValidatedBatch F) (index : Fin b.routeTable.len) :
    AgentRuntimeState F :=
  b.states.get ⟨index, b.paired.symm ▸ index.isLt⟩

def CpuRouter.new (agents : List (AgentProfile F)) (coefficients : ScoreCoefficients F) :
    CpuRouter F :=
  ⟨AgentRouteTable.fromAgents agents, coefficients, true⟩

def CpuRouter.withDebugObserved (router : CpuRouter F) (debugObserved : Bool) : CpuRouter F :=
  { router with debugObserved }

/-! Validation. -/

def checkRequest (expected : Nat) (request : RoutingRequest F) : Except RouteError Unit :=
  if request.vector.length ≠ expected then
    .error (.dimensionMismatch expected request.vector.length "routing request")
  else .ok ()

def checkRequests (expected : Nat) (requests : List (RoutingRequest F)) :
    Except RouteError Unit :=
  requests.forM (checkRequest expected)

def CpuRouter.validateBatch (router : CpuRouter F) (requests : List (RoutingRequest F))
    (states : List (AgentRuntimeState F)) : Except RouteError (ValidatedBatch F) := do
  let routeTable ← router.routeTable
  if routeTable.isEmpty then
    throw .emptyAgents
  else if h : routeTable.len ≠ states.length then
    throw (.stateLengthMismatch routeTable.len states.length)
  else
    checkRequests routeTable.dimensions requests
    return { routeTable, states, paired := (not_not.mp h).symm }

def CpuRouter.validateRequest (router : CpuRouter F) (request : RoutingRequest F)
    (states : List (AgentRuntimeState F)) : Except RouteError (ValidatedBatch F) :=
  router.validateBatch [request] states

end

section
variable {F : Type} [F32 F]

/-! One request. -/

def scanCandidates {σ : Type} (requestVector : List F) (coefficients : ScoreCoefficients F)
    (b : ValidatedBatch F) (push : σ → CompactCandidate F → σ) (init : σ) : σ :=
  if b.routeTable.dimensions = 0 then
    (b.states.mapFinIdx fun index state h =>
      scoreCompactCandidate requestVector coefficients
        (b.routeTable.agentId ⟨index, b.paired ▸ h⟩) (b.routeTable.vector ⟨index, b.paired ▸ h⟩)
        state).foldl push init
  else
    ((b.routeTable.agentIds.zip (chunksExact b.routeTable.dimensions b.routeTable.vectors)).zip
      b.states).foldl (fun acc row =>
        push acc (scoreCompactCandidate requestVector coefficients row.1.1 row.1.2 row.2)) init

def fallbackCandidate (agentId : Nat) : RouteCandidate F where
  agentId
  effectiveDistance := F32.infinity
  baseDistance := F32.infinity
  omega := F32.one
  queuePenalty := F32.zero
  latencyPenalty := F32.zero
  cachePenalty := F32.zero
  available := true

/-- The result's tail: the fallback check and the fallback entry. -/
def finish (request : RoutingRequest F) (availableCandidates : List (RouteCandidate F))
    (idealCandidateUnavailable : Bool) (debug : Option (RouteDebugInfo F)) : RoutingResult F :=
  let usedFallback := (availableCandidates.head?.map fun candidate =>
    F32.gt candidate.baseDistance request.radiusMaxThreshold).getD true
  { taskId := request.taskId
    availableCandidates :=
      if usedFallback then availableCandidates ++ [fallbackCandidate request.fallbackGeneralistId]
      else availableCandidates
    usedFallback
    idealCandidateUnavailable
    debug }

/-- The two selections one scan fills: every candidate is observed, an available
one is also offered to the second. -/
def pushBoth {σ τ : Type} (observe : σ → CompactCandidate F → σ)
    (offer : τ → CompactCandidate F → τ) (acc : σ × τ) (candidate : CompactCandidate F) : σ × τ :=
  (observe acc.1 candidate, if candidate.available then offer acc.2 candidate else acc.2)

namespace CpuRouter

def routeOneBestValidated (router : CpuRouter F) (request : RoutingRequest F)
    (b : ValidatedBatch F) : Except RouteError (RoutingResult F) :=
  let scanned := scanCandidates request.vector router.coefficients b
    (pushBoth BestCandidate.push BestCandidate.push)
    (BestCandidate.new .observed true, BestCandidate.new .available true)
  let observedBest := scanned.1.intoCandidate
  .ok (finish request scanned.2.intoCandidate.toList
    ((observedBest.map fun candidate => !candidate.available).getD false)
    (if router.debugObserved then some ⟨observedBest.toList⟩ else none))

def routeOneValidated (router : CpuRouter F) (request : RoutingRequest F)
    (b : ValidatedBatch F) : Except RouteError (RoutingResult F) :=
  if request.k = 1 then router.routeOneBestValidated request b
  else if router.debugObserved then
    let scanned := scanCandidates request.vector router.coefficients b
      (pushBoth BoundedTopK.push BoundedTopK.push)
      (BoundedTopK.new request.k .observed, BoundedTopK.new request.k .available)
    let observedCandidates := scanned.1.intoVec
    .ok (finish request scanned.2.intoVec
      ((observedCandidates.head?.map fun candidate => !candidate.available).getD false)
      (some ⟨observedCandidates⟩))
  else
    let scanned := scanCandidates request.vector router.coefficients b
      (pushBoth BestCandidate.push BoundedTopK.push)
      (BestCandidate.new .observed (0 < request.k), BoundedTopK.new request.k .available)
    .ok (finish request scanned.2.intoVec scanned.1.idealCandidateUnavailable none)

def routeOne (router : CpuRouter F) (request : RoutingRequest F)
    (states : List (AgentRuntimeState F)) : Except RouteError (RoutingResult F) := do
  let b ← router.validateRequest request states
  router.routeOneValidated request b

end CpuRouter

/-! A batch. -/

inductive ProductionAvailableAccumulator (F : Type) where
  | best (winner : BestCandidate F)
  | topK (selection : BoundedTopK F)

namespace ProductionAvailableAccumulator

def new (k : Nat) : ProductionAvailableAccumulator F :=
  if k = 1 then .best (.new .available true) else .topK (.new k .available)

def push : ProductionAvailableAccumulator F → CompactCandidate F → ProductionAvailableAccumulator F
  | .best winner, candidate => .best (winner.push candidate)
  | .topK selection, candidate => .topK (selection.push candidate)

def intoVec : ProductionAvailableAccumulator F → List (CompactCandidate F)
  | .best winner => winner.intoCandidate.toList
  | .topK selection => selection.intoVec

end ProductionAvailableAccumulator

structure ProductionAccumulator (F : Type) where
  observedBest : BestCandidate F
  available : ProductionAvailableAccumulator F

namespace ProductionAccumulator

def new (k : Nat) : ProductionAccumulator F := ⟨.new .observed (0 < k), .new k⟩

def push (a : ProductionAccumulator F) (candidate : CompactCandidate F) : ProductionAccumulator F :=
  { observedBest := a.observedBest.push candidate
    available := if candidate.available then a.available.push candidate else a.available }

def intoResult (a : ProductionAccumulator F) (request : RoutingRequest F) : RoutingResult F :=
  finish request a.available.intoVec a.observedBest.idealCandidateUnavailable none

end ProductionAccumulator

def pushAgentToRequestBlock (requests : List (RoutingRequest F))
    (accumulators : List (ProductionAccumulator F)) (agentId : Nat) (agentVector : List F)
    (factors : RuntimeScoreFactors F) : List (ProductionAccumulator F) :=
  List.zipWith (fun request accumulator =>
    accumulator.push (scoreCompactCandidateWithFactors request.vector agentId agentVector factors))
    requests accumulators

/-- The two branches of the source's scan slice the same row in two ways, which is
`AgentRouteTable.vector` in both. -/
def scanProductionRequestBlock (requests : List (RoutingRequest F))
    (accumulators : List (ProductionAccumulator F)) (coefficients : ScoreCoefficients F)
    (b : ValidatedBatch F) : List (ProductionAccumulator F) :=
  (blockStarts productionAgentBlock b.routeTable.len).foldl (fun accumulators agentStart =>
    (block productionAgentBlock b.routeTable.len agentStart).foldl (fun accumulators index =>
      pushAgentToRequestBlock requests accumulators (b.routeTable.agentId index)
        (b.routeTable.vector index) (.fromState (b.state index) coefficients))
      accumulators) accumulators

namespace CpuRouter

def routeBatchValidatedPerRequest (router : CpuRouter F) (requests : List (RoutingRequest F))
    (b : ValidatedBatch F) : Except RouteError (List (RoutingResult F)) :=
  requests.mapM fun request => router.routeOneValidated request b

def routeBatchValidatedProduction (router : CpuRouter F) (requests : List (RoutingRequest F))
    (b : ValidatedBatch F) : List (RoutingResult F) :=
  (chunks productionRequestBlock requests).flatMap fun requestBlock =>
    let accumulators := scanProductionRequestBlock requestBlock
      (requestBlock.map fun request => ProductionAccumulator.new request.k) router.coefficients b
    List.zipWith (fun request accumulator => accumulator.intoResult request) requestBlock accumulators

def routeBatchValidatedWorkerChunk (router : CpuRouter F) (requests : List (RoutingRequest F))
    (b : ValidatedBatch F) : Except RouteError (List (RoutingResult F)) :=
  if router.debugObserved || b.routeTable.len < productionBlockedMinAgents then
    router.routeBatchValidatedPerRequest requests b
  else .ok (router.routeBatchValidatedProduction requests b)

def routeBatchWithWorkers (router : CpuRouter F) (requests : List (RoutingRequest F))
    (states : List (AgentRuntimeState F)) (workers : Nat) :
    Except RouteError (List (RoutingResult F)) :=
  if requests.isEmpty then .ok []
  else do
    let b ← router.validateBatch requests states
    let workerCount := min (max workers 1) requests.length
    if workerCount = 1 then
      router.routeBatchValidatedWorkerChunk requests b
    else
      let chunkSize := divCeil requests.length workerCount
      let partials := (chunks chunkSize requests).map fun chunk =>
        router.routeBatchValidatedWorkerChunk chunk b
      partials.foldlM (fun results chunkResults => return results ++ (← chunkResults)) []

end CpuRouter

end

end QTom.Router
