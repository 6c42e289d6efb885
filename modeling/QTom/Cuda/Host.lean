import QTom.Cuda.Kernel
import QTom.Lib.LastWrite
import QTom.Router.CpuRouter

/- The host side of k=1 routing on the GPU (`qtom-cuda/src/lib.rs`): the arrays it
   copies to the device, and the decoding of what the kernel wrote. A failed
   `expect` or index is `none`. Copies transfer the arrays as they are. -/
namespace QTom.Cuda
open QTom.Lib QTom.Router
variable {F : Type} [F32 F]

structure CudaRouteHostInputs (F : Type) where
  requestVectors : List F
  agentScoreWeights : List F
  availability : List Nat

def CudaRouteHostInputs.fromRequestsAndStates (requests : List (RoutingRequest F))
    (states : List (AgentRuntimeState F)) (coefficients : ScoreCoefficients F) :
    CudaRouteHostInputs F where
  requestVectors := requests.flatMap RoutingRequest.vector
  agentScoreWeights := states.map fun state =>
    F32.add (F32.add (F32.add F32.one (F32.mul coefficients.alphaQueue state.queueDepthNorm))
      (F32.mul coefficients.betaLatency state.latencyNorm))
      (F32.mul coefficients.gammaCache state.cachePressureNorm)
  availability := states.map AgentRuntimeState.availability

/-- The kernel's arguments for a table and its inputs. -/
def kernelArgs (routeTable : AgentRouteTable F) (requests : List (RoutingRequest F))
    (inputs : CudaRouteHostInputs F) : KernelArgs F where
  agentVectors := routeTable.vectors
  agentIds := routeTable.agentIds
  requestVectors := inputs.requestVectors
  agentScoreWeights := inputs.agentScoreWeights
  availability := inputs.availability
  agentCount := routeTable.len
  requestCount := requests.length
  dimensions := routeTable.dimensions

/-- Output buffers of the planned lengths at k=1. What a workspace's buffers hold
before a launch is left over from earlier ones. -/
structure CudaRouteKernelOutput.Planned (out : CudaRouteKernelOutput F) (requestCount : Nat) :
    Prop where
  agentIds : out.agentIds.length = requestCount
  effectiveDistances : out.effectiveDistances.length = requestCount
  baseDistances : out.baseDistances.length = requestCount
  flags : out.flags.length = requestCount

def decodeCandidate (agentId : Nat) (effectiveDistance baseDistance : F)
    (state : AgentRuntimeState F) (coefficients : ScoreCoefficients F) : RouteCandidate F :=
  let queuePenalty := F32.mul coefficients.alphaQueue state.queueDepthNorm
  let latencyPenalty := F32.mul coefficients.betaLatency state.latencyNorm
  let cachePenalty := F32.mul coefficients.gammaCache state.cachePressureNorm
  { agentId, effectiveDistance, baseDistance
    omega := F32.add (F32.add (F32.add F32.one queuePenalty) latencyPenalty) cachePenalty
    queuePenalty, latencyPenalty, cachePenalty
    available := true }

/-- `agent_index_by_id`: a later row overwrites an earlier one of the same id. -/
def agentIndexById (routeTable : AgentRouteTable F) : AList fun _ : Nat => Nat × Nat :=
  routeTable.agentIds.zipIdx.foldl (indexInsert fun row => some row.1) ∅

/-- The candidate of a slot; id 0 stands for none. -/
def decodeAvailable (routeTable : AgentRouteTable F) (coefficients : ScoreCoefficients F)
    (states : List (AgentRuntimeState F)) (output : CudaRouteKernelOutput F) (idx agentId : Nat) :
    Option (List (RouteCandidate F)) :=
  if agentId ≠ 0 then do
    let row ← (agentIndexById routeTable).lookup agentId
    let effectiveDistance ← output.effectiveDistances[idx]?
    let baseDistance ← output.baseDistances[idx]?
    let state ← states[row.2]?
    return [decodeCandidate agentId effectiveDistance baseDistance state coefficients]
  else some []

/-- One request's result from its output slot. The tail is `finish`, as on the CPU. -/
def decodeKOneResult (routeTable : AgentRouteTable F) (coefficients : ScoreCoefficients F)
    (states : List (AgentRuntimeState F)) (output : CudaRouteKernelOutput F)
    (request : RoutingRequest F) (idx : Nat) : Option (RoutingResult F) := do
  let agentId ← output.agentIds[idx]?
  let availableCandidates ← decodeAvailable routeTable coefficients states output idx agentId
  let flag ← output.flags[idx]?
  return finish request availableCandidates (flag != 0) none

def decodeKOneResults (routeTable : AgentRouteTable F) (coefficients : ScoreCoefficients F)
    (requests : List (RoutingRequest F)) (states : List (AgentRuntimeState F))
    (output : CudaRouteKernelOutput F) : Option (List (RoutingResult F)) :=
  requests.zipIdx.mapM fun entry =>
    decodeKOneResult routeTable coefficients states output entry.1 entry.2

/-- A run in a prepared workspace: the launch, its threads in `order`, and the
decoding. Allocation, the checks before it and the driver's errors are its caller's. -/
def executeWithPreparedWorkspace (workspace : CudaRouteKernelOutput F)
    (routeTable : AgentRouteTable F) (coefficients : ScoreCoefficients F)
    (requests : List (RoutingRequest F))
    (states : List (AgentRuntimeState F)) (inputs : CudaRouteHostInputs F)
    (order : List ThreadId) : Option (List (RoutingResult F)) := do
  let output ← launch (kernelArgs routeTable requests inputs)
    (for1dThreadCount requests.length routeAgentsK1BlockDimX) order workspace
  decodeKOneResults routeTable coefficients requests states output

end QTom.Cuda
