import QTom.Loom.Event
import QTom.Loom.TaskEnvelope
import QTom.Router.Decision
import QTom.Router.RouteTable

/- Routing a task (`loom_route.rs`): the request made from a task envelope, the
   simulated agents made from requests, and the event a route decision is recorded
   by. The request's vector is made of f32 values nothing here looks at; how a u64
   becomes an f32 and how f32 values divide is left open, as the other f32
   operations are. -/
namespace QTom.Loom
open QTom.Lib QTom.Router

/-- Making f32 values: from the bits of a literal, from a u64 (`as f32`), by division. -/
class F32Values (F : Type) where
  ofBits : BitVec 32 → F
  ofU64 : BitVec 64 → F
  div : F → F → F

def defaultDim : Nat := 16

structure TaskRouteRequestConfig (F : Type) where
  dimensions : Nat
  k : Nat
  fallbackGeneralistId : Nat
  radiusMaxThreshold : F
  deriving DecidableEq, Repr

section Requests
variable {F : Type} [F32Values F]

/-- The radius is 0.75. -/
def TaskRouteRequestConfig.default : TaskRouteRequestConfig F where
  dimensions := defaultDim
  k := 3
  fallbackGeneralistId := 999
  radiusMaxThreshold := F32Values.ofBits 0x3f400000#32

def stableTextHash (text : String) : BitVec 64 :=
  text.toUTF8.toList.foldl (fun hash byte =>
    (hash * 0x100000001b3#64) ^^^ BitVec.ofNat 64 byte.toNat) 0xcbf29ce484222325#64

/-- Divided by 10000.0. -/
def unitInterval (value : BitVec 64) : F :=
  let mixed := value ^^^ ((value >>> 33) * 0xff51afd7ed558ccd#64)
  F32Values.div (F32Values.ofU64 (mixed % 10000#64)) (F32Values.ofBits 0x461c4000#32)

def taskSeeds (task : TaskEnvelope) : List (BitVec 64) :=
  [BitVec.ofNat 64 task.taskId, BitVec.ofNat 64 task.rootTaskId,
    BitVec.ofNat 64 (task.parentTaskId.getD 0), BitVec.ofNat 64 task.promptId,
    BitVec.ofNat 64 task.planId, BitVec.ofNat 64 task.integrationGroupId,
    stableTextHash task.summary]

def buildRouteRequestFromTask (task : TaskEnvelope) (config : TaskRouteRequestConfig F) :
    Except LoomModelError (RoutingRequest F) :=
  if config.dimensions = 0 then
    .error (.invalidNumericField "dimensions" "must be greater than zero")
  else
    .ok {
      taskId := task.taskId
      vector := (List.range config.dimensions).map fun index =>
        unitInterval ((taskSeeds task).get
          ⟨index % (taskSeeds task).length, Nat.mod_lt _ (Nat.succ_pos 6)⟩ +
            BitVec.ofNat 64 (index * 31))
      k := config.k
      fallbackGeneralistId := config.fallbackGeneralistId
      radiusMaxThreshold := config.radiusMaxThreshold }

end Requests

section Agents
variable {F : Type}

/-- The row made for a request. -/
def simulatedAgent (firstAgentId index : Nat) (request : RoutingRequest F) : AgentProfile F where
  id := firstAgentId + index
  vector := request.vector
  labels :=
    { modelProfile := 0
      toolProfile := 0
      mcpProfile := 0
      memoryProfile := request.taskId % 65535
      costClass := 0
      latencyClass := 0 }

def simulatedAgentsForRequests (requests : List (RoutingRequest F)) (firstAgentId : Nat) :
    List (AgentProfile F) :=
  requests.mapIdx fun index request => simulatedAgent firstAgentId index request

end Agents

structure TaskRouteDecisionEventConfig where
  eventId : Nat
  rootTaskId : Nat
  promptId : Nat
  topologySnapshotId : Nat
  occurredAtMs : Nat
  correlationId : Nat
  deriving DecidableEq, Repr

def routeDecisionRecordedEvent {F : Type} (decision : RouteDecision F)
    (config : TaskRouteDecisionEventConfig) : LoomEvent where
  eventId := config.eventId
  eventType := .routeDecisionRecorded
  rootTaskId := config.rootTaskId
  taskId := some decision.taskId
  parentTaskId := none
  promptId := some config.promptId
  agentId := none
  agentRole := none
  topologySnapshotId := some config.topologySnapshotId
  payloadSchema := "qtom.route_decision.v1"
  payloadRef := "inline://route-decision/" ++ toString decision.routeDecisionId
  occurredAtMs := config.occurredAtMs
  causationId := none
  correlationId := config.correlationId

/-! What they are made of. -/

/-- A task's request is about the task, and has the dimensions it was asked for. -/
theorem buildRouteRequestFromTask_ok {F : Type} [F32Values F] (task : TaskEnvelope)
    {config : TaskRouteRequestConfig F}
    (h : config.dimensions ≠ 0) : ∃ request, buildRouteRequestFromTask task config = .ok request ∧
      request.taskId = task.taskId ∧ request.k = config.k ∧
      request.vector.length = config.dimensions := by
  unfold buildRouteRequestFromTask
  rw [if_neg h]
  refine ⟨_, rfl, rfl, rfl, ?_⟩
  rw [List.length_map, List.length_range]

section
variable {F : Type}

theorem length_simulatedAgents (requests : List (RoutingRequest F)) (firstAgentId : Nat) :
    (simulatedAgentsForRequests requests firstAgentId).length = requests.length :=
  List.length_mapIdx

/-- Requests of one dimension make rows of that dimension. -/
theorem simulatedAgents_uniform {requests : List (RoutingRequest F)} {d : Nat}
    (h : ∀ request ∈ requests, request.vector.length = d) (firstAgentId : Nat) :
    AgentRouteTable.Uniform d (simulatedAgentsForRequests requests firstAgentId) := by
  intro agent hagent
  obtain ⟨index, hindex, rfl⟩ := List.mem_mapIdx.mp hagent
  exact h _ (List.getElem_mem hindex)

end
end QTom.Loom
